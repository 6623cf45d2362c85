import Tox4j.Adapter.Proofs.Outstanding
import Tox4j.Java.Proofs.AvSessions

/-!
# The frames that listeners are asked for

A frame is pending from the iteration that asks for it until it is sent. The request waits for no
iteration but its own, so where somebody listens it is open for the client as long as it is pending
in the adapter.
-/

namespace Tox4j.Java

open Tox4j.Adapter Tox4j.Jni Tox4j.Misc

/-! ## Pending frames -/

/-- The request for a frame. -/
def frameRequest (medium : Medium) (f : UInt32) : AvOutput :=
  match medium with
  | .audio => .requestAudioFrame f
  | .video => .requestVideoFrame f

section

variable {av av' : Adapter.NewToxAv} {outputs : List AvOutput} {medium : Medium} {f : UInt32}

theorem asksFrame_iff {call : AvApiCall} {output : AvOutput} :
    AsksFrame medium f (call, output) ↔ output = frameRequest medium f := by
  cases medium <;> rfl

theorem framePending_setCall {g : UInt32} {new : AvCall} :
    (av.setCall g new).FramePending medium f ↔
      if g = f then new.eventPending medium = true else av.FramePending medium f := by
  simp only [Adapter.NewToxAv.FramePending, Adapter.NewToxAv.setCall, lookup_insert]
  by_cases heq : g = f
  · simp [heq]
  · simp [heq]

/-- Assigning to a call leaves its frames pending. -/
theorem framePending_setCall_same {g : UInt32} {old new : AvCall}
    (hold : av.friendToCall[g]? = some old)
    (hflag : new.eventPending medium = old.eventPending medium) :
    (av.setCall g new).FramePending medium f ↔ av.FramePending medium f := by
  rw [framePending_setCall]
  split
  · next heq =>
    subst heq
    simp [Adapter.NewToxAv.FramePending, hold, hflag]
  · exact Iff.rfl

/-- A new call has no frame pending. -/
theorem framePending_addCall {g : UInt32} {call : AvCall}
    (hcall : call.eventPending medium = false) :
    (av.addCall g call).FramePending medium f ↔ av.FramePending medium f := by
  simp only [Adapter.NewToxAv.FramePending, Adapter.NewToxAv.addCall, lookup_insertIfNew_getD]
  by_cases heq : g = f
  · subst heq
    cases hold : av.friendToCall[g]? with
    | none => simp [hcall]
    | some old => simp
  · simp [heq]

theorem requestFrames_eventPending {call : AvCall} :
    (requestFrames f call).1.eventPending medium = true ↔
      call.eventPending medium = true ∨ frameRequest medium f ∈ (requestFrames f call).2 := by
  obtain ⟨index, settings, state, audio, video⟩ := call
  cases medium <;> cases state <;> cases audio <;> cases video <;>
    simp [requestFrames, requestAudioFrame, AvCall.eventPending, frameRequest]

/-- A call that does not send video only is asked for a frame where it sends some and none is
    pending. -/
theorem frameRequest_mem_requestFrames {call : AvCall} (hstate : call.state ≠ .sendingV) :
    frameRequest medium f ∈ (requestFrames f call).2 ↔
      (call.state = .sendingAV ∨ call.state = JavaAv.sendingOnly medium) ∧
        ¬ call.eventPending medium = true := by
  obtain ⟨index, settings, state, audio, video⟩ := call
  cases medium <;> cases state <;> cases audio <;> cases video <;>
    simp_all [requestFrames, requestAudioFrame, AvCall.eventPending, frameRequest,
      JavaAv.sendingOnly]

theorem frameRequest_mem_afterToxavDo : frameRequest medium f ∈ (afterToxavDo av).2 ↔
    ∃ call, av.friendToCall[f]? = some call ∧ frameRequest medium f ∈ (requestFrames f call).2 := by
  rw [mem_afterToxavDo]
  constructor
  · intro h
    obtain ⟨g, call, hcall, hmem⟩ := h
    have hg : g = f := by
      cases medium <;> rcases mem_requestFrames hmem with heq | heq <;> cases heq <;> rfl
    subst hg
    exact ⟨call, hcall, hmem⟩
  · intro h
    obtain ⟨call, hcall, hmem⟩ := h
    exact ⟨f, call, hcall, hmem⟩

/-- After an iteration a frame is pending if it was before, or if it has been asked for. -/
theorem framePending_afterToxavDo_iff : (afterToxavDo av).1.FramePending medium f ↔
    av.FramePending medium f ∨ frameRequest medium f ∈ (afterToxavDo av).2 := by
  rw [frameRequest_mem_afterToxavDo, Adapter.NewToxAv.FramePending, Adapter.NewToxAv.FramePending,
    friendToCall_afterToxavDo]
  cases hcall : av.friendToCall[f]? with
  | none => simp
  | some call => simp [requestFrames_eventPending]

/-- A call other than the end of an iteration asks for nothing, and only a frame that is sent is not
    pending any more. -/
theorem framePending_run {ds : AvCSettings} {lg : Toxav} {call : AvApiCall}
    (hcall : call ≠ .afterToxavDo) (hrun : call.run ds lg av = .ok (av', outputs)) :
    (∀ output ∈ outputs, output ≠ frameRequest medium f) ∧
      (av'.FramePending medium f ↔
        av.FramePending medium f ∧ ∀ frame, medium = .audio → call ≠ .sendAudioFrame f frame) := by
  have hsame : (∀ frame, call ≠ .sendAudioFrame f frame) →
      (av'.FramePending medium f ↔ av.FramePending medium f) →
        (av'.FramePending medium f ↔ av.FramePending medium f ∧
          ∀ frame, medium = .audio → call ≠ .sendAudioFrame f frame) := by
    intro hnone hpending
    rw [hpending]
    exact ⟨fun h => ⟨h, fun frame _ => hnone frame⟩, And.left⟩
  cases AvApiCall.run_returns hrun with
  | called | invited =>
    refine ⟨by cases medium <;> simp [frameRequest], hsame (by simp) (framePending_addCall ?_)⟩
    cases medium <;> rfl
  | notCalling => exact ⟨by simp, hsame (by simp) Iff.rfl⟩
  | received => exact ⟨by cases medium <;> simp [frameRequest], hsame (by simp) Iff.rfl⟩
  | answered hrecord | rang hrecord | started hrecord =>
    refine ⟨by cases medium <;> simp [frameRequest],
      hsame (by simp) (framePending_setCall_same hrecord ?_)⟩
    cases medium <;> rfl
  | asked => exact absurd rfl hcall
  | @sentAudio g frame record data hrecord =>
    refine ⟨by cases medium <;> simp [frameRequest], ?_⟩
    cases medium with
    | video =>
      refine Iff.trans (framePending_setCall_same hrecord ?_) ⟨fun h => ⟨h, by simp⟩, And.left⟩
      rfl
    | audio =>
      rw [framePending_setCall]
      split
      · next heq =>
        subst heq
        simp [AvCall.eventPending]
      · next hne =>
        refine ⟨fun h => ⟨h, ?_⟩, And.left⟩
        intro frame' _ heq
        cases heq
        exact hne rfl

/-! ## No call sends video only -/

/-- No call is in the state in which it sends video only. -/
def NeverVideoOnly (av : Adapter.NewToxAv) : Prop :=
  ∀ (f : UInt32) (call : AvCall), av.friendToCall[f]? = some call → call.state ≠ .sendingV

theorem startedState_ne {callType : CallType} {state : CallState}
    (h : CB.startedState callType = .ok state) : state ≠ .sendingV := by
  cases callType <;> cases h <;> decide

theorem NeverVideoOnly.setCall (h : NeverVideoOnly av) {g : UInt32} {call : AvCall}
    (hcall : call.state ≠ .sendingV) : NeverVideoOnly (av.setCall g call) := by
  intro f call' hcall'
  simp only [Adapter.NewToxAv.setCall, lookup_insert] at hcall'
  split at hcall'
  · cases hcall'
    exact hcall
  · exact h f call' hcall'

theorem NeverVideoOnly.addCall (h : NeverVideoOnly av) {g : UInt32} {call : AvCall}
    (hcall : call.state ≠ .sendingV) : NeverVideoOnly (av.addCall g call) := by
  intro f call' hcall'
  simp only [Adapter.NewToxAv.addCall, lookup_insertIfNew_getD] at hcall'
  split at hcall'
  · next heq =>
    cases hold : av.friendToCall[g]? with
    | none =>
      rw [hold] at hcall'
      cases hcall'
      exact hcall
    | some old =>
      rw [hold] at hcall'
      cases hcall'
      exact h g old hold
  · exact h f call' hcall'

theorem requestFrames_state (f : UInt32) (call : AvCall) :
    (requestFrames f call).1.state = call.state := by
  obtain ⟨index, settings, state, audio, video⟩ := call
  cases state <;> cases audio <;> cases video <;> rfl

theorem NeverVideoOnly.run (h : NeverVideoOnly av) {ds : AvCSettings} {lg : Toxav}
    {call : AvApiCall} (hrun : call.run ds lg av = .ok (av', outputs)) : NeverVideoOnly av' := by
  cases AvApiCall.run_returns hrun with
  | called | invited => exact h.addCall (by simp)
  | notCalling | received => exact h
  | answered hrecord | sentAudio hrecord =>
    have hstate := h _ _ hrecord
    exact h.setCall hstate
  | rang => exact h.setCall (by simp)
  | @started callIdx g record state hrecord =>
    obtain ⟨actions, hstart, heq⟩ := avOutputs_eq_ok hrun
    simp only [CB.callstateOnStart, Checked.bind_eq_ok, Checked.pure_eq_ok,
      Prod.mk.injEq] at hstart
    obtain ⟨_, -, _, -, _, hstate, _, -, -, rfl⟩ := hstart
    cases heq
    exact h.setCall (startedState_ne hstate)
  | asked =>
    intro f call' hcall'
    rw [friendToCall_afterToxavDo, Option.map_eq_some_iff] at hcall'
    obtain ⟨call, hcall, rfl⟩ := hcall'
    rw [requestFrames_state]
    exact h f call hcall

theorem run_neverVideoOnly {ds : AvCSettings} {ls : List (Toxav × AvApiCall)} {s : AvLogged}
    (h : Run (AvLoggedStep ds) {} ls s) : NeverVideoOnly s.av := by
  induction h with
  | nil =>
    intro f call hcall
    simp at hcall
  | snoc _ hstep ih =>
    simp only [AvLoggedStep, AvLogged.run, Checked.bind_eq_ok, Checked.pure_eq_ok, Prod.exists]
      at hstep
    obtain ⟨av', outputs, hrun, rfl⟩ := hstep
    exact ih.run hrun

end

/-! ## Requests in the events -/

namespace JavaAv

section

variable {Listener Bytes : Type} {proto : AvProtobuf Bytes} {ds : AvCSettings} {lg : Toxav}
  {s s' : JavaAv Listener} {medium : Medium} {f : UInt32}

/-- The call that asks for a frame. -/
def requestCall (medium : Medium) (f : UInt32) : AvListenerCall :=
  match medium with
  | .audio => .requestAudioFrame f.toInt32
  | .video => .requestVideoFrame f.toInt32

theorem asksFor_told {listener : Listener} {call : AvListenerCall} :
    AsksFor medium f (.told listener call) ↔ call = requestCall medium f := by
  constructor
  · intro h
    obtain ⟨_, heq⟩ := h
    cases heq
    rfl
  · intro h
    exact ⟨listener, h ▸ rfl⟩

theorem not_sends_told {listener : Listener} {call : AvListenerCall} :
    ¬ Sends medium f (.told listener call) := by
  intro h
  cases h

theorem toInt32_inj {g : UInt32} : g.toInt32 = f.toInt32 ↔ g = f := by
  constructor
  · intro h
    simpa using congrArg Int32.toUInt32 h
  · exact congrArg _

/-- The requests are the events that are told as requests. -/
theorem listenerCall_eq_requestCall {output : AvOutput} {event : AvNativeEvent}
    (h : nativeOf output = some event) :
    event.listenerCall = requestCall medium f ↔ output = frameRequest medium f := by
  cases output with
  | action a =>
    cases a <;> cases h <;> cases medium <;>
      simp [AvNativeEvent.listenerCall, requestCall, frameRequest]
  | receiveAudioFrame | sendAudio | requestVideoFrame | requestAudioFrame =>
    cases h <;> cases medium <;>
      simp [AvNativeEvent.listenerCall, requestCall, frameRequest, toInt32_inj]

/-- What the events tell of a kind after some callbacks. -/
theorem calls_native {events events' : AvEvents} {batch : List AvNativeEvent}
    (h : batch.foldlM AvEvents.native events = .ok events') (kind : AvEventKind) :
    events'.calls kind = events.calls kind ++
      (batch.filter fun event => event.kind = kind).map AvNativeEvent.listenerCall := by
  obtain ⟨msgs, hmsgs, rfl⟩ := foldlM_native h
  refine (avMailbox_lawful.calls_foldl_add msgs events kind).trans ?_
  congr 1
  clear h
  induction hmsgs with
  | nil => rfl
  | cons hmsg _ ih =>
    obtain ⟨hkind, hcall⟩ := message_eq_some hmsg
    simp only [List.filter_cons, hkind]
    split
    · rw [List.map_cons, List.map_cons, hcall, ih]
    · exact ih

theorem requestCall_kind : (requestCall medium f).kind = requestKind medium := by
  cases medium <;> rfl

theorem listenerCall_kind (event : AvNativeEvent) : event.listenerCall.kind = event.kind := by
  cases event <;> rfl

/-- A listener, if there is one, is told of the requests that are collected. -/
theorem exists_asksFor_told {listeners : AvEventKind → Option Listener} {events : AvEvents} :
    (∃ e ∈ (avMailbox.replay listeners events).map tell, AsksFor medium f e) ↔
      (listeners (requestKind medium)).isSome ∧
        requestCall medium f ∈ events.calls (requestKind medium) := by
  constructor
  · intro h
    obtain ⟨e, he, hasks⟩ := h
    obtain ⟨⟨listener, call⟩, hcall, rfl⟩ := List.mem_map.mp he
    obtain rfl := asksFor_told.mp hasks
    obtain ⟨hlistener, hmem⟩ := avMailbox_lawful.mem_replay.mp hcall
    rw [requestCall_kind] at hlistener hmem
    exact ⟨Option.isSome_of_eq_some hlistener, hmem⟩
  · intro h
    obtain ⟨hsome, hmem⟩ := h
    obtain ⟨listener, hlistener⟩ := Option.isSome_iff_exists.mp hsome
    refine ⟨.told listener (requestCall medium f), ?_, asksFor_told.mpr rfl⟩
    refine List.mem_map.mpr ⟨(listener, requestCall medium f), ?_, rfl⟩
    rw [avMailbox_lawful.mem_replay, requestCall_kind]
    exact ⟨hlistener, hmem⟩

theorem pairwise_told {events : AvEvents}
    (h : (events.calls (requestKind medium)).Pairwise fun c c' =>
      ¬ (c = requestCall medium f ∧ c' = requestCall medium f))
    (listeners : AvEventKind → Option Listener) :
    ((avMailbox.replay listeners events).map tell).Pairwise fun e e' =>
      ¬ (AsksFor medium f e ∧ AsksFor medium f e') := by
  rw [List.pairwise_map]
  refine (avMailbox_lawful.pairwise_replay h listeners).imp ?_
  intro c c' hne hboth
  rw [tell, tell, asksFor_told, asksFor_told] at hboth
  refine hne ?_ ?_ hboth
  · rw [hboth.1]
    exact requestCall_kind
  · rw [hboth.2]
    exact requestCall_kind

/-- Only requests for frames are told as such. -/
theorem nativeOf_requestKind {output : AvOutput} {event : AvNativeEvent}
    (h : nativeOf output = some event) (hkind : event.kind = requestKind medium) :
    ∃ f, output = frameRequest medium f := by
  cases output with
  | action a => cases a <;> cases h <;> cases medium <;> cases hkind
  | receiveAudioFrame =>
    cases h
    cases medium <;> cases hkind
  | sendAudio => cases h
  | requestVideoFrame g | requestAudioFrame g =>
    cases h
    cases medium <;> cases hkind
    exact ⟨g, rfl⟩

/-! ## Calls of the adapter -/

/-- A call of the adapter other than the end of an iteration leaves the requests alone, and a frame
    pending unless it is sent. -/
theorem adapter_quiet (medium : Medium) (f : UInt32) {call : AvApiCall}
    (hcall : call ≠ .afterToxavDo) (h : s.adapter ds lg call = .ok s') :
    s'.history = s.history ∧ s'.callbacks = s.callbacks ∧
      s'.events.calls (requestKind medium) = s.events.calls (requestKind medium) ∧
        (s'.av.FramePending medium f ↔ s.av.FramePending medium f ∧
          ∀ frame, medium = .audio → call ≠ .sendAudioFrame f frame) := by
  obtain ⟨av, outputs, events, hrun, hevents, rfl⟩ := adapter_eq_ok h
  refine ⟨rfl, rfl, ?_, (framePending_run hcall hrun).2⟩
  have hnone : (outputs.filterMap nativeOf).filter
      (fun event => event.kind = requestKind medium) = [] := by
    rw [List.filter_eq_nil_iff]
    intro event hevent hkind
    obtain ⟨output, houtput, hnative⟩ := List.mem_filterMap.mp hevent
    obtain ⟨g, heq⟩ := nativeOf_requestKind hnative (of_decide_eq_true hkind)
    exact (framePending_run hcall hrun).1 output houtput heq
  rw [calls_native hevents, hnone]
  exact List.append_nil _

theorem callbacks_quiet (medium : Medium) (f : UInt32) {callbacks : List AvCallback}
    (h : callbacks.foldlM (fun s cb => s.adapter ds lg (.callback cb)) s = .ok s') :
    s'.history = s.history ∧ s'.callbacks = s.callbacks ∧
      s'.events.calls (requestKind medium) = s.events.calls (requestKind medium) ∧
        (s'.av.FramePending medium f ↔ s.av.FramePending medium f) := by
  induction callbacks generalizing s with
  | nil =>
    cases h
    exact ⟨rfl, rfl, rfl, Iff.rfl⟩
  | cons cb callbacks ih =>
    rw [List.foldlM_cons, Checked.bind_eq_ok] at h
    obtain ⟨mid, hcb, hrest⟩ := h
    obtain ⟨hhistory, hcallbacks, hcalls, hpending⟩ := adapter_quiet medium f (by simp) hcb
    obtain ⟨hhistory', hcallbacks', hcalls', hpending'⟩ := ih hrest
    refine ⟨hhistory'.trans hhistory, hcallbacks'.trans hcallbacks, hcalls'.trans hcalls, ?_⟩
    rw [hpending', hpending]
    simp

/-! ## Iterations -/

/-- What an iteration leaves: `mid` is the adapter when `toxav_do` returns, and `told` is what the
    listeners are told. -/
structure Iterated (medium : Medium) (f : UInt32) (s s' : JavaAv Listener) (mid : Adapter.NewToxAv)
    (told : List (ClientEvent Listener)) : Prop where
  av : s'.av = (afterToxavDo mid).1
  history : s'.history = s.history ++ told
  pending : mid.FramePending medium f ↔ s.av.FramePending medium f
  once : told.Pairwise fun e e' => ¬ (AsksFor medium f e ∧ AsksFor medium f e')
  noSends : ∀ e ∈ told, ¬ Sends medium f e
  asks : (∃ e ∈ told, AsksFor medium f e) ↔
    (s.callbacks (requestKind medium)).isSome ∧ frameRequest medium f ∈ (afterToxavDo mid).2

/-- The requests of a kind among the outputs, and among the calls that tell them. -/
theorem requestCall_mem {outputs : List AvOutput} : requestCall medium f ∈
    ((outputs.filterMap nativeOf).filter fun event => event.kind = requestKind medium).map
      AvNativeEvent.listenerCall ↔ frameRequest medium f ∈ outputs := by
  rw [List.mem_map]
  constructor
  · intro h
    obtain ⟨event, hevent, hcall⟩ := h
    obtain ⟨output, houtput, hnative⟩ := List.mem_filterMap.mp (List.mem_filter.mp hevent).1
    rw [← (listenerCall_eq_requestCall hnative).mp hcall]
    exact houtput
  · intro h
    obtain ⟨event, hnative⟩ : ∃ event, nativeOf (frameRequest medium f) = some event := by
      cases medium <;> exact ⟨_, rfl⟩
    have hcall := (listenerCall_eq_requestCall hnative).mpr rfl
    refine ⟨event, List.mem_filter.mpr ⟨List.mem_filterMap.mpr ⟨_, h, hnative⟩, ?_⟩, hcall⟩
    rw [decide_eq_true_eq, ← listenerCall_kind, hcall]
    exact requestCall_kind

theorem iteration_iterated (medium : Medium) (f : UInt32) (hproto : proto.RoundTrips)
    (hwaiting : s.events.calls (requestKind medium) = []) {callbacks : List AvCallback}
    (h : s.step ds proto lg (.iteration callbacks) = .ok s') :
    s'.events.calls (requestKind medium) = [] ∧
      ∃ mid told, Iterated medium f s s' mid told := by
  simp only [JavaAv.step, Checked.bind_eq_ok] at h
  obtain ⟨s₁, hcallbacks, s₂, hafter, hcollect⟩ := h
  obtain ⟨hhistory, hlisteners, hcalls, hpending⟩ := callbacks_quiet medium f hcallbacks
  obtain ⟨av, outputs, events, hrun, hevents, rfl⟩ := adapter_eq_ok hafter
  have hav : (afterToxavDo s₁.av).1 = av := congrArg Prod.fst (Except.ok.inj hrun)
  have houtputs : (afterToxavDo s₁.av).2 = outputs := congrArg Prod.snd (Except.ok.inj hrun)
  obtain rfl := collect_eq_ok hproto hcollect
  have hrequests := calls_native hevents (requestKind medium)
  rw [hcalls, hwaiting, List.nil_append] at hrequests
  refine ⟨avMailbox_lawful.calls_empty _, s₁.av,
    (avMailbox.replay s₁.callbacks events).map tell, hav.symm, ?_, hpending, ?_, ?_, ?_⟩
  · exact congrArg (· ++ _) hhistory
  · refine pairwise_told ?_ _
    rw [hrequests, List.pairwise_map]
    refine List.Pairwise.filter _ (List.pairwise_filterMap.mpr ?_)
    rw [← houtputs]
    refine (pairwise_afterToxavDo s₁.av medium f).imp ?_
    intro output output' hne event hevent event' hevent' hboth
    rw [asksFrame_iff, asksFrame_iff, ← listenerCall_eq_requestCall hevent,
      ← listenerCall_eq_requestCall hevent'] at hne
    exact hne hboth
  · intro e he
    obtain ⟨call, -, rfl⟩ := List.mem_map.mp he
    exact not_sends_told
  · rw [exists_asksFor_told, hlisteners, hrequests, requestCall_mem, houtputs]

/-! ## Runs -/

/-- No request waits in the events, requests for frames are separated, and a frame is pending while
    one is open. -/
structure InTurn (medium : Medium) (f : UInt32) (s : JavaAv Listener) : Prop where
  waiting : s.events.calls (requestKind medium) = []
  tracked : Tracked (AsksFor medium f) (Sends medium f) (s.av.FramePending medium f) s.history

/-- A move that neither asks for a frame nor sends one, that sends one, or that asks. -/
inductive Moved (medium : Medium) (f : UInt32) (s : JavaAv Listener)
    (move : Toxav × JavaAvMove Listener) (s' : JavaAv Listener) : Prop where
  | quiet (past : List (ClientEvent Listener)) (hhistory : s'.history = s.history ++ past)
      (hasks : ∀ e ∈ past, ¬ AsksFor medium f e) (hsends : ∀ e ∈ past, ¬ Sends medium f e)
      (hpending : s'.av.FramePending medium f ↔ s.av.FramePending medium f)
  | sent (e : ClientEvent Listener) (hhistory : s'.history = s.history ++ [e])
      (hsends : Sends medium f e) (hpending : ¬ s'.av.FramePending medium f)
  | iterated (callbacks : List AvCallback) (hmove : move.2 = .iteration callbacks)
      (mid : Adapter.NewToxAv) (told : List (ClientEvent Listener))
      (h : Iterated medium f s s' mid told)

theorem toxAvSendAudioFrame_friendNumber {g : Int32} {pcm : Option (JavaArray Int16)}
    {sampleCount channels samplingRate : Int32} {args : AudioFrameArgs}
    (h : toxAvSendAudioFrame g pcm sampleCount channels samplingRate = .ok (.ok args)) :
    args.friendNumber = g.toUInt32 := by
  simp only [toxAvSendAudioFrame, Checked.bind_eq_ok] at h
  obtain ⟨_, -, _, -, _, -, _, -, hargs⟩ := h
  split at hargs
  · cases hargs
  · cases hargs
    rfl

theorem step_moved (medium : Medium) (f : UInt32) (hproto : proto.RoundTrips)
    (hwaiting : s.events.calls (requestKind medium) = []) {move : Toxav × JavaAvMove Listener}
    (hstep : Step ds proto s move s') :
    s'.events.calls (requestKind medium) = [] ∧ Moved medium f s move s' := by
  obtain ⟨lg, move⟩ := move
  rw [Step] at hstep
  have hnothing : s'.history = s.history →
      s'.events.calls (requestKind medium) = s.events.calls (requestKind medium) →
        (s'.av.FramePending medium f ↔ s.av.FramePending medium f) →
          s'.events.calls (requestKind medium) = [] ∧ Moved medium f s (lg, move) s' := by
    intro hhistory hcalls hpending
    exact ⟨hcalls.trans hwaiting, .quiet [] (by rw [hhistory, List.append_nil]) (by simp) (by simp)
      hpending⟩
  cases move with
  | setCallback | callback =>
    cases hstep
    exact hnothing rfl rfl Iff.rfl
  | call | answer | native =>
    obtain ⟨hhistory, -, hcalls, hpending⟩ := adapter_quiet medium f (by simp) hstep
    exact hnothing hhistory hcalls (by simpa using hpending)
  | sendAudioFrame g pcm sampleCount channels samplingRate =>
    simp only [JavaAv.step, Checked.bind_eq_ok] at hstep
    obtain ⟨checked, hargs, hsent⟩ := hstep
    cases checked with
    | error =>
      cases hsent
      exact hnothing rfl rfl Iff.rfl
    | ok args =>
      obtain ⟨mid, hcall, hsent⟩ := Checked.bind_eq_ok.mp hsent
      cases hsent
      obtain ⟨hhistory, -, hcalls, hpending⟩ := adapter_quiet medium f (by simp) hcall
      refine ⟨hcalls.trans hwaiting, ?_⟩
      rw [toxAvSendAudioFrame_friendNumber hargs] at hpending
      by_cases hsends : Sends medium f (.sent .audio g : ClientEvent Listener)
      · refine .sent _ (congrArg (· ++ _) hhistory) hsends ?_
        intro hafter
        cases hsends
        have hround : f.toInt32.toUInt32 = f := by simp
        exact (hpending.mp hafter).2 _ rfl (congrArg (AvApiCall.sendAudioFrame · _) hround)
      · refine .quiet [.sent .audio g] (congrArg (· ++ _) hhistory) ?_ ?_ ?_
        · intro e he hasks
          cases List.mem_singleton.mp he
          obtain ⟨listener, heq⟩ := hasks
          cases heq
        · intro e he
          cases List.mem_singleton.mp he
          exact hsends
        · refine hpending.trans ⟨And.left, fun h => ⟨h, ?_⟩⟩
          intro frame hmedium heq
          cases heq
          subst hmedium
          exact hsends (by simp [Sends])
  | sendVideoFrame g width height y u v a =>
    rw [JavaAv.step] at hstep
    split at hstep
    · cases hstep
      exact hnothing rfl rfl Iff.rfl
    · obtain ⟨mid, hcall, -⟩ := Checked.bind_eq_ok.mp hstep
      obtain ⟨av, outputs, events, hrun, -⟩ := adapter_eq_ok hcall
      cases hrun
  | iteration callbacks =>
    obtain ⟨hcalls, mid, told, hiterated⟩ := iteration_iterated medium f hproto hwaiting hstep
    exact ⟨hcalls, .iterated callbacks rfl mid told hiterated⟩

theorem InTurn.step (hproto : proto.RoundTrips) (h : s.InTurn medium f)
    {move : Toxav × JavaAvMove Listener} (hstep : Step ds proto s move s') :
    s'.InTurn medium f := by
  obtain ⟨hwaiting, hmoved⟩ := step_moved medium f hproto h.waiting hstep
  refine ⟨hwaiting, ?_⟩
  cases hmoved with
  | quiet past hhistory hasks hsends hpending =>
    rw [hhistory]
    exact h.tracked.append_answers hasks fun hbefore => .inr (hpending.mpr hbefore)
  | sent e hhistory hsends hpending =>
    rw [hhistory]
    refine h.tracked.append_answers ?_ fun _ => .inl ⟨e, List.mem_singleton_self e, hsends⟩
    intro e' he' hasks
    cases List.mem_singleton.mp he'
    obtain ⟨listener, heq⟩ := hasks
    cases hsends.symm.trans heq
  | iterated _ _ mid told hiterated =>
    rw [hiterated.history, hiterated.av]
    refine h.tracked.append_asks hiterated.once ?_ ?_
    · intro e he hasks
      have hrequest := (hiterated.asks.mp ⟨e, he, hasks⟩).2
      obtain ⟨hbefore, hafter⟩ := framePending_of_asksFrame hrequest (asksFrame_iff.mpr rfl)
      exact ⟨fun hpending => hbefore (hiterated.pending.mpr hpending), hafter⟩
    · intro hbefore
      exact framePending_afterToxavDo (hiterated.pending.mpr hbefore)

theorem run_inTurn (medium : Medium) (f : UInt32) (hproto : proto.RoundTrips)
    {moves : List (Toxav × JavaAvMove Listener)} (h : Run (Step ds proto) {} moves s) :
    s.InTurn medium f := by
  have hstart : InTurn medium f ({} : JavaAv Listener) :=
    ⟨avMailbox_lawful.calls_empty _, .nil⟩
  exact h.invariant hstart fun _ _ _ hs hstep => hs.step hproto hstep

/-- Where somebody listens, a frame is pending only while the listener's request is open. -/
theorem open_of_framePending (hproto : proto.RoundTrips)
    {moves : List (Toxav × JavaAvMove Listener)}
    (h : Run (Guarded (Listening medium) (Step ds proto)) {} moves s)
    (hpending : s.av.FramePending medium f) :
    Since (AsksFor medium f) (Sends medium f) s.history := by
  induction h with
  | nil =>
    obtain ⟨call, hcall, -⟩ := hpending
    simp at hcall
  | @snoc moves s s' move hrun hstep ih =>
    have hturn := run_inTurn medium f hproto (hrun.mono fun _ _ _ hs => hs.2)
    obtain ⟨-, hmoved⟩ := step_moved medium f hproto hturn.waiting hstep.2
    cases hmoved with
    | quiet past hhistory hasks hsends hkept =>
      rw [hhistory, since_append_of_forall_not hasks hsends]
      exact ih (hkept.mp hpending)
    | sent e _ _ hnone => exact absurd hpending hnone
    | iterated callbacks hmove mid told hiterated =>
      have hlistening := hstep.1
      rw [Listening, hmove] at hlistening
      rw [hiterated.av, framePending_afterToxavDo_iff] at hpending
      rw [hiterated.history, since_append]
      rcases hpending with hbefore | hrequest
      · exact .inr ⟨ih (hiterated.pending.mp hbefore), hiterated.noSends⟩
      · obtain ⟨e, he, hasks⟩ := hiterated.asks.mpr ⟨hlistening, hrequest⟩
        exact .inl (.of_mem he hasks hiterated.noSends)

/-- An iteration asks for the frames that calls send and that are not pending. -/
theorem Iterated.request_iff {mid : Adapter.NewToxAv} {told : List (ClientEvent Listener)}
    (h : Iterated medium f s s' mid told) (hnever : NeverVideoOnly s'.av) :
    frameRequest medium f ∈ (afterToxavDo mid).2 ↔
      s'.InCall medium f ∧ ¬ s.av.FramePending medium f := by
  have hafter := friendToCall_afterToxavDo mid f
  rw [← h.av] at hafter
  rw [← h.pending, InCall, hafter, frameRequest_mem_afterToxavDo, Adapter.NewToxAv.FramePending]
  cases hcall : mid.friendToCall[f]? with
  | none => simp
  | some call =>
    rw [hcall] at hafter
    have hstate := hnever f _ hafter
    rw [requestFrames_state] at hstate
    simp [frameRequest_mem_requestFrames hstate, requestFrames_state]

/-- Between two requests for a frame of a medium that a listener is told of, the client sends one.
    Where somebody listens in every iteration, the next one tells of exactly the frames of calls
    that send the medium and that have no request open. -/
theorem frames_asked_in_turn (Listener : Type) {Bytes : Type} {proto : AvProtobuf Bytes}
    (hproto : proto.RoundTrips) (ds : AvCSettings) (medium : Medium) (f : UInt32) :
    (∀ moves (s : JavaAv Listener), Run (Step ds proto) {} moves s →
      Separated (AsksFor medium f) (Sends medium f) s.history) ∧
    ∀ moves (s : JavaAv Listener) move callbacks (s' : JavaAv Listener),
      Run (Guarded (Listening medium) (Step ds proto)) {} moves s →
        move.2 = .iteration callbacks → Guarded (Listening medium) (Step ds proto) s move s' →
          ∃ told, s'.history = s.history ++ told ∧
            ((∃ e ∈ told, AsksFor medium f e) ↔
              s'.InCall medium f ∧ ¬ Since (AsksFor medium f) (Sends medium f) s.history) := by
  constructor
  · intro moves s hrun
    exact (run_inTurn medium f hproto hrun).tracked.separated
  · intro moves s move callbacks s' hrun hmove hstep
    have hsteps := hrun.mono fun _ _ _ hs => hs.2
    have hturn := run_inTurn medium f hproto hsteps
    obtain ⟨ls, hadapter⟩ := (run_kept hproto (hsteps.snoc hstep.2)).adapter
    have hnever := run_neverVideoOnly hadapter
    obtain ⟨lg, move⟩ := move
    cases hmove
    obtain ⟨-, mid, told, hiterated⟩ := iteration_iterated medium f hproto hturn.waiting hstep.2
    have hlistening : (s.callbacks (requestKind medium)).isSome := hstep.1
    refine ⟨told, hiterated.history, ?_⟩
    rw [hiterated.asks, hiterated.request_iff hnever]
    constructor
    · intro h
      exact ⟨h.2.1, fun hsince => h.2.2 (hturn.tracked.pending hsince)⟩
    · intro h
      exact ⟨hlistening, h.1, fun hpending => h.2 (open_of_framePending hproto hrun hpending)⟩

end

/-- The last iteration asks for a frame again, since one has been sent. -/
theorem frames_asked_in_turn_listenersChange : ∃ s s' : JavaAv ℕ,
    Run (Guarded (Listening .audio) (Step {} plainAvProtobuf)) {} listenersChange.dropLast s ∧
      Step {} plainAvProtobuf s (.oneByte, .iteration []) s' ∧
        Separated (AsksFor .audio 0) (Sends .audio 0) s.history ∧
          ∃ told, s'.history = s.history ++ told ∧ ∃ e ∈ told, AsksFor .audio 0 e := by
  have hfold : (do
      let s ← listenersChange.dropLast.foldlM (fun s (move : Toxav × JavaAvMove ℕ) => do
        Checked.assert (listens .audio s move.2) "a listener"
        JavaAv.step {} plainAvProtobuf s move.1 move.2) ({} : JavaAv ℕ)
      let s' ← s.step {} plainAvProtobuf .oneByte (.iteration [])
      return (s.history, (s.callbacks .requestAudioFrame).isSome,
        s'.av.friendToCall[(0 : UInt32)]?.map AvCall.state)) =
      .ok ([.told 1 (.requestAudioFrame 0), .sent .audio 0], true, some .sendingA) := by
    decide +kernel
  simp only [Checked.bind_eq_ok, Checked.pure_eq_ok, Prod.mk.injEq, Option.map_eq_some_iff] at hfold
  obtain ⟨s, hfold, s', hlast, hhistory, hlistening, call, hcall, hstate⟩ := hfold
  have hrun : Run (Guarded (Listening .audio) (Step {} plainAvProtobuf)) {}
      listenersChange.dropLast s := by
    refine (Run.of_foldlM hfold).mono ?_
    intro s move s' hstep
    simp only [Checked.bind_eq_ok, Checked.assert_eq_ok] at hstep
    obtain ⟨_, hlistens, hstep⟩ := hstep
    exact ⟨hlistens, hstep⟩
  have hturn := frames_asked_in_turn ℕ (fun _ => rfl : plainAvProtobuf.RoundTrips) {} .audio 0
  obtain ⟨told, htold, hasks⟩ := hturn.2 _ s (.oneByte, .iteration []) [] s' hrun rfl
    ⟨hlistening, hlast⟩
  refine ⟨s, s', hrun, hlast, hturn.1 _ s (hrun.mono fun _ _ _ hs => hs.2), told, htold,
    hasks.mpr ⟨⟨call, hcall, .inr hstate⟩, ?_⟩⟩
  rw [hhistory]
  have hasks : ¬ AsksFor .audio 0 (.sent .audio 0 : ClientEvent ℕ) := by
    intro h
    obtain ⟨listener, heq⟩ := h
    cases heq
  have hsends : Sends .audio 0 (.sent .audio 0 : ClientEvent ℕ) := rfl
  exact not_since_append_singleton (l := [.told 1 (.requestAudioFrame 0)]) hasks hsends

end JavaAv

end Tox4j.Java
