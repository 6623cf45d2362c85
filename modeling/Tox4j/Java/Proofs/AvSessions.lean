import Mathlib.Tactic
import Tox4j.Adapter.Proofs.ReceivedAudio
import Tox4j.Java.AvSessions

/-!
# What the listeners of a `ToxAvImpl` hear

The messages of the callbacks are the events in another form: the call that a message makes of a
listener reports its event. So a `ToxAvImpl` is a mailbox for what its adapter does.
-/

namespace Tox4j.Java

open Tox4j.Adapter Tox4j.Jni Tox4j.Misc

theorem pixelCount_eq_some {width height : UInt16} {size : ℕ}
    (h : pixelCount width height = some size) : size = width.toNat * height.toNat := by
  rw [pixelCount] at h
  split at h
  · exact (Option.some.inj h).symm
  · cases h

theorem copyPlane_eq_some {plane copy : List UInt8} {size : ℕ}
    (h : copyPlane plane size = some copy) : copy = plane.take size := by
  rw [copyPlane] at h
  split at h
  · exact (Option.some.inj h).symm
  · cases h

/-- A callback that returns has copied a frame as it is. -/
theorem message_eq_some {event : AvNativeEvent} {msg : AvMessage} (h : event.message = some msg) :
    msg.kind = event.kind ∧ msg.listenerCall = event.listenerCall := by
  cases event with
  | call | callState | requestAudioFrame | requestVideoFrame =>
    cases h
    exact ⟨rfl, rfl⟩
  | receiveAudioFrame f pcm sampleCount channels samplingRate =>
    simp only [AvNativeEvent.message, tox4jReceiveAudioFrameCb, Option.map_eq_some_iff,
      Option.bind_eq_bind, Option.bind_eq_some_iff, addPcm_eq] at h
    obtain ⟨event, ⟨copied, hcopied, heq⟩, rfl⟩ := h
    cases heq
    split at hcopied
    · cases hcopied
      refine ⟨rfl, ?_⟩
      have hround : (Int32.toInt16 ∘ Int16.toInt32) = id := by
        funext sample
        exact Int16.toInt16_toInt32 sample
      simp only [AvMessage.listenerCall, AvNativeEvent.listenerCall, List.map_map, hround,
        List.map_id]
    · cases hcopied
  | receiveVideoFrame f width height y u v a =>
    simp only [AvNativeEvent.message, tox4jReceiveVideoFrameCb, Option.map_eq_some_iff,
      Option.bind_eq_bind, Option.bind_eq_some_iff] at h
    obtain ⟨_, ⟨size, hsize, y', hy, u', hu, v', hv, a', ha, heq⟩, rfl⟩ := h
    cases heq
    obtain rfl := pixelCount_eq_some hsize
    obtain rfl := copyPlane_eq_some hy
    obtain rfl := copyPlane_eq_some hu
    obtain rfl := copyPlane_eq_some hv
    refine ⟨rfl, ?_⟩
    cases a with
    | none =>
      cases ha
      rfl
    | some a =>
      obtain ⟨copy, hcopy, rfl⟩ := Option.map_eq_some_iff.mp ha
      obtain rfl := copyPlane_eq_some hcopy
      rfl

theorem AvMessage.listenerCall_kind (msg : AvMessage) : msg.listenerCall.kind = msg.kind := by
  cases msg <;> rfl

theorem AvEvents.add_calls (events : AvEvents) (msg : AvMessage) (kind : AvEventKind) :
    (events.add msg).calls kind =
      events.calls kind ++ if msg.kind = kind then [msg.listenerCall] else [] := by
  cases msg <;> cases kind <;> simp [AvEvents.add, AvEvents.calls, AvEvents.messages,
    AvMessage.kind]

theorem AvEvents.calls_kind (events : AvEvents) (kind : AvEventKind) :
    ∀ call ∈ events.calls kind, call.kind = kind := by
  intro call hcall
  obtain ⟨msg, hmsg, rfl⟩ := List.mem_map.mp hcall
  rw [AvMessage.listenerCall_kind]
  cases kind <;>
  · obtain ⟨_, _, rfl⟩ := List.mem_map.mp hmsg
    rfl

theorem avMailbox_lawful :
    avMailbox.Lawful AvMessage.kind AvMessage.listenerCall AvListenerCall.kind where
  calls_empty kind := by cases kind <;> rfl
  calls_add := AvEvents.add_calls
  callKind_of_mem := AvEvents.calls_kind
  order_nodup := by decide
  mem_order kind := by cases kind <;> decide

/-- Callbacks that return add their messages. -/
theorem foldlM_native {batch : List AvNativeEvent} {events events' : AvEvents}
    (h : batch.foldlM AvEvents.native events = .ok events') :
    ∃ msgs, List.Forall₂ (fun event msg => event.message = some msg) batch msgs ∧
      events' = msgs.foldl AvEvents.add events := by
  induction batch generalizing events with
  | nil =>
    cases h
    exact ⟨[], .nil, rfl⟩
  | cons event batch ih =>
    rw [List.foldlM_cons, Checked.bind_eq_ok] at h
    obtain ⟨mid, hnative, hrest⟩ := h
    rw [AvEvents.native] at hnative
    split at hnative
    · cases hnative
    · next msg hmsg =>
      cases hnative
      obtain ⟨msgs, hmsgs, rfl⟩ := ih hrest
      exact ⟨msg :: msgs, .cons hmsg hmsgs, rfl⟩

namespace JavaAv

section

variable {Listener Bytes : Type} {proto : AvProtobuf Bytes} {ds : AvCSettings} {lg : Toxav}
  {s s' : JavaAv Listener}

/-- An object as a mailbox. -/
def mailbox (s : JavaAv Listener) : Mailbox.State AvEventKind Listener AvListenerCall AvEvents where
  box := s.events
  listeners := s.callbacks
  heard := s.heard

/-- The adapter has made a run of its own, the events are what it has reported, and in the form of
    messages they have led the mailbox to where it is. -/
structure Kept (ds : AvCSettings) (s : JavaAv Listener) : Prop where
  adapter : ∃ ls, Run (AvLoggedStep ds) {} ls { av := s.av, log := s.log }
  happened : Misc.happened s.mails = s.reports
  mailbox : ∃ mails,
    List.Forall₂ (Mail.Alike fun event msg => event.message = some msg) s.mails mails ∧
      s.mailbox = mails.foldl avMailbox.step (mailbox {})

/-- What a call of the adapter leaves, if it returns. -/
theorem adapter_eq_ok {call : AvApiCall} (h : s.adapter ds lg call = .ok s') :
    ∃ av outputs events, call.run ds lg s.av = .ok (av, outputs) ∧
      (outputs.filterMap nativeOf).foldlM AvEvents.native s.events = .ok events ∧
      s' = { s with
        av
        events
        log := s.log ++ outputs.map (Prod.mk call)
        mails := s.mails ++ (outputs.filterMap nativeOf).map .event } := by
  simp only [adapter, Checked.bind_eq_ok, Checked.pure_eq_ok, Prod.exists] at h
  obtain ⟨av, outputs, hrun, events, hevents, rfl⟩ := h
  exact ⟨av, outputs, events, hrun, hevents, rfl⟩

/-- Without frames that are read behind their end, `collect` makes the calls of the mailbox. -/
theorem collect_eq_ok (hproto : proto.RoundTrips) (h : s.collect proto = .ok s') :
    s' = { s with
      events := {}
      mails := s.mails ++ [.collect]
      history := s.history ++ (avMailbox.replay s.callbacks s.events).map tell } := by
  rw [collect, hproto s.events] at h
  exact (Except.ok.inj h).symm

theorem heard_sent {medium : Medium} {f : Int32}
    (h : s'.history = s.history ++ [.sent medium f]) : s'.heard = s.heard := by
  simp [heard, h]

theorem heard_told {calls : List (Listener × AvListenerCall)}
    (h : s'.history = s.history ++ calls.map tell) : s'.heard = s.heard ++ calls := by
  rw [heard, h, List.filterMap_append, List.filterMap_map]
  exact congrArg (s.heard ++ ·) List.filterMap_some

theorem Kept.init : Kept ds ({} : JavaAv Listener) where
  adapter := ⟨[], .nil⟩
  happened := rfl
  mailbox := ⟨[], .nil, rfl⟩

/-- What is no call of the adapter, and no event, happens to the mailbox only. -/
theorem Kept.mails (h : s.Kept ds) {mails : List (Mail AvNativeEvent AvEventKind Listener)}
    {mails' : List (Mail AvMessage AvEventKind Listener)}
    (hav : s'.av = s.av) (hlog : s'.log = s.log) (hmails : s'.mails = s.mails ++ mails)
    (hhappened : Misc.happened mails = [])
    (halike : List.Forall₂ (Mail.Alike fun event msg => event.message = some msg) mails mails')
    (hmailbox : s'.mailbox = mails'.foldl avMailbox.step s.mailbox) : s'.Kept ds := by
  obtain ⟨past, hpast, hstate⟩ := h.mailbox
  refine ⟨?_, ?_, past ++ mails', ?_, ?_⟩
  · rw [hav, hlog]
    exact h.adapter
  · rw [hmails, happened_append, h.happened, hhappened, List.append_nil, reports, reports, hlog]
  · rw [hmails]
    exact List.rel_append hpast halike
  · rw [hmailbox, hstate, List.foldl_append]

theorem Kept.registered (h : s.Kept ds) (keys : List AvEventKind) (listener : Option Listener) :
    Kept ds { s with
      callbacks := keys.foldl (fun callbacks kind => Function.update callbacks kind listener)
        s.callbacks
      mails := s.mails ++ keys.map fun kind => .register kind listener } := by
  refine h.mails rfl rfl rfl (happened_map_register keys listener) ?_
    (avMailbox.foldl_register listener keys s.mailbox).symm
  rw [List.forall₂_map_left_iff, List.forall₂_map_right_iff, List.forall₂_same]
  intro kind _
  exact .register kind listener

theorem Kept.sent (h : s.Kept ds) (medium : Medium) (f : Int32) :
    Kept ds { s with history := s.history ++ [.sent medium f] } := by
  refine h.mails rfl rfl (List.append_nil _).symm rfl .nil ?_
  rw [List.foldl_nil, JavaAv.mailbox, heard_sent rfl]
  rfl

theorem Kept.collect (h : s.Kept ds) (hproto : proto.RoundTrips)
    (hcollect : s.collect proto = .ok s') : s'.Kept ds := by
  obtain rfl := collect_eq_ok hproto hcollect
  refine h.mails rfl rfl rfl rfl (.cons .collect .nil) ?_
  rw [JavaAv.mailbox, heard_told rfl]
  rfl

/-- A call of the adapter is a step of its own, and its callbacks are events. -/
theorem Kept.adapter_step (h : s.Kept ds) {call : AvApiCall}
    (hcall : s.adapter ds lg call = .ok s') : s'.Kept ds := by
  obtain ⟨av, outputs, events, hrun, hevents, rfl⟩ := adapter_eq_ok hcall
  obtain ⟨ls, hls⟩ := h.adapter
  obtain ⟨past, hpast, hstate⟩ := h.mailbox
  obtain ⟨msgs, hmsgs, rfl⟩ := foldlM_native hevents
  refine ⟨⟨ls ++ [(lg, call)], hls.snoc ?_⟩, ?_, past ++ msgs.map .event, ?_, ?_⟩
  · simp only [AvLoggedStep, AvLogged.run, hrun, Checked.ok_bind]
    rfl
  · rw [happened_append, happened_map_event, h.happened, reports, reports, List.filterMap_append,
      List.filterMap_map]
    rfl
  · refine List.rel_append hpast ?_
    rw [List.forall₂_map_left_iff, List.forall₂_map_right_iff]
    exact hmsgs.imp fun _ _ hmsg => .event hmsg
  · rw [List.foldl_append, ← hstate, Mailbox.foldl_event]
    rfl

theorem Kept.callbacks (h : s.Kept ds) {callbacks : List AvCallback}
    (hcallbacks : callbacks.foldlM (fun s cb => s.adapter ds lg (.callback cb)) s = .ok s') :
    s'.Kept ds := by
  induction callbacks generalizing s with
  | nil =>
    cases hcallbacks
    exact h
  | cons cb callbacks ih =>
    rw [List.foldlM_cons, Checked.bind_eq_ok] at hcallbacks
    obtain ⟨mid, hcb, hrest⟩ := hcallbacks
    exact ih (h.adapter_step hcb) hrest

theorem Kept.step (h : s.Kept ds) (hproto : proto.RoundTrips)
    {move : Toxav × JavaAvMove Listener} (hstep : Step ds proto s move s') : s'.Kept ds := by
  obtain ⟨lg, move⟩ := move
  rw [Step] at hstep
  cases move with
  | setCallback kind listener =>
    cases hstep
    exact h.registered [kind] listener
  | callback handler =>
    cases hstep
    exact h.registered avHandlerOrder handler
  | call | answer | native => exact h.adapter_step hstep
  | sendAudioFrame f pcm sampleCount channels samplingRate =>
    simp only [JavaAv.step, Checked.bind_eq_ok] at hstep
    obtain ⟨checked, -, hsent⟩ := hstep
    cases checked with
    | error =>
      cases hsent
      exact h
    | ok args =>
      obtain ⟨mid, hcall, hsent⟩ := Checked.bind_eq_ok.mp hsent
      cases hsent
      exact (h.adapter_step hcall).sent .audio f
  | sendVideoFrame f width height y u v a =>
    rw [JavaAv.step] at hstep
    split at hstep
    · cases hstep
      exact h
    · obtain ⟨mid, hcall, hsent⟩ := Checked.bind_eq_ok.mp hstep
      cases hsent
      exact (h.adapter_step hcall).sent .video f
  | iteration callbacks =>
    simp only [JavaAv.step, Checked.bind_eq_ok] at hstep
    obtain ⟨s₁, hcallbacks, s₂, hafter, hcollect⟩ := hstep
    exact ((h.callbacks hcallbacks).adapter_step hafter).collect hproto hcollect

theorem run_kept (hproto : proto.RoundTrips) {moves : List (Toxav × JavaAvMove Listener)}
    (h : Run (Step ds proto) {} moves s) : s.Kept ds :=
  h.invariant Kept.init fun _ _ _ hs hstep => hs.step hproto hstep

/-- However the callbacks of a `ToxAvImpl` are set and its methods are called, what goes on below
    is a run of the adapter, and for each kind its events are told in order and at most once, each
    to the listener that is registered when `iteration` is called next. -/
theorem calls_heard (hproto : proto.RoundTrips) {moves : List (Toxav × JavaAvMove Listener)}
    (h : Run (Step ds proto) {} moves s) : s.Hears ds := by
  have hkept := run_kept hproto h
  obtain ⟨mails, halike, hstate⟩ := hkept.mailbox
  have hheard : ∀ kind, s.heard.filter (fun call => call.2.kind = kind) =
      (reported AvNativeEvent.kind kind none s.mails).map
        (Prod.map id AvNativeEvent.listenerCall) := by
    intro kind
    have hfold := avMailbox_lawful.heard_foldl kind mails (JavaAv.mailbox ({} : JavaAv Listener))
    rw [← hstate] at hfold
    rw [← reported_alike (fun _ _ hmsg => message_eq_some hmsg) halike]
    have hempty : avMailbox.calls ({} : JavaAv Listener).mailbox.box kind = [] :=
      avMailbox_lawful.calls_empty kind
    rw [hempty, calling_nil, List.append_nil] at hfold
    exact hfold
  refine ⟨hkept.adapter, hkept.happened, hheard, ?_⟩
  intro kind
  have hsublist := reported_sublist AvNativeEvent.kind kind none s.mails
  rw [hkept.happened] at hsublist
  rw [hheard, List.map_map]
  have hcomp : Prod.snd ∘ Prod.map (id : Listener → Listener) AvNativeEvent.listenerCall =
      AvNativeEvent.listenerCall ∘ Prod.snd := rfl
  rw [hcomp, ← List.map_map]
  exact hsublist.map _

end

/-- 480 samples of nothing. -/
def silence : JavaArray Int16 where
  elements := List.replicate 480 0
  length_lt := by decide +kernel

/-- The second frame of a call is asked of another listener. Nobody is told that it has started. -/
def listenersChange : List (Toxav × JavaAvMove ℕ) :=
  [(.oneByte, .setCallback .requestAudioFrame (some 1)), (.oneByte, .call 0 48 0 0 0),
    (.oneByte, .native (.start 0)), (.oneByte, .iteration []), (.oneByte, .iteration []),
    (.oneByte, .callback (some 2)), (.oneByte, .sendAudioFrame 0 (some silence) 480 1 8000),
    (.oneByte, .iteration [])]

theorem run_listenersChange : ∃ s, Run (Step {} plainAvProtobuf) {} listenersChange s ∧
    s.history =
      [.told 1 (.requestAudioFrame 0), .sent .audio 0, .told 2 (.requestAudioFrame 0)] := by
  have hfold : (fun s => s.history) <$> listenersChange.foldlM (fun s move =>
      s.step {} plainAvProtobuf move.1 move.2) ({} : JavaAv ℕ) =
        .ok [.told 1 (.requestAudioFrame 0), .sent .audio 0, .told 2 (.requestAudioFrame 0)] := by
    decide +kernel
  obtain ⟨s, hrun, hhistory⟩ := Checked.map_eq_ok.mp hfold
  exact ⟨s, .of_foldlM hrun, hhistory⟩

theorem calls_heard_listenersChange : ∃ s, Run (Step {} plainAvProtobuf) {} listenersChange s ∧
    s.heard = [(1, .requestAudioFrame 0), (2, .requestAudioFrame 0)] ∧ s.Hears {} := by
  obtain ⟨s, hrun, hhistory⟩ := run_listenersChange
  refine ⟨s, hrun, ?_, calls_heard (fun _ => rfl) hrun⟩
  rw [heard, hhistory]
  rfl

end JavaAv

end Tox4j.Java
