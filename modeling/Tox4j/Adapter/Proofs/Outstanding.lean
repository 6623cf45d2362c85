import Mathlib.Tactic
import Tox4j.Adapter.Proofs.Frames
import Tox4j.Adapter.Proofs.Log

/-!
# At most one outstanding request

A request sets the pending flag of its entry, and only what answers the request clears it. So while
a request is open its entry is pending, and an iteration asks for nothing that is pending.
-/

namespace Tox4j.Adapter

open Tox4j.Misc

section

variable {lg : Legacy} {tox : NewTox} {f n : UInt32}

/-- An iteration asks for a chunk of a transfer that is due. -/
theorem due_of_asksChunk {a : Action} (h : a ∈ (afterToxDo lg tox).2)
    (hasks : AsksChunk f n (.afterToxDo, a)) : ∃ t, tox.getTransfer f n = some t ∧ t.Due := by
  obtain ⟨position, length, -, rfl⟩ := hasks
  rcases mem_afterToxDo h with ⟨status, heq⟩ | ⟨f', n', t, ht, hdue, heq⟩
  · cases heq
  · cases heq
    exact ⟨t, ht, hdue⟩

/-- The transfer is there, and a request for it is pending. -/
def NewTox.ChunkPending (tox : NewTox) (f n : UInt32) : Prop :=
  ∃ t, tox.getTransfer f n = some t ∧ t.eventPending = true

/-- Requests for chunks of a transfer are separated, and it is pending while one is open. -/
def ChunksTracked (f n : UInt32) (s : Logged) : Prop :=
  Tracked (AsksChunk f n) (ClosesRequest f n) (s.tox.ChunkPending f n) s.log

/-- An iteration asks only where nothing is pending. -/
theorem ChunksTracked.asked {s s' : Logged} (h : ChunksTracked f n s)
    (htox : s'.tox = (afterToxDo lg s.tox).1)
    (hlog : s'.log = s.log ++ (afterToxDo lg s.tox).2.map (Prod.mk .afterToxDo)) :
    ChunksTracked f n s' := by
  unfold ChunksTracked
  rw [hlog]
  refine h.append_asks ?_ ?_ ?_
  · rw [List.pairwise_map]
    refine (pairwise_afterToxDo lg s.tox).imp ?_
    intro a b hne hasks
    obtain ⟨⟨_, _, -, ha⟩, _, _, -, hb⟩ := hasks
    exact hne _ _ _ _ _ _ _ _ ha hb rfl
  · intro e he hasks
    obtain ⟨a, ha, rfl⟩ := List.mem_map.mp he
    obtain ⟨t, ht, hdue⟩ := due_of_asksChunk ha hasks
    constructor
    · intro hpending
      obtain ⟨t', ht', hflag⟩ := hpending
      rw [ht, Option.some.injEq] at ht'
      rw [← ht', hdue.2.2] at hflag
      cases hflag
    · rw [htox, NewTox.ChunkPending, getTransfer_afterToxDo, ht]
      exact ⟨_, rfl, by simp only [requestChunk_due lg _ hdue]⟩
  · intro hpending
    obtain ⟨t, ht, hflag⟩ := hpending
    have hdue : ¬ t.Due := by
      intro hdue
      rw [hdue.2.2] at hflag
      cases hflag
    rw [htox, NewTox.ChunkPending, getTransfer_afterToxDo, ht]
    exact ⟨_, rfl, by simpa only [requestChunk_not_due lg _ hdue] using hflag⟩

/-- The log of a call that does not ask for chunks. -/
theorem ChunksTracked.call {s s' : Logged} {call : Call} {actions : List Action}
    (h : ChunksTracked f n s) (hlog : s'.log = s.log ++ actions.map (Prod.mk call))
    (hasks : ∀ position length, length ≠ 0 →
      .event (.fileRequestChunk f n position length) ∉ actions)
    (hpending : ∀ t, s.tox.getTransfer f n = some t → t.eventPending = true →
      (∃ a ∈ actions, ClosesRequest f n (call, a)) ∨ s'.tox.ChunkPending f n) :
    ChunksTracked f n s' := by
  unfold ChunksTracked
  rw [hlog]
  refine h.append_answers ?_ ?_
  · intro e he hask
    obtain ⟨a, ha, rfl⟩ := List.mem_map.mp he
    obtain ⟨position, length, hlength, rfl⟩ := hask
    exact hasks position length hlength ha
  · intro hex
    obtain ⟨t, ht, hflag⟩ := hex
    rcases hpending t ht hflag with ⟨a, ha, hcloses⟩ | hstays
    · exact .inl ⟨_, List.mem_map_of_mem ha, hcloses⟩
    · exact .inr hstays

/-- Assigning to an entry leaves the others pending. -/
theorem pending_setTransfer {f' n' : UInt32} {t t' : FileTransfer}
    (ht : tox.getTransfer f n = some t) (hflag : t.eventPending = true)
    (hself : f' = f → n' = n → t'.eventPending = true) :
    (tox.setTransfer f' n' t').ChunkPending f n := by
  rw [NewTox.ChunkPending, NewTox.getTransfer_setTransfer]
  split
  · next hkey => exact ⟨t', rfl, hself hkey.1 hkey.2⟩
  · exact ⟨t, ht, hflag⟩

/-- A call that assigns to an entry, and raises no requests. -/
theorem ChunksTracked.assigned {s s' : Logged} {call : Call} {actions : List Action}
    {f' n' : UInt32} {t' : FileTransfer} (h : ChunksTracked f n s)
    (hlog : s'.log = s.log ++ actions.map (Prod.mk call))
    (htox : s'.tox = s.tox.setTransfer f' n' t')
    (hasks : ∀ position length, .event (.fileRequestChunk f n position length) ∉ actions)
    (hself : ∀ t, s.tox.getTransfer f n = some t → t.eventPending = true → f' = f → n' = n →
      t'.eventPending = true) : ChunksTracked f n s' := by
  refine h.call hlog (fun position length _ => hasks position length) ?_
  intro t ht hflag
  rw [htox]
  exact .inr (pending_setTransfer ht hflag (hself t ht hflag))

/-- Every step keeps requests for chunks separated. -/
theorem step_chunksTracked {s s' : Logged} {l : Legacy × Call} (h : ChunksTracked f n s)
    (hstep : LoggedStep s l s') : ChunksTracked f n s' := by
  obtain ⟨lg, call⟩ := l
  obtain ⟨actions, hrun, hlog⟩ := loggedStep_iff.mp hstep
  have heffect := Call.run_effect hrun
  simp only at hlog
  generalize htox : s'.tox = tox' at heffect
  cases heffect with
  | unchanged _ hcontrols =>
    refine h.call hlog ?_ ?_
    · intro position length _ hmem
      obtain ⟨f', sr, n', c, -, heq⟩ := hcontrols _ hmem
      cases heq
    · intro t ht hflag
      exact .inr ⟨t, by rw [htox]; exact ht, hflag⟩
  | opened hfree | offered hfree =>
    refine h.assigned hlog htox (by simp) ?_
    intro t ht _ hf hn
    rw [hf, hn, ht] at hfree
    cases hfree
  | @sent f' n' data t' haccepted =>
    refine h.call hlog ?_ ?_
    · intro position length _ hmem
      split at hmem <;> simp at hmem
    · intro t ht hflag
      by_cases hkey : f' = f ∧ n' = n
      · obtain ⟨rfl, rfl⟩ := hkey
        exact .inl ⟨_, List.mem_cons_self, .inl ⟨data, _, rfl⟩⟩
      · right
        rw [htox]
        exact pending_setTransfer ht hflag fun hf hn => absurd ⟨hf, hn⟩ hkey
  | received ht' =>
    refine h.assigned hlog htox ?_ ?_
    · intro position length hmem
      split at hmem <;> simp at hmem
    · intro t ht hflag hf hn
      rw [hf, hn, ht, Option.some.injEq] at ht'
      exact ht' ▸ hflag
  | accepted ht' =>
    refine h.assigned hlog htox (by simp) ?_
    intro t ht hflag hf hn
    rw [hf, hn, ht, Option.some.injEq] at ht'
    exact ht' ▸ hflag
  | @finished f' rs n' t' ht' =>
    refine h.call hlog ?_ ?_
    · intro position length hlength hmem
      cases List.mem_singleton.mp hmem
      exact hlength rfl
    · intro t ht hflag
      by_cases hkey : f' = f ∧ FileTransfer.newFileNumber (rs != 0) n' = n
      · exact .inl ⟨_, List.mem_singleton.mpr rfl, .inr hkey⟩
      · right
        rw [htox, NewTox.ChunkPending, NewTox.getTransfer_eraseTransfer, if_neg hkey]
        exact ⟨t, ht, hflag⟩
  | asked => exact h.asked htox hlog

theorem run_chunksTracked {ls : List (Legacy × Call)} {s : Logged} (h : Run LoggedStep {} ls s)
    (f n : UInt32) : ChunksTracked f n s := by
  have hstart : ChunksTracked f n {} := .nil
  exact h.invariant hstart fun s l s' hs hstep => step_chunksTracked hs hstep

end

section

variable {av av' : NewToxAv} {f : UInt32} {medium : Medium}

/-- The calls that are there stay, and what is pending stays pending. -/
def KeepsPending (av av' : NewToxAv) : Prop :=
  ∀ (f : UInt32) (call : AvCall), av.friendToCall[f]? = some call →
    ∃ call', av'.friendToCall[f]? = some call' ∧
      ∀ medium, call'.eventPending medium = call.eventPending medium

theorem KeepsPending.refl (av : NewToxAv) : KeepsPending av av :=
  fun _ call h => ⟨call, h, fun _ => rfl⟩

theorem KeepsPending.setCall {call call' : AvCall} (hcall : av.friendToCall[f]? = some call)
    (hflags : ∀ medium, call'.eventPending medium = call.eventPending medium) :
    KeepsPending av (av.setCall f call') := by
  intro f' old hold
  simp only [NewToxAv.setCall, lookup_insert]
  split
  · next heq =>
    subst heq
    rw [hcall, Option.some.injEq] at hold
    exact ⟨call', rfl, hold ▸ hflags⟩
  · exact ⟨old, hold, fun _ => rfl⟩

theorem KeepsPending.addCall (av : NewToxAv) (f : UInt32) (call : AvCall) :
    KeepsPending av (av.addCall f call) := by
  intro f' old hold
  refine ⟨old, ?_, fun _ => rfl⟩
  simp only [NewToxAv.addCall, lookup_insertIfNew_getD]
  by_cases heq : f = f'
  · subst heq
    rw [if_pos rfl, hold, Option.getD_some]
  · rw [if_neg heq, hold]

/-- What a call does: it leaves all flags alone and asks for nothing, it sends an audio frame, or
    it asks for frames. -/
inductive AvApiCall.Effect (av : NewToxAv) : AvApiCall → NewToxAv → List AvOutput → Prop where
  | kept {call : AvApiCall} {av' : NewToxAv} {outputs : List AvOutput}
      (hpending : KeepsPending av av')
      (houtputs : ∀ output ∈ outputs, ∀ f, output ≠ .requestAudioFrame f ∧
        output ≠ .requestVideoFrame f) :
      Effect av call av' outputs
  | sentAudio {f : UInt32} {frame : AudioFrame} {record : AvCall} {data : List UInt8}
      (hrecord : av.friendToCall[f]? = some record) :
      Effect av (.sendAudioFrame f frame)
        (av.setCall f { record with audioEventPending := false }) [.sendAudio record.index data]
  | asked : Effect av .afterToxavDo (Adapter.afterToxavDo av).1 (Adapter.afterToxavDo av).2

theorem AvApiCall.run_effect {defaultSettings : AvCSettings} {lg : Toxav} {call : AvApiCall}
    {outputs : List AvOutput} (hrun : call.run defaultSettings lg av = .ok (av', outputs)) :
    call.Effect av av' outputs := by
  cases run_returns hrun with
  | called | invited => exact .kept (.addCall _ _ _) (by simp)
  | notCalling | received => exact .kept (.refl _) (by simp)
  | answered hrecord | rang hrecord | started hrecord =>
    exact .kept (.setCall hrecord fun medium => by cases medium <;> rfl) (by simp)
  | asked => exact .asked
  | sentAudio hrecord => exact .sentAudio hrecord

/-- The call is there, and a request for a frame of it is pending. -/
def NewToxAv.FramePending (av : NewToxAv) (medium : Medium) (f : UInt32) : Prop :=
  ∃ call, av.friendToCall[f]? = some call ∧ call.eventPending medium = true

/-- Requests for frames of a call are separated, and it is pending while one is open. -/
def FramesTracked (medium : Medium) (f : UInt32) (s : AvLogged) : Prop :=
  Tracked (AsksFrame medium f) (SendsFrame medium f) (s.av.FramePending medium f) s.log

/-- An iteration asks for a frame where none is pending, and then one is. -/
theorem framePending_of_asksFrame {output : AvOutput} (h : output ∈ (afterToxavDo av).2)
    (hasks : AsksFrame medium f (.afterToxavDo, output)) :
    ¬ av.FramePending medium f ∧ (afterToxavDo av).1.FramePending medium f := by
  obtain ⟨f', call, hcall, hmem⟩ := mem_afterToxavDo.mp h
  have hrequest := mem_requestFrames hmem
  have hflags := pending_of_mem_requestFrames hmem
  have hflag : f' = f ∧ call.eventPending medium = false ∧
      (requestFrames f' call).1.eventPending medium = true := by
    cases medium with
    | audio =>
      cases (hasks : output = .requestAudioFrame f)
      simp only [AvOutput.requestAudioFrame.injEq, reduceCtorEq, or_false] at hrequest
      exact ⟨hrequest.symm, hflags.1 (by rw [hrequest])⟩
    | video =>
      cases (hasks : output = .requestVideoFrame f)
      simp only [AvOutput.requestVideoFrame.injEq, reduceCtorEq, false_or] at hrequest
      exact ⟨hrequest.symm, hflags.2 (by rw [hrequest])⟩
  obtain ⟨rfl, hbefore, hafter⟩ := hflag
  constructor
  · intro hpending
    obtain ⟨call', hcall', htrue⟩ := hpending
    rw [hcall, Option.some.injEq] at hcall'
    rw [← hcall', hbefore] at htrue
    cases htrue
  · rw [NewToxAv.FramePending, friendToCall_afterToxavDo, hcall]
    exact ⟨_, rfl, hafter⟩

theorem framePending_afterToxavDo (h : av.FramePending medium f) :
    (afterToxavDo av).1.FramePending medium f := by
  obtain ⟨call, hcall, hflag⟩ := h
  rw [NewToxAv.FramePending, friendToCall_afterToxavDo, hcall]
  refine ⟨_, rfl, ?_⟩
  cases medium with
  | audio => exact requestFrames_pending.1 hflag
  | video => exact requestFrames_pending.2 hflag

/-- An iteration asks each call at most once for a frame. -/
theorem pairwise_afterToxavDo (av : NewToxAv) (medium : Medium) (f : UInt32) :
    (afterToxavDo av).2.Pairwise fun a b =>
      ¬ (AsksFrame medium f (.afterToxavDo, a) ∧ AsksFrame medium f (.afterToxavDo, b)) := by
  refine (nodup_afterToxavDo av).imp ?_
  intro a b hne hboth
  apply hne
  cases medium with
  | audio => exact Eq.trans hboth.1 (Eq.symm hboth.2)
  | video => exact Eq.trans hboth.1 (Eq.symm hboth.2)

/-- Every step keeps requests for frames separated. -/
theorem step_framesTracked {defaultSettings : AvCSettings} {s s' : AvLogged}
    {l : Toxav × AvApiCall} (h : FramesTracked medium f s)
    (hstep : AvLoggedStep defaultSettings s l s') : FramesTracked medium f s' := by
  obtain ⟨lg, call⟩ := l
  simp only [AvLoggedStep, AvLogged.run, Checked.bind_eq_ok, Checked.pure_eq_ok, Prod.exists]
    at hstep
  obtain ⟨av', outputs, hrun, rfl⟩ := hstep
  unfold FramesTracked
  cases AvApiCall.run_effect hrun with
  | kept hpending houtputs =>
    refine h.append_answers ?_ ?_
    · intro e he hasks
      obtain ⟨output, houtput, rfl⟩ := List.mem_map.mp he
      cases medium with
      | audio => exact (houtputs output houtput f).1 hasks
      | video => exact (houtputs output houtput f).2 hasks
    · intro hex
      obtain ⟨record, hrecord, hflag⟩ := hex
      obtain ⟨record', hrecord', hsame⟩ := hpending f record hrecord
      exact .inr ⟨record', hrecord', (hsame medium).trans hflag⟩
  | @sentAudio f' frame record data hrecord =>
    refine h.append_answers ?_ ?_
    · intro e he hasks
      cases List.mem_singleton.mp he
      cases medium <;> cases hasks
    · intro hex
      obtain ⟨record', hrecord', hflag⟩ := hex
      by_cases hf : f' = f
      · subst hf
        rw [hrecord, Option.some.injEq] at hrecord'
        subst hrecord'
        cases medium with
        | audio => exact .inl ⟨_, List.mem_singleton.mpr rfl, frame, record.index, data, rfl⟩
        | video => exact .inr ⟨_, (lookup_insert ..).trans (if_pos rfl), hflag⟩
      · exact .inr ⟨record', (lookup_insert ..).trans ((if_neg hf).trans hrecord'), hflag⟩
  | asked =>
    refine h.append_asks ?_ ?_ framePending_afterToxavDo
    · rw [List.pairwise_map]
      exact pairwise_afterToxavDo s.av medium f
    · intro e he hasks
      obtain ⟨output, houtput, rfl⟩ := List.mem_map.mp he
      exact framePending_of_asksFrame houtput hasks

theorem run_framesTracked {defaultSettings : AvCSettings} {ls : List (Toxav × AvApiCall)}
    {s : AvLogged} (h : Run (AvLoggedStep defaultSettings) {} ls s) (medium : Medium)
    (f : UInt32) : FramesTracked medium f s := by
  have hstart : FramesTracked medium f {} := .nil
  exact h.invariant hstart fun s l s' hs hstep => step_framesTracked hs hstep

end

/-- Between two requests for chunks of the same transfer a chunk of it is sent, and between two
    requests for frames of the same medium of a call one is sent. -/
theorem one_outstanding_request :
    (∀ ls s, Run LoggedStep {} ls s → ∀ f n,
      Separated (AsksChunk f n) (ClosesRequest f n) s.log) ∧
    ∀ defaultSettings ls s, Run (AvLoggedStep defaultSettings) {} ls s → ∀ medium f,
      Separated (AsksFrame medium f) (SendsFrame medium f) s.log := by
  constructor
  · intro ls s hrun f n
    exact (run_chunksTracked hrun f n).separated
  · intro defaultSettings ls s hrun medium f
    exact (run_framesTracked hrun medium f).separated

/-- A file of ten bytes is sent in two chunks, each of them asked for. -/
def twoChunks : List (Legacy × Call) :=
  [(.oneFriend, .fileSend 0 .data 10 (.bytes [97]) .initial),
    (.oneFriend, .callback (.fileControl 0 1 0 .accept)), (.oneFriend, .afterToxDo),
    (.oneFriend, .fileSendChunk 0 0 (.bytes [1, 2, 3, 4, 5])), (.oneFriend, .afterToxDo)]

/-- A call with audio is asked for two frames. -/
def twoFrames : List (Toxav × AvApiCall) :=
  [(.oneByte, .call 0 48 0 0 0), (.oneByte, .callback (.start 0)), (.oneByte, .afterToxavDo),
    (.oneByte, .sendAudioFrame 0 ⟨List.replicate 480 0, 480, 1, 8000⟩), (.oneByte, .afterToxavDo)]

/-- In both runs two requests are raised and separated. -/
theorem one_outstanding_request_two :
    (∃ s, Run LoggedStep {} twoChunks s ∧ s.log.length = 6 ∧
      Separated (AsksChunk 0 0) (ClosesRequest 0 0) s.log) ∧
    ∃ s, Run (AvLoggedStep {}) {} twoFrames s ∧ s.log.length = 6 ∧
      Separated (AsksFrame .audio 0) (SendsFrame .audio 0) s.log := by
  have hchunks : (fun s => s.log.length) <$> twoChunks.foldlM Logged.run {} = .ok 6 := by
    decide +kernel
  have hframes : (fun s => s.log.length) <$> twoFrames.foldlM (AvLogged.run {}) {} = .ok 6 := by
    decide +kernel
  rw [Checked.map_eq_ok] at hchunks hframes
  obtain ⟨s, hrun, hlength⟩ := hchunks
  obtain ⟨s', hrun', hlength'⟩ := hframes
  exact ⟨⟨s, .of_foldlM hrun, hlength, one_outstanding_request.1 _ _ (.of_foldlM hrun) 0 0⟩,
    s', .of_foldlM hrun', hlength', one_outstanding_request.2 _ _ _ (.of_foldlM hrun') .audio 0⟩

end Tox4j.Adapter
