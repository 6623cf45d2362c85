import Mathlib.Tactic
import Tox4j.Adapter.Proofs.Outgoing

/-!
# Outgoing files that the friend has accepted

FINISHED is sent by `new_tox_file_send_chunk` only, and the loop leaves a transfer alone whose
position is its size. A new file of size 0 is in that state from the start, so nothing happens to
it until the client sends a chunk that nobody asked for.
-/

namespace Tox4j.Adapter

open Tox4j.Misc

section

variable {lg : Legacy} {s s' : Logged} {call : Call} {actions : List Action} {f : UInt32}
  {n : UInt8}

/-- An entry of the log that counts for the file that is sent under a number. -/
def Concerns (f : UInt32) (n : UInt8) (e : Call × Action) : Prop :=
  OpensFile f n.toUInt32 e ∨ AcceptsFile f n e ∨ SendsChunk f n.toUInt32 e ∨ FinishesFile f n e

/-- What holds of an outgoing transfer in every session. -/
structure OutgoingOk (f : UInt32) (n : UInt8) (tox : NewTox) (log : List (Call × Action)) :
    Prop where
  running : ∀ t, tox.getTransfer f n.toUInt32 = some t → Accepted f n log → t.state = .running
  fresh : ∀ t, tox.getTransfer f n.toUInt32 = some t → ¬ Started f n log →
    t.position = 0 ∧ ¬ Finished f n log ∧ (t.fileSize = 0 → t.eventPending = false)
  finished : ∀ t, tox.getTransfer f n.toUInt32 = some t → Started f n log →
    t.position = t.fileSize → Finished f n log

/-- A stretch of the log without entries that count for the file. -/
theorem quiet_log (log : List (Call × Action)) {new : List (Call × Action)}
    (h : ∀ e ∈ new, ¬ Concerns f n e) :
    (Accepted f n (log ++ new) ↔ Accepted f n log) ∧ (Started f n (log ++ new) ↔ Started f n log) ∧
      (Finished f n (log ++ new) ↔ Finished f n log) := by
  have hopens : ∀ e ∈ new, ¬ OpensFile f n.toUInt32 e := fun e he ho => h e he (.inl ho)
  refine ⟨since_append_of_forall_not ?_ hopens, since_append_of_forall_not ?_ hopens,
    since_append_of_forall_not ?_ hopens⟩
  · exact fun e he ha => h e he (.inr (.inl ha))
  · exact fun e he hs => h e he (.inr (.inr (.inl hs)))
  · exact fun e he hf => h e he (.inr (.inr (.inr hf)))

/-- A call that has nothing to do with the file: its entry is as before, or pending, or gone. -/
theorem OutgoingOk.quiet {tox tox' : NewTox} {log new : List (Call × Action)}
    (h : OutgoingOk f n tox log) (hquiet : ∀ e ∈ new, ¬ Concerns f n e)
    (hentry : ∀ t', tox'.getTransfer f n.toUInt32 = some t' →
      ∃ t, tox.getTransfer f n.toUInt32 = some t ∧ t'.position = t.position ∧
        t'.fileSize = t.fileSize ∧ t'.state = t.state ∧
        (t.position = t.fileSize → t'.eventPending = t.eventPending)) :
    OutgoingOk f n tox' (log ++ new) := by
  obtain ⟨haccepted, hstarted, hfinished⟩ := quiet_log log hquiet
  constructor
  · intro t' ht' ha
    obtain ⟨t, ht, -, -, hstate, -⟩ := hentry t' ht'
    rw [hstate]
    exact h.running t ht (haccepted.mp ha)
  · intro t' ht' hs
    obtain ⟨t, ht, hposition, hsize, -, hpending⟩ := hentry t' ht'
    obtain ⟨hzero, hnot, hflag⟩ := h.fresh t ht (hs ∘ hstarted.mpr)
    refine ⟨hposition.trans hzero, hnot ∘ hfinished.mp, ?_⟩
    intro hsize'
    rw [hsize] at hsize'
    rw [hpending (hzero.trans hsize'.symm)]
    exact hflag hsize'
  · intro t' ht' hs heq
    obtain ⟨t, ht, hposition, hsize, -, -⟩ := hentry t' ht'
    rw [hposition, hsize] at heq
    exact hfinished.mpr (h.finished t ht (hstarted.mp hs) heq)

/-- Calls that raise events other than an ACCEPT for the file. -/
theorem not_concerns_event {e : Event} (h : ∀ rs, call = .callback (.fileControl f rs n .accept) →
    rs = 0) : ¬ Concerns f n (call, .event e) := by
  intro hconcerns
  rcases hconcerns with ⟨_, _, _, _, hopens⟩ | ⟨rs, hrs, haccepts⟩ | ⟨_, _, hsends⟩ | hfinishes
  · cases hopens
  · exact hrs (h rs (congrArg Prod.fst haccepts))
  · cases hsends
  · cases hfinishes

/-- Another number is given to a new file. -/
theorem not_concerns_newSender {f' : UInt32} {n' : UInt8} {size : UInt64} {name : List UInt8}
    (hne : ¬ (f' = f ∧ n' = n)) : ¬ Concerns f n (call, .newSender f' n' size name) := by
  intro hconcerns
  rcases hconcerns with ⟨m, _, _, hm, hopens⟩ | ⟨_, _, haccepts⟩ | ⟨_, _, hsends⟩ | hfinishes
  · cases hopens
    exact hne ⟨rfl, FileTransfer.toUInt32_injective hm⟩
  · cases haccepts
  · cases hsends
  · cases hfinishes

/-- Data that is not sent with a chunk of the file. -/
theorem not_concerns_sendData {f' : UInt32} {n' : UInt8} {bytes : List UInt8}
    (hne : ∀ data, call ≠ .fileSendChunk f n.toUInt32 data) :
    ¬ Concerns f n (call, .sendData f' n' bytes) := by
  intro hconcerns
  rcases hconcerns with ⟨_, _, _, _, hopens⟩ | ⟨_, _, haccepts⟩ | ⟨data, _, hsends⟩ | hfinishes
  · cases hopens
  · cases haccepts
  · exact hne data (congrArg Prod.fst hsends)
  · cases hfinishes

/-- Controls other than a FINISHED for the file. -/
theorem not_concerns_sendControl {f' : UInt32} {sendReceive : Bool} {n' : UInt8}
    {control : LegacyControl}
    (hne : ¬ (f' = f ∧ sendReceive = false ∧ n' = n ∧ control = .finished)) :
    ¬ Concerns f n (call, .sendControl f' sendReceive n' control) := by
  intro hconcerns
  rcases hconcerns with ⟨_, _, _, _, hopens⟩ | ⟨_, _, haccepts⟩ | ⟨_, _, hsends⟩ | hfinishes
  · cases hopens
  · cases haccepts
  · cases hsends
  · cases hfinishes
    exact hne ⟨rfl, rfl, rfl, rfl⟩

/-- The number is given to a new file. -/
theorem outgoingOk_opened {tox : NewTox} {log : List (Call × Action)} {size : UInt64}
    {name : List UInt8} {cause : PauseReason} :
    OutgoingOk f n (tox.setTransfer f n.toUInt32 { cause, fileSize := size })
      (log ++ [(call, .newSender f n size name)]) := by
  have hopens : OpensFile f n.toUInt32 (call, .newSender f n size name) := ⟨n, size, name, rfl, rfl⟩
  have haccepted : ¬ Accepted f n (log ++ [(call, .newSender f n size name)]) := by
    refine not_since_append_singleton ?_ hopens
    intro haccepts
    obtain ⟨_, _, haccepts⟩ := haccepts
    cases haccepts
  have hstarted : ¬ Started f n (log ++ [(call, .newSender f n size name)]) := by
    refine not_since_append_singleton ?_ hopens
    intro hsends
    obtain ⟨_, _, hsends⟩ := hsends
    cases hsends
  have hfinished : ¬ Finished f n (log ++ [(call, .newSender f n size name)]) := by
    refine not_since_append_singleton ?_ hopens
    intro hfinishes
    cases hfinishes
  constructor
  · intro t ht ha
    exact absurd ha haccepted
  · intro t ht _
    rw [NewTox.getTransfer_setTransfer, if_pos ⟨rfl, rfl⟩] at ht
    cases ht
    exact ⟨rfl, hfinished, fun _ => rfl⟩
  · intro t ht hs
    exact absurd hs hstarted

/-- A chunk of the file is sent, and FINISHED with the last one. -/
theorem OutgoingOk.sent {tox : NewTox} {log : List (Call × Action)} {t : FileTransfer}
    (data : Buffer) (bytes : List UInt8) {length : UInt64} (h : OutgoingOk f n tox log)
    (ht : tox.getTransfer f n.toUInt32 = some t)
    (hactions : actions = .sendData f n bytes ::
      if t.position + length = t.fileSize then [.sendControl f false n .finished] else []) :
    OutgoingOk f n
      (tox.setTransfer f n.toUInt32 { t.advance length with eventPending := false })
      (log ++ actions.map (Prod.mk (.fileSendChunk f n.toUInt32 data))) := by
  have hopens : ∀ e ∈ actions.map (Prod.mk (Call.fileSendChunk f n.toUInt32 data)),
      ¬ OpensFile f n.toUInt32 e := by
    intro e he hopens
    obtain ⟨a, ha, rfl⟩ := List.mem_map.mp he
    obtain ⟨_, _, _, _, rfl⟩ := hopens
    rw [hactions] at ha
    split at ha <;> simp at ha
  have hstarted :
      Started f n (log ++ actions.map (Prod.mk (.fileSendChunk f n.toUInt32 data))) := by
    refine since_append.mpr (.inl ?_)
    rw [hactions, List.map_cons] at hopens ⊢
    refine ⟨[], _, _, rfl, ⟨data, bytes, ?_⟩, ?_⟩
    · rw [FileTransfer.oldFileNumber_toUInt32]
    · intro e he
      exact hopens e (List.mem_cons_of_mem _ he)
  constructor
  · intro t' ht' ha
    rw [NewTox.getTransfer_setTransfer, if_pos ⟨rfl, rfl⟩] at ht'
    cases ht'
    rcases since_append.mp ha with ha | ⟨ha, -⟩
    · obtain ⟨e, he, _, _, rfl⟩ := ha.exists_mem
      simp at he
    · exact h.running t ht ha
  · intro t' _ hs
    exact absurd hstarted hs
  · intro t' ht' _ heq
    rw [NewTox.getTransfer_setTransfer, if_pos ⟨rfl, rfl⟩] at ht'
    cases ht'
    have heq' : t.position + length = t.fileSize := heq
    refine since_append.mpr (.inl ?_)
    rw [hactions, if_pos heq']
    exact ⟨[_], _, [], rfl, rfl, by simp⟩

/-- An event opens no file and sends nothing. -/
theorem event_log (f : UInt32) (n : UInt8) (log : List (Call × Action)) (call : Call) (e : Event) :
    (Started f n (log ++ [(call, .event e)]) ↔ Started f n log) ∧
      (Finished f n (log ++ [(call, .event e)]) ↔ Finished f n log) := by
  have hopens : ∀ x ∈ [(call, Action.event e)], ¬ OpensFile f n.toUInt32 x := by
    intro x hx hopens
    cases List.mem_singleton.mp hx
    obtain ⟨_, _, _, _, hopens⟩ := hopens
    cases hopens
  constructor
  · refine since_append_of_forall_not ?_ hopens
    intro x hx hsends
    cases List.mem_singleton.mp hx
    obtain ⟨_, _, hsends⟩ := hsends
    cases hsends
  · refine since_append_of_forall_not ?_ hopens
    intro x hx hfinishes
    cases List.mem_singleton.mp hx
    cases hfinishes

/-- The friend accepts the file. -/
theorem OutgoingOk.accepted {tox : NewTox} {log : List (Call × Action)} {t : FileTransfer}
    {rs : UInt8} (h : OutgoingOk f n tox log) (ht : tox.getTransfer f n.toUInt32 = some t) :
    OutgoingOk f n (tox.setTransfer f n.toUInt32 { t with state := .running })
      (log ++ [(.callback (.fileControl f rs n .accept),
        .event (.fileControl f n.toUInt32 .resume))]) := by
  obtain ⟨hstarted, hfinished⟩ :=
    event_log f n log (.callback (.fileControl f rs n .accept)) (.fileControl f n.toUInt32 .resume)
  constructor
  · intro t' ht' _
    rw [NewTox.getTransfer_setTransfer, if_pos ⟨rfl, rfl⟩] at ht'
    cases ht'
    rfl
  · intro t' ht' hs
    rw [NewTox.getTransfer_setTransfer, if_pos ⟨rfl, rfl⟩] at ht'
    cases ht'
    obtain ⟨hzero, hnot, hflag⟩ := h.fresh t ht (hs ∘ hstarted.mpr)
    exact ⟨hzero, hnot ∘ hfinished.mp, hflag⟩
  · intro t' ht' hs heq
    rw [NewTox.getTransfer_setTransfer, if_pos ⟨rfl, rfl⟩] at ht'
    cases ht'
    exact hfinished.mpr (h.finished t ht (hstarted.mp hs) heq)

/-- A call that has nothing to do with the file and assigns to another entry. -/
theorem OutgoingOk.other {tox : NewTox} {log new : List (Call × Action)} {f' num : UInt32}
    {t' : FileTransfer} (h : OutgoingOk f n tox log) (hne : ¬ (f' = f ∧ num = n.toUInt32))
    (hquiet : ∀ e ∈ new, ¬ Concerns f n e) :
    OutgoingOk f n (tox.setTransfer f' num t') (log ++ new) := by
  refine h.quiet hquiet ?_
  intro t ht
  rw [NewTox.getTransfer_setTransfer, if_neg hne] at ht
  exact ⟨t, ht, rfl, rfl, rfl, fun _ => rfl⟩

/-- An entry of the log for each action of a call. -/
theorem not_concerns_map (h : ∀ a ∈ actions, ¬ Concerns f n (call, a)) :
    ∀ e ∈ actions.map (Prod.mk call), ¬ Concerns f n e := by
  intro e he
  obtain ⟨a, ha, rfl⟩ := List.mem_map.mp he
  exact h a ha

theorem newFileNumber_ne_toUInt32 {f' : UInt32} {rs : Bool} {m : UInt8}
    (h : ¬ (f' = f ∧ rs = true ∧ m = n)) :
    ¬ (f' = f ∧ FileTransfer.newFileNumber rs m = n.toUInt32) := by
  rw [← FileTransfer.newFileNumber_true, FileTransfer.newFileNumber_inj]
  exact h

/-- A chunk of a transfer that has another number. -/
theorem OutgoingOk.sent_other {tox : NewTox} {log : List (Call × Action)} {t : FileTransfer}
    {f' : UInt32} {rs : Bool} {m : UInt8} {data : Buffer} {bytes : List UInt8} {complete : Prop}
    [Decidable complete] (h : OutgoingOk f n tox log) (hkey : ¬ (f' = f ∧ rs = true ∧ m = n))
    (hactions : actions = .sendData f' m bytes ::
      if complete then [.sendControl f' (!rs) m .finished] else []) :
    OutgoingOk f n (tox.setTransfer f' (FileTransfer.newFileNumber rs m) t)
      (log ++ actions.map
        (Prod.mk (.fileSendChunk f' (FileTransfer.newFileNumber rs m) data))) := by
  have hne := newFileNumber_ne_toUInt32 hkey
  refine h.other hne (not_concerns_map ?_)
  intro a ha
  rw [hactions, List.mem_cons, List.mem_ite_nil_right, List.mem_singleton] at ha
  rcases ha with rfl | ⟨-, rfl⟩
  · refine not_concerns_sendData ?_
    intro data' heq
    rw [Call.fileSendChunk.injEq] at heq
    exact hne ⟨heq.1, heq.2.1⟩
  · refine not_concerns_sendControl ?_
    intro heq
    exact hkey ⟨heq.1, (Bool.not_eq_false' _).mp heq.2.1, heq.2.2.1⟩

/-- The friend accepts a transfer that has another number. -/
theorem OutgoingOk.accepted_other {tox : NewTox} {log : List (Call × Action)} {t : FileTransfer}
    {f' : UInt32} {rs m : UInt8} {e : Event} (h : OutgoingOk f n tox log)
    (hkey : ¬ (f' = f ∧ (rs != 0) = true ∧ m = n)) :
    OutgoingOk f n (tox.setTransfer f' (FileTransfer.newFileNumber (rs != 0) m) t)
      (log ++ [(.callback (.fileControl f' rs m .accept), .event e)]) := by
  refine h.other (newFileNumber_ne_toUInt32 hkey) ?_
  intro entry hentry
  rw [List.mem_singleton.mp hentry]
  refine not_concerns_event ?_
  intro rs' hcall
  cases hcall
  by_contra hrs
  exact hkey ⟨rfl, bne_iff_ne.mpr hrs, rfl⟩

/-- A transfer is over. -/
theorem OutgoingOk.erased {tox : NewTox} {log : List (Call × Action)} {f' num : UInt32}
    {rs m : UInt8} {e : Event} (h : OutgoingOk f n tox log) :
    OutgoingOk f n (tox.eraseTransfer f' num)
      (log ++ [(.callback (.fileControl f' rs m .finished), .event e)]) := by
  refine h.quiet ?_ ?_
  · intro entry hentry
    rw [List.mem_singleton.mp hentry]
    exact not_concerns_event fun rs hcall => by cases hcall
  · intro t' ht'
    rw [NewTox.getTransfer_eraseTransfer] at ht'
    split at ht'
    · cases ht'
    · exact ⟨t', ht', rfl, rfl, rfl, fun _ => rfl⟩

/-- The loop raises requests only, and those for transfers that are not at their end. -/
theorem OutgoingOk.asked {tox : NewTox} {log : List (Call × Action)} (lg : Legacy)
    (h : OutgoingOk f n tox log) :
    OutgoingOk f n (afterToxDo lg tox).1
      (log ++ (afterToxDo lg tox).2.map (Prod.mk .afterToxDo)) := by
  refine h.quiet (not_concerns_map ?_) ?_
  · intro a ha
    rcases mem_afterToxDo ha with ⟨_, rfl⟩ | ⟨_, _, _, _, _, rfl⟩
    · exact not_concerns_event fun rs hcall => by cases hcall
    · exact not_concerns_event fun rs hcall => by cases hcall
  · intro t' ht'
    rw [getTransfer_afterToxDo, Option.map_eq_some_iff] at ht'
    obtain ⟨t, ht, rfl⟩ := ht'
    refine ⟨t, ht, requestChunk_position .., requestChunk_fileSize .., ?_, ?_⟩
    · exact requestChunk_state ..
    · intro heq
      rw [requestChunk_not_due lg _ fun hdue => hdue.1 heq]

theorem outgoingOk_step (hnumbered : s.tox.Numbered) (h : OutgoingOk f n s.tox s.log)
    (heffect : call.Effect lg s.tox s'.tox actions)
    (hlog : s'.log = s.log ++ actions.map (Prod.mk call)) : OutgoingOk f n s'.tox s'.log := by
  rw [hlog]
  generalize s'.tox = tox' at heffect ⊢
  cases heffect with
  | unchanged hclient hcontrols =>
    refine h.quiet (not_concerns_map ?_) fun t ht => ⟨t, ht, rfl, rfl, rfl, fun _ => rfl⟩
    intro a ha
    obtain ⟨f', sr, n', c, hc, rfl⟩ := hcontrols a ha
    refine not_concerns_sendControl ?_
    intro hfinished
    rw [hfinished.2.2.2] at hc
    cases hc with
    | inl hc => cases hc
    | inr hc => cases hc
  | @opened f' n' =>
    by_cases hkey : f' = f ∧ n' = n
    · obtain ⟨rfl, rfl⟩ := hkey
      exact outgoingOk_opened
    · refine h.other ?_ (not_concerns_map ?_)
      · intro heq
        exact hkey ⟨heq.1, FileTransfer.toUInt32_injective heq.2⟩
      · intro a ha
        rw [List.mem_singleton.mp ha]
        exact not_concerns_newSender hkey
  | @offered f' n' =>
    refine h.other (fun hkey => FileTransfer.toUInt32_ne_or_256 n n' hkey.2.symm)
      (not_concerns_map ?_)
    intro a ha
    rw [List.mem_singleton.mp ha]
    exact not_concerns_event fun rs hcall => by cases hcall
  | @sent f' num data t haccepted =>
    have ht := haccepted.transfer
    obtain ⟨receiveSend, m, rfl⟩ := hnumbered f' num t ht
    rw [FileTransfer.oldFileNumber_newFileNumber, FileTransfer.sendReceive_newFileNumber]
    by_cases hkey : f' = f ∧ receiveSend = true ∧ m = n
    · obtain ⟨rfl, rfl, rfl⟩ := hkey
      rw [FileTransfer.newFileNumber_true] at ht ⊢
      exact h.sent data (data.contents.take data.length.toUInt16.toNat) ht rfl
    · exact h.sent_other hkey rfl
  | @received f' n' data t ht =>
    refine h.other (fun hkey => FileTransfer.toUInt32_ne_or_256 n n' hkey.2.symm)
      (not_concerns_map ?_)
    intro a ha
    rw [List.mem_cons, List.mem_ite_nil_right, List.mem_singleton] at ha
    rcases ha with rfl | ⟨-, rfl⟩
    · exact not_concerns_event fun rs hcall => by cases hcall
    · exact not_concerns_sendControl fun heq => by cases heq.2.1
  | @accepted f' rs n' t ht =>
    by_cases hkey : f' = f ∧ (rs != 0) = true ∧ n' = n
    · obtain ⟨rfl, hrs, rfl⟩ := hkey
      rw [hrs, FileTransfer.newFileNumber_true] at ht ⊢
      exact h.accepted ht
    · exact h.accepted_other hkey
  | finished ht => exact h.erased
  | asked => exact h.asked lg

theorem run_outgoingOk {ls : List (Legacy × Call)} (h : Run LoggedStep {} ls s) (f : UInt32)
    (n : UInt8) : OutgoingOk f n s.tox s.log := by
  induction h with
  | nil =>
    constructor
    all_goals
      intro t ht
      simp at ht
  | snoc hrun hstep ih =>
    obtain ⟨actions, hcall, hlog⟩ := loggedStep_iff.mp hstep
    exact outgoingOk_step (run_numbered hrun) ih (Call.run_effect hcall) hlog

/-- An iteration leaves an accepted file with a request pending, or finished before, unless its
    size is 0 and no chunk has been sent. -/
theorem keepsGoing_iff {t : FileTransfer} (h : OutgoingOk f n s.tox s.log)
    (ht : s.tox.getTransfer f n.toUInt32 = some t) (haccepted : Accepted f n s.log)
    (hstep : LoggedStep s (lg, .afterToxDo) s') :
    KeepsGoing f n s' ↔ t.fileSize ≠ 0 ∨ Started f n s.log := by
  obtain ⟨actions, hrun, hlog⟩ := loggedStep_iff.mp hstep
  obtain ⟨htox, rfl⟩ := Call.run_afterToxDo hrun
  have hentry : s'.tox.getTransfer f n.toUInt32 =
      some (requestChunk lg (f, n.toUInt32) t).1 := by
    rw [htox, getTransfer_afterToxDo, ht, Option.map_some]
  have hfinished : Finished f n s'.log ↔ Finished f n s.log := by
    rw [hlog]
    refine (quiet_log s.log ?_).2.2
    intro e he
    obtain ⟨a, ha, rfl⟩ := List.mem_map.mp he
    rcases mem_afterToxDo ha with ⟨_, rfl⟩ | ⟨_, _, _, _, _, rfl⟩
    · exact not_concerns_event fun rs hcall => by cases hcall
    · exact not_concerns_event fun rs hcall => by cases hcall
  unfold KeepsGoing
  rw [hentry, hfinished]
  simp only [Option.some.injEq, exists_eq_left']
  constructor
  · intro hkeeps
    by_contra hempty
    rw [not_or, not_not] at hempty
    obtain ⟨hzero, hnot, hflag⟩ := h.fresh t ht hempty.2
    have hdone : t.position = t.fileSize := hzero.trans hempty.1.symm
    rw [requestChunk_not_due lg _ fun hdue => hdue.1 hdone, hflag hempty.1] at hkeeps
    rcases hkeeps with hpending | hfin
    · cases hpending
    · exact hnot hfin
  · intro hwork
    by_cases hdone : t.position = t.fileSize
    · right
      refine h.finished t ht ?_ hdone
      rcases hwork with hsize | hstarted
      · by_contra hstarted
        exact hsize (hdone.symm.trans (h.fresh t ht hstarted).1)
      · exact hstarted
    · left
      by_cases hdue : t.Due
      · rw [requestChunk_due lg _ hdue]
      · rw [requestChunk_not_due lg _ hdue]
        by_contra hpending
        exact hdue ⟨hdone, h.running t ht haccepted, Bool.not_eq_true _ ▸ hpending⟩

/-- After an iteration, an accepted file has a request pending or has been finished exactly when
    its size is not 0 or a chunk has been sent. -/
theorem accepted_file_keeps_going_iff {ls : List (Legacy × Call)} {t : FileTransfer}
    (h : Run LoggedStep {} ls s) (ht : s.tox.getTransfer f n.toUInt32 = some t)
    (haccepted : Accepted f n s.log) (hstep : LoggedStep s (lg, .afterToxDo) s') :
    KeepsGoing f n s' ↔ t.fileSize ≠ 0 ∨ Started f n s.log :=
  keepsGoing_iff (run_outgoingOk h f n) ht haccepted hstep

end

/-- A file that the friend accepts. -/
def acceptedSend (fileSize : UInt64) : List (Legacy × Call) :=
  [(.oneFriend, .fileSend 0 .data fileSize (.bytes [97]) .initial),
    (.oneFriend, .callback (.fileControl 0 1 0 .accept))]

/-- The log of these calls. -/
def acceptedSendLog (fileSize : UInt64) : List (Call × Action) :=
  [(.fileSend 0 .data fileSize (.bytes [97]) .initial, .newSender 0 0 fileSize [97]),
    (.callback (.fileControl 0 1 0 .accept), .event (.fileControl 0 0 .resume))]

theorem accepted_acceptedSendLog (fileSize : UInt64) : Accepted 0 0 (acceptedSendLog fileSize) :=
  ⟨[_], _, [], rfl, ⟨1, by decide, rfl⟩, by simp⟩

theorem not_started_acceptedSendLog (fileSize : UInt64) :
    ¬ Started 0 0 (acceptedSendLog fileSize) := by
  intro h
  obtain ⟨e, he, data, bytes, rfl⟩ := h.exists_mem
  simp [acceptedSendLog] at he

/-- A file of 10 bytes that the friend has accepted is asked for. -/
theorem accepted_file_asked : ∃ s s' : Logged, Run LoggedStep {} (acceptedSend 10) s ∧
    Accepted 0 0 s.log ∧ LoggedStep s (.oneFriend, .afterToxDo) s' ∧ KeepsGoing 0 0 s' := by
  have hfold : (fun s => (s.tox.getTransfer 0 0, s.log)) <$>
      (acceptedSend 10).foldlM Logged.run {} =
      .ok (some { cause := .initial, state := .running, fileSize := 10 }, acceptedSendLog 10) := by
    decide +kernel
  rw [Checked.map_eq_ok] at hfold
  obtain ⟨s, hfold, heq⟩ := hfold
  rw [Prod.mk.injEq] at heq
  have haccepted : Accepted 0 0 s.log := by
    rw [heq.2]
    exact accepted_acceptedSendLog 10
  refine ⟨s, _, .of_foldlM hfold, haccepted, rfl, ?_⟩
  exact (accepted_file_keeps_going_iff (n := 0) (.of_foldlM hfold) heq.1 haccepted rfl).mpr
    (.inl (by decide))

/-- Nothing happens to an empty file, or one of unknown size, that the friend has accepted. -/
theorem empty_file_stuck : ∃ s s' : Logged, Run LoggedStep {} (acceptedSend 0) s ∧
    Accepted 0 0 s.log ∧ (s.tox.getTransfer 0 0).isSome ∧
      LoggedStep s (.oneFriend, .afterToxDo) s' ∧ ¬ KeepsGoing 0 0 s' := by
  have hfold : (fun s => (s.tox.getTransfer 0 0, s.log)) <$>
      (acceptedSend 0).foldlM Logged.run {} =
      .ok (some { cause := .initial, state := .running }, acceptedSendLog 0) := by
    decide +kernel
  rw [Checked.map_eq_ok] at hfold
  obtain ⟨s, hfold, heq⟩ := hfold
  rw [Prod.mk.injEq] at heq
  have haccepted : Accepted 0 0 s.log := by
    rw [heq.2]
    exact accepted_acceptedSendLog 0
  refine ⟨s, _, .of_foldlM hfold, haccepted, Option.isSome_of_eq_some heq.1, rfl, ?_⟩
  rw [keepsGoing_iff (n := 0) (run_outgoingOk (.of_foldlM hfold) 0 0) heq.1 haccepted rfl, heq.2]
  intro hwork
  rcases hwork with hsize | hstarted
  · exact hsize rfl
  · exact not_started_acceptedSendLog 0 hstarted

end Tox4j.Adapter
