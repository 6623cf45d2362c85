import Mathlib.Tactic
import Tox4j.Adapter.FileCalls
import Tox4j.Adapter.Proofs.Outgoing
import Tox4j.Adapter.Proofs.PauseRule

/-!
# Cancelled transfers

The branch of `new_tox_file_control` for CANCEL is empty. The call returns OK, and the transfer
goes on: the friend does not hear of it, and the entry stays until the friend sends FINISHED.
-/

namespace Tox4j.Adapter

open Tox4j.Misc

section

variable {lg : Legacy} {tox : NewTox} {f n : UInt32} {t : FileTransfer}

/-- CANCEL does nothing. -/
theorem newToxFileControl_cancel (hon : lg.Online f) (ht : tox.getTransfer f n = some t) :
    newToxFileControl lg tox f n .cancel = .ok (.ok, tox, []) := by
  rw [newToxFileControl_online hon ht]
  rfl

theorem applyControl_ne_notFound {control : FileControl} {actions : List Action} :
    applyControl lg f n t control ≠ .ok (.notFound, actions) := by
  intro h
  cases control with
  | pause =>
    simp only [applyControl] at h
    split at h
    · cases h
    · simp only [Checked.bind_eq_ok, Checked.pure_eq_ok, Prod.mk.injEq] at h
      obtain ⟨_, -, herror, -⟩ := h
      cases herror
  | resume =>
    simp only [applyControl] at h
    split at h
    · cases h
    · split at h
      · cases h
      · cases h
  | cancel => cases h

/-- Only a number that is not in the table is not found. -/
theorem newToxFileControl_ne_notFound {control : FileControl} {tox' : NewTox}
    {actions : List Action} (h : (tox.getTransfer f n).isSome = true) :
    newToxFileControl lg tox f n control ≠ .ok (.notFound, tox', actions) := by
  obtain ⟨t, ht⟩ := Option.isSome_iff_exists.mp h
  intro heq
  unfold newToxFileControl at heq
  split at heq
  · cases heq
  · obtain ⟨connection, -, heq⟩ := Checked.bind_eq_ok.mp heq
    rw [ht] at heq
    split at heq
    · cases heq
    · obtain ⟨⟨error, sent⟩, hcontrol, heq⟩ := Checked.bind_eq_ok.mp heq
      cases heq
      exact applyControl_ne_notFound hcontrol

/-- The FINISHED of the friend raises a request. -/
theorem finished_raises (hnumbered : tox.Numbered) (ht : tox.getTransfer f n = some t) :
    ∃ ls s call, Run LoggedStep { tox } ls s ∧
      s.log = [(call, .event (.fileRequestChunk f n t.position 0))] := by
  obtain ⟨receiveSend, m, rfl⟩ := hnumbered f n t ht
  have hflag : ((if receiveSend then 1 else 0 : UInt8) != 0) = receiveSend := by
    cases receiveSend <;> rfl
  rw [← hflag] at ht ⊢
  have hstep : LoggedStep { tox }
      (.oneFriend, .callback (.fileControl f (if receiveSend then 1 else 0) m .finished)) _ :=
    loggedStep_of_run (fileControl_finished ht)
  exact ⟨_, _, _, .single hstep, rfl⟩

theorem not_silent (hnumbered : tox.Numbered) (ht : tox.getTransfer f n = some t) :
    ¬ Silent tox f n := by
  intro hsilent
  obtain ⟨ls, s, call, hrun, hlog⟩ := finished_raises hnumbered ht
  obtain ⟨z, hz, -⟩ := hsilent ls s hrun [] _ [] hlog (.inl ⟨_, _, rfl⟩)
  cases hz

/-- Entries stay in the table through logged runs without the FINISHED of the friend. -/
theorem logged_isSome {s s' : Logged} {ls : List (Legacy × Call)} (hrun : Run LoggedStep s ls s')
    (hends : ∀ l ∈ ls, ¬ l.2.Ends f n) (h : (s.tox.getTransfer f n).isSome = true) :
    (s'.tox.getTransfer f n).isSome = true := by
  induction hrun with
  | nil => exact h
  | snoc _ hstep ih =>
    obtain ⟨actions, hcall, -⟩ := loggedStep_iff.mp hstep
    refine Call.run_isSome hcall (hends _ (by simp)) (ih ?_)
    intro l hl
    exact hends l (List.mem_append_left _ hl)

/-- A CANCEL for a transfer returns OK and does nothing. The transfer stays in the table until the
    friend ends it, so none of what the client relies on is so. -/
theorem cancel_terminates_nothing {ls : List (Legacy × Call)} {s : Logged}
    (h : Run LoggedStep {} ls s) (ht : s.tox.getTransfer f n = some t) (hon : lg.Online f) :
    newToxFileControl lg s.tox f n .cancel = .ok (.ok, s.tox, []) ∧
      ¬ CancelTerminates lg s.tox f n ∧ ¬ Silent s.tox f n ∧
      ∀ ls' s', Run LoggedStep s ls' s' → (∀ l ∈ ls', ¬ l.2.Ends f n) →
        (s'.tox.getTransfer f n).isSome = true ∧ ∀ lg' control tox' actions,
          newToxFileControl lg' s'.tox f n control ≠ .ok (.notFound, tox', actions) := by
  have hcancel := newToxFileControl_cancel hon ht
  refine ⟨hcancel, ?_, not_silent (run_numbered h) ht, ?_⟩
  · intro hterminates
    obtain ⟨hkilled, -⟩ := hterminates s.tox [] hcancel
    cases hkilled
  · intro ls' s' hrun hends
    have hsome := logged_isSome hrun hends (Option.isSome_of_eq_some ht)
    exact ⟨hsome, fun _ _ _ _ => newToxFileControl_ne_notFound hsome⟩

end

/-- A friend has offered a file, and the client cancels it. -/
theorem cancel_terminates_nothing_offered : ∃ s : Logged,
    Run LoggedStep {} [(.oneFriend, .callback (.fileSendRequest 0 0 10 [97] .initial))] s ∧
      newToxFileControl .oneFriend s.tox 0 0x100 .cancel = .ok (.ok, s.tox, []) ∧
      ¬ Silent s.tox 0 0x100 := by
  have hrun : Run LoggedStep {} [(.oneFriend, .callback (.fileSendRequest 0 0 10 [97] .initial))]
      { tox := NewTox.setTransfer {} 0 0x100 { cause := .initial, fileSize := 10 }
        log := [(.callback (.fileSendRequest 0 0 10 [97] .initial),
          .event (.fileReceive 0 0x100 .data 10 [97]))] } := .single rfl
  have hcancel := cancel_terminates_nothing (f := 0) (n := 0x100) hrun
    (NewTox.getTransfer_setTransfer_self ..) oneFriend_online
  exact ⟨_, hrun, hcancel.1, hcancel.2.2.1⟩

/-- No kill is sent for the file, and it stays. -/
theorem cancelled_file_stays : ∃ s : Logged,
    Run LoggedStep {} [(.oneFriend, .callback (.fileSendRequest 0 0 10 [97] .initial))] s ∧
      ¬ CancelTerminates .oneFriend s.tox 0 0x100 := by
  refine ⟨_, .single rfl, ?_⟩
  intro hterminates
  have hcancel := newToxFileControl_cancel (f := 0) (n := 0x100) oneFriend_online
    (NewTox.getTransfer_setTransfer_self {} 0 0x100 { cause := .initial, fileSize := 10 })
  obtain ⟨hkilled, -⟩ := hterminates _ [] hcancel
  cases hkilled

end Tox4j.Adapter
