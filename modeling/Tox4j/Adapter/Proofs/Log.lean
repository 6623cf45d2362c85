import Tox4j.Adapter.Log

/-!
# Steps of logged sessions

A step adds what went out in one call to the log. An entry that is in the table afterwards is new,
or was there before.
-/

namespace Tox4j.Adapter

open Tox4j.Misc

theorem Call.OfClient.not_ends {call : Call} (h : call.OfClient) (f n : UInt32) :
    ¬ call.Ends f n := by
  cases call with
  | fileSend | fileSendChunk | fileControl => exact id
  | callback | afterToxDo => exact h.elim

/-- An entry after a call is that of a new transfer, or it was there and the friend has not ended
    it. -/
theorem Call.Effect.entry_cases {lg : Legacy} {tox tox' : NewTox} {call : Call}
    {actions : List Action} {f n : UInt32} {t : FileTransfer}
    (heffect : call.Effect lg tox tox' actions) (ht : tox'.getTransfer f n = some t) :
    (∃ m size name, n = m.toUInt32 ∧ actions = [.newSender f m size name]) ∨
      (∃ m : UInt8, n = m.toUInt32 ||| 0x100) ∨
      ¬ call.Ends f n ∧ ∃ t', tox.getTransfer f n = some t' := by
  -- an assignment to an entry that is there
  have hset : ∀ {f' n' t' t''}, tox.getTransfer f' n' = some t' →
      (tox.setTransfer f' n' t'').getTransfer f n = some t →
        ∃ t', tox.getTransfer f n = some t' := by
    intro f' n' t' t'' ht' hnew
    rw [NewTox.getTransfer_setTransfer] at hnew
    split at hnew
    · next hkey =>
      obtain ⟨rfl, rfl⟩ := hkey
      exact ⟨t', ht'⟩
    · exact ⟨t, hnew⟩
  cases heffect with
  | unchanged hclient => exact .inr (.inr ⟨hclient.not_ends f n, t, ht⟩)
  | @opened f' m =>
    rw [NewTox.getTransfer_setTransfer] at ht
    split at ht
    · next hkey =>
      obtain ⟨rfl, rfl⟩ := hkey
      exact .inl ⟨m, _, _, rfl, rfl⟩
    · exact .inr (.inr ⟨id, t, ht⟩)
  | @offered f' m =>
    rw [NewTox.getTransfer_setTransfer] at ht
    split at ht
    · next hkey => exact .inr (.inl ⟨m, hkey.2.symm⟩)
    · exact .inr (.inr ⟨id, t, ht⟩)
  | sent haccepted => exact .inr (.inr ⟨id, hset haccepted.transfer ht⟩)
  | received hentry => exact .inr (.inr ⟨id, hset hentry ht⟩)
  | accepted hentry => exact .inr (.inr ⟨id, hset hentry ht⟩)
  | finished =>
    rw [NewTox.getTransfer_eraseTransfer] at ht
    split at ht
    · cases ht
    · next hkey => exact .inr (.inr ⟨hkey, t, ht⟩)
  | asked =>
    rw [getTransfer_afterToxDo, Option.map_eq_some_iff] at ht
    obtain ⟨t', ht', -⟩ := ht
    exact .inr (.inr ⟨id, t', ht'⟩)

/-- A step of a logged session: the call returns, and what went out is added to the log. -/
theorem loggedStep_iff {s s' : Logged} {l : Legacy × Call} : LoggedStep s l s' ↔
    ∃ actions, l.2.run l.1 s.tox = .ok (s'.tox, actions) ∧
      s'.log = s.log ++ actions.map (Prod.mk l.2) := by
  simp only [LoggedStep, Logged.run, Checked.bind_eq_ok, Checked.pure_eq_ok, Prod.exists]
  constructor
  · intro h
    obtain ⟨tox, actions, hrun, rfl⟩ := h
    exact ⟨actions, hrun, rfl⟩
  · intro h
    obtain ⟨actions, hrun, hlog⟩ := h
    exact ⟨s'.tox, actions, hrun, by rw [← hlog]⟩

theorem loggedStep_of_run {s : Logged} {l : Legacy × Call} {tox : NewTox} {actions : List Action}
    (hrun : l.2.run l.1 s.tox = .ok (tox, actions)) :
    LoggedStep s l { tox, log := s.log ++ actions.map (Prod.mk l.2) } :=
  loggedStep_iff.mpr ⟨actions, hrun, rfl⟩

theorem loggedStep_functional (s : Logged) (l : Legacy × Call) (s₁ s₂ : Logged)
    (h₁ : LoggedStep s l s₁) (h₂ : LoggedStep s l s₂) : s₁ = s₂ :=
  Except.ok.inj (h₁.symm.trans h₂)

end Tox4j.Adapter
