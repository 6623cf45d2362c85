import Mathlib.Algebra.BigOperators.Group.Finset.Piecewise
import Mathlib.Algebra.Order.BigOperators.Group.Finset
import Mathlib.Tactic
import Tox4j.Misc.Run

/-!
# Runs that use up a potential

A number that is given to a state, which some steps use up and others pay into: it bounds how
often the first kind can happen. What was paid is either known of each step, or written down in the
state, as on an account. A system that can always go on until it is final, and uses up something
every time, has a run to a final state.
-/

namespace Tox4j.Misc

universe u v

section

variable {σ : Type u} {ι : Type v} {step : σ → ι → σ → Prop} {s₀ s : σ} {ls : List ι}

/-- What was used up in a run, and what is left of it, has been paid in. -/
theorem Run.potential_le (Inv : σ → Prop) (potential account : σ → ℕ) (used paid : ι → ℕ)
    (hInv : ∀ s l s', Inv s → step s l s' → Inv s')
    (hstep : ∀ s l s', Inv s → step s l s' →
      potential s' + account s + used l ≤ potential s + account s' + paid l)
    (h₀ : Inv s₀) (h : Run step s₀ ls s) :
    potential s + account s₀ + (ls.map used).sum ≤
      potential s₀ + account s + (ls.map paid).sum := by
  induction h with
  | nil => simp
  | snoc hrun hs ih =>
    have hlast := hstep _ _ _ (Run.invariant h₀ hInv hrun) hs
    simp only [List.map_append, List.sum_append, List.map_singleton, List.sum_singleton]
    omega

/-- A system that can go on from every state but the final ones, to a smaller potential, can reach
    a final one. -/
theorem Run.exists_final (Inv Final : σ → Prop) (potential : σ → ℕ)
    (hgo : ∀ s, Inv s → Final s ∨
      ∃ ls s', Run step s ls s' ∧ Inv s' ∧ potential s' < potential s)
    (h : Inv s) : ∃ ls s', Run step s ls s' ∧ Inv s' ∧ Final s' := by
  induction hn : potential s using Nat.strong_induction_on generalizing s with
  | _ n ih =>
    rcases hgo s h with hfinal | ⟨ls, s', hrun, hInv, hlt⟩
    · exact ⟨[], s, .nil, h, hfinal⟩
    · obtain ⟨ls', s'', hrun', hInv', hfinal⟩ := ih _ (hn ▸ hlt) hInv rfl
      exact ⟨ls ++ ls', s'', hrun.append hrun', hInv', hfinal⟩

end

section

variable {κ : Type u} [Fintype κ] [DecidableEq κ]

/-- Where one part uses up something and the others stay as they are, so does the whole. -/
theorem sum_lt_of_part {potential potential' : κ → ℕ} (k : κ) (hlt : potential' k < potential k)
    (hsame : ∀ k', k' ≠ k → potential' k' = potential k') :
    ∑ k, potential' k < ∑ k, potential k := by
  refine Finset.sum_lt_sum (fun k' _ => ?_) ⟨k, Finset.mem_univ k, hlt⟩
  by_cases heq : k' = k
  · subst heq
    exact hlt.le
  · exact (hsame k' heq).le

end

end Tox4j.Misc
