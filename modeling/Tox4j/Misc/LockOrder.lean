import Mathlib.Tactic.Common
import Mathlib.Order.Basic

/-!
# Deadlock freedom from a lock order

A snapshot of a system of threads and locks: which thread holds a lock, which threads are
in the middle of an operation, and the lock whose acquisition is a thread's next step, if
that is what it is about to do. Locks are numbered by a rank. When no thread waits for a lock
while it holds one of the same or a higher rank, the chain "waits for a lock held by a thread that
waits for ..." climbs the ranks, so it ends in a thread that can move.
-/

namespace Tox4j.Misc

universe u v

/-- Who holds and who waits, at one moment. -/
structure LockGraph (T : Type u) (L : Type v) where
  /-- The thread is in the middle of an operation. -/
  busy : T → Prop
  /-- The thread that holds a lock. -/
  holder : L → Option T
  /-- The lock the thread's next step acquires. -/
  waits : T → Option L

namespace LockGraph

variable {T : Type u} {L : Type v} (G : LockGraph T L)

/-- The thread's next step does not wait: it acquires no lock, or a free one. -/
def Runnable (t : T) : Prop :=
  ∀ ℓ, G.waits t = some ℓ → G.holder ℓ = none

/-- The locks are ordered by `rank`, up to `top`: the holder of a lock is busy, and waits, if
at all, for a lock of a higher rank. -/
structure Ordered (rank : L → ℕ) (top : ℕ) : Prop where
  bounded : ∀ ℓ, rank ℓ ≤ top
  busy_of_holds : ∀ ℓ t, G.holder ℓ = some t → G.busy t
  climbs : ∀ ℓ ℓ' t, G.holder ℓ = some t → G.waits t = some ℓ' → rank ℓ < rank ℓ'

variable {G}

/-- From the holder of a lock, follow the waits upwards. -/
theorem Ordered.exists_runnable_of_holds {rank : L → ℕ} {top : ℕ} (h : G.Ordered rank top) :
    ∀ n ℓ t, top - rank ℓ = n → G.holder ℓ = some t → ∃ t', G.busy t' ∧ G.Runnable t' := by
  intro n
  induction n using Nat.strongRecOn with
  | ind n ih =>
    intro ℓ t hn hholds
    by_cases hrun : G.Runnable t
    · exact ⟨t, h.busy_of_holds ℓ t hholds, hrun⟩
    · simp only [Runnable, not_forall] at hrun
      obtain ⟨ℓ', hwaits, hheld⟩ := hrun
      obtain ⟨t', hholds'⟩ := Option.ne_none_iff_exists'.mp hheld
      have hclimb := h.climbs ℓ ℓ' t hholds hwaits
      have hbound := h.bounded ℓ'
      exact ih (top - rank ℓ') (by omega) ℓ' t' rfl hholds'

/-- No deadlock: when a thread is busy, some busy thread can move. -/
theorem Ordered.exists_runnable {rank : L → ℕ} {top : ℕ} (h : G.Ordered rank top) {t : T}
    (hbusy : G.busy t) : ∃ t', G.busy t' ∧ G.Runnable t' := by
  by_cases hrun : G.Runnable t
  · exact ⟨t, hbusy, hrun⟩
  · simp only [Runnable, not_forall] at hrun
    obtain ⟨ℓ, -, hheld⟩ := hrun
    obtain ⟨t', hholds⟩ := Option.ne_none_iff_exists'.mp hheld
    exact h.exists_runnable_of_holds _ ℓ t' rfl hholds

end LockGraph

end Tox4j.Misc
