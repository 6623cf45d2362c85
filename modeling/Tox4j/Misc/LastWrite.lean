import Mathlib.Data.List.Induction
import Mathlib.Logic.Function.Basic
import Mathlib.Tactic.Common

/-!
# Tables where the last write wins

Every element is written under its own key, in place of the one that was there.
-/

namespace Tox4j.Misc

section

variable {α κ : Type} (key : α → κ)

/-- The last element with a key. -/
def IsLast (as : List α) (k : κ) (a : α) : Prop :=
  ∃ before after, as = before ++ a :: after ∧ key a = k ∧ ∀ b ∈ after, key b ≠ k

variable {key} {as : List α} {k : κ} {a b : α}

/-- An element at the end hides the others with its key, and no others. -/
theorem isLast_concat :
    IsLast key (as ++ [b]) k a ↔ k = key b ∧ a = b ∨ k ≠ key b ∧ IsLast key as k a := by
  constructor
  · intro h
    obtain ⟨before, after, hsplit, rfl, hafter⟩ := h
    induction after using List.reverseRecOn with
    | nil =>
      obtain ⟨_, heq⟩ := List.append_inj' hsplit rfl
      obtain ⟨rfl, _⟩ := List.cons.inj heq
      exact .inl ⟨rfl, rfl⟩
    | append_singleton after c _ =>
      rw [← List.cons_append, ← List.append_assoc] at hsplit
      obtain ⟨hinit, heq⟩ := List.append_inj' hsplit rfl
      obtain ⟨rfl, _⟩ := List.cons.inj heq
      have hne := hafter b (List.mem_append_right _ List.mem_cons_self)
      exact .inr ⟨hne.symm, before, after, hinit, rfl,
        fun d hd => hafter d (List.mem_append_left _ hd)⟩
  · intro h
    rcases h with ⟨rfl, rfl⟩ | ⟨hne, hlast⟩
    · exact ⟨as, [], rfl, rfl, by simp⟩
    · obtain ⟨before, after, rfl, hkey, hafter⟩ := hlast
      refine ⟨before, after ++ [b], by rw [List.append_assoc, List.cons_append], hkey, ?_⟩
      intro c hc
      rcases List.mem_append.mp hc with hc | hc
      · exact hafter c hc
      · rw [List.mem_singleton.mp hc]
        exact hne.symm

theorem not_isLast_nil : ¬ IsLast key [] k a := by
  intro h
  obtain ⟨before, after, hsplit, _⟩ := h
  exact absurd hsplit (by simp)

theorem exists_isLast_iff : (∃ a, IsLast key as k a) ↔ ∃ a ∈ as, key a = k := by
  constructor
  · intro h
    obtain ⟨a, before, after, rfl, hkey, _⟩ := h
    exact ⟨a, List.mem_append_right _ List.mem_cons_self, hkey⟩
  · intro h
    induction as using List.reverseRecOn with
    | nil =>
      obtain ⟨a, ha, _⟩ := h
      exact absurd ha List.not_mem_nil
    | append_singleton as b ih =>
      by_cases hk : k = key b
      · exact ⟨b, isLast_concat.mpr (.inl ⟨hk, rfl⟩)⟩
      · obtain ⟨a, ha, hkey⟩ := h
        rcases List.mem_append.mp ha with ha | ha
        · obtain ⟨c, hc⟩ := ih ⟨a, ha, hkey⟩
          exact ⟨c, isLast_concat.mpr (.inr ⟨hk, hc⟩)⟩
        · rw [List.mem_singleton.mp ha] at hkey
          exact absurd hkey.symm hk

end

section

variable {α κ : Type} [DecidableEq κ] (key : α → κ)

/-- The table after an element is written. -/
def overwrite (table : κ → Option α) (a : α) : κ → Option α :=
  Function.update table (key a) (some a)

/-- The table after some elements are written, from an empty one. -/
def overwritten (as : List α) : κ → Option α := as.foldl (overwrite key) fun _ => none

variable {key} {table : κ → Option α} {as : List α} {k : κ} {a b : α}

@[simp] theorem overwrite_self : overwrite key table a (key a) = some a := Function.update_self ..

theorem overwrite_of_ne (h : k ≠ key a) : overwrite key table a k = table k :=
  Function.update_of_ne h ..

theorem overwrite_eq_self (h : table (key a) = some a) : overwrite key table a = table := by
  rw [overwrite, ← h, Function.update_eq_self]

theorem overwrite_overwrite : overwrite key (overwrite key table a) a = overwrite key table a :=
  Function.update_idem ..

theorem overwrite_comm (h : key a ≠ key b) :
    overwrite key (overwrite key table a) b = overwrite key (overwrite key table b) a :=
  Function.update_comm h ..

theorem overwritten_concat :
    overwritten key (as ++ [a]) = overwrite key (overwritten key as) a := by
  rw [overwritten, List.foldl_append]
  rfl

/-- What is read is the last element that was written with the key. -/
theorem overwritten_eq_some_iff : overwritten key as k = some a ↔ IsLast key as k a := by
  induction as using List.reverseRecOn with
  | nil => exact iff_of_false (by simp [overwritten]) not_isLast_nil
  | append_singleton as b ih =>
    rw [overwritten_concat, isLast_concat]
    by_cases hk : k = key b
    · rw [hk, overwrite_self, Option.some.injEq]
      simp [eq_comm]
    · rw [overwrite_of_ne hk, ih]
      simp [hk]

end

end Tox4j.Misc
