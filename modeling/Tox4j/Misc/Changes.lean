import Mathlib.Data.List.Destutter

/-!
# The changes in a sequence of samples

`changes a l` lists the samples in `l` that differ from the one before them; the first one is
compared with `a`.
-/

namespace Tox4j.Misc

universe u

variable {α : Type u} [DecidableEq α]

def changes (a : α) (l : List α) : List α := (l.destutter' (· ≠ ·) a).tail

/-- The last sample, or the one before all of them. -/
def latest (a : α) (l : List α) : α := l.getLast?.getD a

omit [DecidableEq α] in
theorem latest_cons (a b : α) (l : List α) : latest a (b :: l) = latest b l := by
  cases l with
  | nil => rfl
  | cons c l =>
    rw [latest, latest, List.getLast?_cons_cons, List.getLast?_cons]
    rfl

omit [DecidableEq α] in
theorem latest_concat (a b : α) (l : List α) : latest a (l ++ [b]) = b := by
  rw [latest, List.getLast?_concat, Option.getD_some]

theorem destutter'_eq_cons (a : α) (l : List α) :
    l.destutter' (· ≠ ·) a = a :: changes a l := by
  unfold changes
  induction l with
  | nil => rfl
  | cons b l ih =>
    by_cases h : a ≠ b
    · rw [List.destutter'_cons_pos _ h, List.tail_cons]
    · rw [List.destutter'_cons_neg _ h]
      exact ih

theorem changes_cons (a b : α) (l : List α) :
    changes a (b :: l) = if a ≠ b then b :: changes b l else changes a l := by
  by_cases h : a ≠ b
  · rw [if_pos h, changes, List.destutter'_cons_pos _ h, List.tail_cons, destutter'_eq_cons]
  · rw [if_neg h, changes, changes, List.destutter'_cons_neg _ h]

/-- A sample more is a change or not. -/
theorem changes_concat (a b : α) (l : List α) :
    changes a (l ++ [b]) = changes a l ++ if latest a l ≠ b then [b] else [] := by
  induction l generalizing a with
  | nil => exact changes_cons a b []
  | cons c l ih =>
    rw [List.cons_append, changes_cons, changes_cons, latest_cons, ih, ih]
    by_cases h : a ≠ c
    · rw [if_pos h, if_pos h, List.cons_append]
    · obtain rfl := not_not.mp h
      rw [if_neg h, if_neg h]

/-- No two changes in a row are to the same sample. -/
theorem changes_isChain (a : α) (l : List α) : (a :: changes a l).IsChain (· ≠ ·) := by
  rw [← destutter'_eq_cons]
  exact List.isChain_destutter' _ l a

end Tox4j.Misc
