import Mathlib.Tactic.Common

/-!
# A value that stands for another

One value cannot be stored, and another is stored in its place. What is read back is right for
all values but the one that is used as a mark, and that one is taken for the first.
-/

namespace Tox4j.Misc

universe u

variable {α : Type u} [DecidableEq α] {absent mark a b : α}

/-- What is stored for a value. -/
def substitute (absent mark a : α) : α := if a = absent then mark else a

theorem substitute_ne_absent (h : mark ≠ absent) : substitute absent mark a ≠ absent := by
  unfold substitute
  split
  · exact h
  · next hne => exact hne

/-- What is read back: the other way round, the mark is replaced. -/
theorem substitute_substitute :
    substitute mark absent (substitute absent mark a) = if a = mark then absent else a := by
  unfold substitute
  by_cases ha : a = absent
  · rw [if_pos ha, if_pos rfl]
    split
    · rfl
    · exact ha.symm
  · rw [if_neg ha]

theorem substitute_substitute_eq_iff (h : mark ≠ absent) :
    substitute mark absent (substitute absent mark a) = a ↔ a ≠ mark := by
  rw [substitute_substitute]
  by_cases ha : a = mark
  · subst ha
    rw [if_pos rfl]
    exact iff_of_false (Ne.symm h) (fun hne => hne rfl)
  · rw [if_neg ha]
    exact iff_of_true rfl ha

/-- Two values are read back as the same only when they are equal, or are the two that share the
    mark. -/
theorem substitute_substitute_inj :
    substitute mark absent (substitute absent mark a) =
        substitute mark absent (substitute absent mark b) ↔
      a = b ∨ (a = absent ∧ b = mark) ∨ (a = mark ∧ b = absent) := by
  rw [substitute_substitute, substitute_substitute]
  by_cases ha : a = mark
  · rw [if_pos ha]
    by_cases hb : b = mark
    · rw [if_pos hb]
      exact iff_of_true rfl (.inl (ha.trans hb.symm))
    · rw [if_neg hb]
      constructor
      · intro heq
        exact .inr (.inr ⟨ha, heq.symm⟩)
      · intro hor
        rcases hor with heq | ⟨-, hmark⟩ | ⟨-, habsent⟩
        · exact absurd (heq.symm.trans ha) hb
        · exact absurd hmark hb
        · exact habsent.symm
  · rw [if_neg ha]
    by_cases hb : b = mark
    · rw [if_pos hb]
      constructor
      · intro heq
        exact .inr (.inl ⟨heq, hb⟩)
      · intro hor
        rcases hor with heq | ⟨habsent, -⟩ | ⟨hmark, -⟩
        · exact absurd (heq.trans hb) ha
        · exact habsent
        · exact absurd hmark ha
    · rw [if_neg hb]
      constructor
      · exact .inl
      · intro hor
        rcases hor with heq | ⟨-, hmark⟩ | ⟨hmark, -⟩
        · exact heq
        · exact absurd hmark hb
        · exact absurd hmark ha

end Tox4j.Misc
