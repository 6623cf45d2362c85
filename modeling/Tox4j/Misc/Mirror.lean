import Mathlib.Data.Set.Basic
import Std.Data.ExtTreeMap.Lemmas

/-!
# Two maps that mirror each other

One map leads from an index to a key, the other from a key to a record with an index in it.
`Mirrors` says that they are inverse. It survives an insertion into both when neither the index
nor the key was there, and a change of a record that leaves its index alone.
-/

namespace Tox4j.Misc

section

variable {κ υ : Type} {cmp : κ → κ → Ordering} [Std.TransCmp cmp] [Std.LawfulEqCmp cmp]
  [DecidableEq κ]

theorem lookup_insert (m : Std.ExtTreeMap κ υ cmp) (k k' : κ) (v : υ) :
    (m.insert k v)[k']? = if k = k' then some v else m[k']? := by
  rw [Std.ExtTreeMap.getElem?_insert]
  simp only [Std.LawfulEqCmp.compare_eq_iff_eq]

/-- `insertIfNew` keeps the record of a key that has one. -/
theorem lookup_insertIfNew_getD (m : Std.ExtTreeMap κ υ cmp) (k k' : κ) (v : υ) :
    (m.insertIfNew k v)[k']? = if k = k' then some (m[k]?.getD v) else m[k']? := by
  rw [Std.ExtTreeMap.getElem?_insertIfNew]
  simp only [Std.LawfulEqCmp.compare_eq_iff_eq, Std.ExtTreeMap.mem_iff_isSome_getElem?]
  by_cases heq : k = k'
  · subst heq
    cases m[k]? <;> simp
  · rw [if_neg heq, if_neg (fun hnew => heq hnew.1)]

/-- `insertIfNew` is `insert` for a key that is not there. -/
theorem lookup_insertIfNew {m : Std.ExtTreeMap κ υ cmp} {k : κ} (h : m[k]? = none) (k' : κ)
    (v : υ) : (m.insertIfNew k v)[k']? = if k = k' then some v else m[k']? := by
  rw [lookup_insertIfNew_getD, h, Option.getD_none]

theorem lookup_insertIfNew_self {m : Std.ExtTreeMap κ υ cmp} {k : κ} {old : υ}
    (h : m[k]? = some old) (v : υ) : (m.insertIfNew k v)[k]? = some old := by
  rw [lookup_insertIfNew_getD, if_pos rfl, h, Option.getD_some]

end

variable {ι κ υ : Type} {cmpι : ι → ι → Ordering} {cmpκ : κ → κ → Ordering}
  [Std.TransCmp cmpι] [Std.TransCmp cmpκ]

/-- An index leads to a key exactly when the record of the key has the index. -/
def Mirrors (forth : Std.ExtTreeMap ι κ cmpι) (back : Std.ExtTreeMap κ υ cmpκ)
    (index : υ → ι) : Prop :=
  ∀ i k, forth[i]? = some k ↔ ∃ v, back[k]? = some v ∧ index v = i

namespace Mirrors

variable {forth : Std.ExtTreeMap ι κ cmpι} {back : Std.ExtTreeMap κ υ cmpκ} {index : υ → ι}

theorem empty : Mirrors (∅ : Std.ExtTreeMap ι κ cmpι) (∅ : Std.ExtTreeMap κ υ cmpκ) index := by
  intro i k
  simp

/-- The record behind an entry. -/
theorem record (h : Mirrors forth back index) {i : ι} {k : κ} (hi : forth[i]? = some k) :
    ∃ v, back[k]? = some v ∧ index v = i := (h i k).mp hi

theorem entry (h : Mirrors forth back index) {k : κ} {v : υ} (hk : back[k]? = some v) :
    forth[index v]? = some k := (h _ _).mpr ⟨v, hk, rfl⟩

section

variable [Std.LawfulEqCmp cmpι] [Std.LawfulEqCmp cmpκ] [DecidableEq ι] [DecidableEq κ]

theorem insert (h : Mirrors forth back index) {k : κ} {v : υ}
    (hi : forth[index v]? = none) (hk : back[k]? = none) :
    Mirrors (forth.insert (index v) k) (back.insertIfNew k v) index := by
  intro i k'
  rw [lookup_insert, lookup_insertIfNew hk]
  by_cases heq : k = k'
  · subst heq
    by_cases hidx : index v = i
    · simp [hidx]
    · rw [if_neg hidx, if_pos rfl]
      constructor
      · intro hik
        obtain ⟨w, hw, _⟩ := h.record hik
        rw [hk] at hw
        cases hw
      · intro hex
        obtain ⟨w, hw, hwi⟩ := hex
        cases hw
        exact absurd hwi hidx
  · rw [if_neg heq]
    by_cases hidx : index v = i
    · rw [if_pos hidx]
      constructor
      · intro hsome
        exact absurd (Option.some.inj hsome) heq
      · intro hex
        have hik := (h i k').mpr hex
        rw [← hidx, hi] at hik
        cases hik
    · rw [if_neg hidx]
      exact h i k'

omit [Std.LawfulEqCmp cmpι] [DecidableEq ι] in
theorem replace (h : Mirrors forth back index) {k : κ} {old v : υ} (hk : back[k]? = some old)
    (hidx : index v = index old) : Mirrors forth (back.insert k v) index := by
  intro i k'
  rw [h i k', lookup_insert]
  by_cases heq : k = k'
  · subst heq
    simp [hk, hidx]
  · rw [if_neg heq]

/-- An index cannot be added to a key whose record has another one. -/
theorem not_of_taken {i : ι} {k : κ} {old v : υ} (hk : back[k]? = some old)
    (hidx : index old ≠ i) : ¬ Mirrors (forth.insert i k) (back.insertIfNew k v) index := by
  intro h
  have hik : (forth.insert i k)[i]? = some k := by rw [lookup_insert, if_pos rfl]
  obtain ⟨w, hw, hwi⟩ := h.record hik
  rw [lookup_insertIfNew_self hk] at hw
  cases hw
  exact hidx hwi

end

end Mirrors

end Tox4j.Misc
