import Mathlib.Data.List.Basic
import Std.Data.ExtTreeMap.Lemmas

/-!
# Loops over the records of a table

A loop visits all records of a map, in the order of the keys. Its body sees one record at a time,
may assign to it, and may put something out. So what the loop does to one record is what the body
does to it, and what it puts out for one key is what the body puts out there.
-/

namespace Tox4j.Misc

variable {κ υ ω : Type} {cmp : κ → κ → Ordering} [Std.TransCmp cmp] [Std.LawfulEqCmp cmp]

/-- The records after the loop, and what it puts out. -/
def loopRecords (body : κ → υ → υ × List ω) (m : Std.ExtTreeMap κ υ cmp) :
    Std.ExtTreeMap κ υ cmp × List ω :=
  (m.map fun k v => (body k v).1, m.toList.flatMap fun entry => (body entry.1 entry.2).2)

variable {body : κ → υ → υ × List ω} {m : Std.ExtTreeMap κ υ cmp}

theorem getElem?_loopRecords (body : κ → υ → υ × List ω) (m : Std.ExtTreeMap κ υ cmp) (k : κ) :
    (loopRecords body m).1[k]? = m[k]?.map fun v => (body k v).1 := by
  simp [loopRecords, Std.ExtTreeMap.getElem?_map]

theorem mem_loopRecords {a : ω} :
    a ∈ (loopRecords body m).2 ↔ ∃ k v, m[k]? = some v ∧ a ∈ (body k v).2 := by
  simp only [loopRecords, List.mem_flatMap, Prod.exists,
    Std.ExtTreeMap.mem_toList_iff_getElem?_eq_some]

/-- Maps are the same when they have the same records. -/
theorem eq_iff_getElem?_eq {m' : Std.ExtTreeMap κ υ cmp} :
    m = m' ↔ ∀ k : κ, m[k]? = m'[k]? := by
  constructor
  · intro heq k
    rw [heq]
  · exact Std.ExtTreeMap.ext_getElem?

omit [Std.LawfulEqCmp cmp] in
theorem distinct_keys (m : Std.ExtTreeMap κ υ cmp) : m.keys.Pairwise (· ≠ ·) := by
  refine Std.ExtTreeMap.distinct_keys.imp ?_
  intro a b hne heq
  apply hne
  rw [heq]
  exact Std.ReflCmp.compare_self

/-- Every key is visited once. -/
theorem distinct_toList (m : Std.ExtTreeMap κ υ cmp) :
    m.toList.Pairwise fun a b => a.1 ≠ b.1 := by
  refine Std.ExtTreeMap.distinct_keys_toList.imp ?_
  intro a b hne heq
  apply hne
  rw [heq]
  exact Std.ReflCmp.compare_self

/-- In a list with distinct keys, the entry of one key yields all that is not empty. -/
theorem flatMap_eq_of_key {ι α β : Type} {entries : List (ι × α)} {k : ι} {v : α}
    {g : ι × α → List β} (hkeys : entries.Pairwise fun a b => a.1 ≠ b.1)
    (hmem : (k, v) ∈ entries) (hg : ∀ e ∈ entries, e.1 ≠ k → g e = []) :
    entries.flatMap g = g (k, v) := by
  induction entries with
  | nil => simp at hmem
  | cons entry entries ih =>
    obtain ⟨hne, hkeys⟩ := List.pairwise_cons.mp hkeys
    rw [List.flatMap_cons]
    rcases List.mem_cons.mp hmem with rfl | hmem
    · have hrest : entries.flatMap g = [] := List.flatMap_eq_nil_iff.mpr fun e he =>
        hg e (List.mem_cons_of_mem _ he) (hne e he).symm
      rw [hrest, List.append_nil]
    · rw [hg entry List.mem_cons_self (hne _ hmem),
        ih hkeys hmem fun e he => hg e (List.mem_cons_of_mem _ he), List.nil_append]

/-- What the loop puts out that concerns one key is what the body puts out for it. -/
theorem filterMap_loopRecords {β : Type} {φ : ω → Option β} (k : κ)
    (hφ : ∀ k' v, m[k']? = some v → k' ≠ k → (body k' v).2.filterMap φ = []) :
    (loopRecords body m).2.filterMap φ =
      m[k]?.toList.flatMap fun v => (body k v).2.filterMap φ := by
  have hother : ∀ e ∈ m.toList, e.1 ≠ k → (body e.1 e.2).2.filterMap φ = [] := by
    intro e he hne
    exact hφ e.1 e.2 (Std.ExtTreeMap.mem_toList_iff_getElem?_eq_some.mp he) hne
  simp only [loopRecords, List.filterMap_flatMap]
  cases hk : m[k]? with
  | none =>
    refine List.flatMap_eq_nil_iff.mpr ?_
    intro e he
    apply hother e he
    intro hkey
    rw [← hkey, Std.ExtTreeMap.mem_toList_iff_getElem?_eq_some.mp he] at hk
    cases hk
  | some v =>
    rw [flatMap_eq_of_key (distinct_toList m)
      (Std.ExtTreeMap.mem_toList_iff_getElem?_eq_some.mpr hk) hother]
    simp

/-- What relates the outputs of one record and those of different records relates all. -/
theorem pairwise_loopRecords {R : ω → ω → Prop}
    (hsame : ∀ k v, m[k]? = some v → (body k v).2.Pairwise R)
    (hdiff : ∀ k k' v v', k ≠ k' → m[k]? = some v → m[k']? = some v' →
      ∀ a ∈ (body k v).2, ∀ b ∈ (body k' v').2, R a b) :
    (loopRecords body m).2.Pairwise R := by
  simp only [loopRecords, List.pairwise_flatMap]
  constructor
  · intro entry hentry
    exact hsame _ _ (Std.ExtTreeMap.mem_toList_iff_getElem?_eq_some.mp hentry)
  · refine (distinct_toList m).imp_of_mem ?_
    intro entry entry' hentry hentry' hne
    exact hdiff _ _ _ _ hne (Std.ExtTreeMap.mem_toList_iff_getElem?_eq_some.mp hentry)
      (Std.ExtTreeMap.mem_toList_iff_getElem?_eq_some.mp hentry')

end Tox4j.Misc
