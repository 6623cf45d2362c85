import Tox4j.Misc.Run
import Tox4j.Misc.TableLoop

/-!
# Part of a system

A table restricted to some of its keys, and the runs of a system seen through a part of its state:
when the steps that are not about the part leave it alone, and the others do to the part what they
do to the whole, then a run of the whole is a run of the part, with fewer steps.
-/

namespace Tox4j.Misc

section

variable {κ υ ω : Type} {cmp : κ → κ → Ordering} [Std.TransCmp cmp] [Std.LawfulEqCmp cmp]
  {K : κ → Bool} {m : Std.ExtTreeMap κ υ cmp} {k : κ}

/-- The records whose keys satisfy `K`. -/
def restrict (K : κ → Bool) (m : Std.ExtTreeMap κ υ cmp) : Std.ExtTreeMap κ υ cmp :=
  m.filter fun k _ => K k

theorem getElem?_restrict (K : κ → Bool) (m : Std.ExtTreeMap κ υ cmp) (k : κ) :
    (restrict K m)[k]? = if K k then m[k]? else none := by
  rw [restrict, Std.ExtTreeMap.getElem?_filter']
  cases hk : K k <;> cases m[k]? <;> simp

theorem restrict_insert (h : K k = true) (v : υ) :
    restrict K (m.insert k v) = (restrict K m).insert k v := by
  refine eq_iff_getElem?_eq.mpr fun k' => ?_
  simp only [getElem?_restrict, Std.ExtTreeMap.getElem?_insert]
  by_cases heq : k = k'
  · subst heq
    simp [h]
  · simp [heq]

theorem restrict_insert_of_not (h : K k = false) (v : υ) :
    restrict K (m.insert k v) = restrict K m := by
  refine eq_iff_getElem?_eq.mpr fun k' => ?_
  simp only [getElem?_restrict, Std.ExtTreeMap.getElem?_insert]
  by_cases heq : k = k'
  · subst heq
    simp [h]
  · simp [heq]

theorem restrict_erase : restrict K (m.erase k) = (restrict K m).erase k := by
  refine eq_iff_getElem?_eq.mpr fun k' => ?_
  simp only [getElem?_restrict, Std.ExtTreeMap.getElem?_erase]
  by_cases heq : k = k'
  · subst heq
    simp
  · simp [heq]

theorem restrict_erase_of_not (h : K k = false) : restrict K (m.erase k) = restrict K m := by
  refine eq_iff_getElem?_eq.mpr fun k' => ?_
  simp only [getElem?_restrict, Std.ExtTreeMap.getElem?_erase]
  by_cases heq : k = k'
  · subst heq
    simp [h]
  · simp [heq]

/-- A loop does to some of the records what it does to them among all. -/
theorem loopRecords_restrict (body : κ → υ → υ × List ω) :
    (loopRecords body (restrict K m)).1 = restrict K (loopRecords body m).1 := by
  refine eq_iff_getElem?_eq.mpr fun k => ?_
  simp only [getElem?_loopRecords, getElem?_restrict]
  split <;> rfl

omit [Std.LawfulEqCmp cmp] in
/-- It puts out the same for them, in the same order. -/
theorem filter_loopRecords {body : κ → υ → υ × List ω} {p : ω → Bool}
    (hK : ∀ k v, ∀ a ∈ (body k v).2, p a = K k) :
    (loopRecords body m).2.filter p = (loopRecords body (restrict K m)).2 := by
  simp only [loopRecords, restrict, Std.ExtTreeMap.toList_filter, List.filter_flatMap]
  induction m.toList with
  | nil => rfl
  | cons entry entries ih =>
    rw [List.flatMap_cons, ih, List.filter_cons]
    cases hk : K entry.1 with
    | true =>
      rw [if_pos rfl, List.flatMap_cons, List.filter_eq_self.mpr]
      intro a ha
      rw [hK entry.1 entry.2 a ha, hk]
    | false =>
      have hnone : (body entry.1 entry.2).2.filter p = [] := by
        refine List.filter_eq_nil_iff.mpr fun a ha => ?_
        rw [hK entry.1 entry.2 a ha, hk]
        exact Bool.false_ne_true
      rw [hnone, List.nil_append]
      rfl

end

universe u v w

/-- A run of the whole, seen through a part. -/
theorem Run.project {σ : Type u} {τ : Type v} {ι : Type w} {step : σ → ι → σ → Prop}
    {part : τ → ι → τ → Prop} (view : σ → τ) (about : ι → Bool)
    (hpart : ∀ s l s', about l = true → step s l s' → part (view s) l (view s'))
    (hrest : ∀ s l s', about l = false → step s l s' → view s' = view s) {s₀ s : σ} {ls : List ι}
    (h : Run step s₀ ls s) : Run part (view s₀) (ls.filter about) (view s) := by
  induction h with
  | nil => exact .nil
  | @snoc ls s s' l _ hs ih =>
    rw [List.filter_append]
    cases hl : about l with
    | true =>
      rw [List.filter_cons_of_pos hl, List.filter_nil]
      exact .snoc ih (hpart s l s' hl hs)
    | false =>
      rw [List.filter_cons_of_neg (by simp [hl]), List.filter_nil, List.append_nil,
        hrest s l s' hl hs]
      exact ih

end Tox4j.Misc
