import Mathlib.Data.List.Basic

/-!
# Lists regrouped by a key

`regroup keys key l` lists the elements of `l` key by key, in the order of `keys`; elements of
one key keep their order. A subsequence that is already sorted by its keys is left as it is, and
no other one is.
-/

namespace Tox4j.Misc

variable {α κ : Type} [DecidableEq κ]

def regroup (keys : List κ) (key : α → κ) (l : List α) : List α :=
  keys.flatMap fun k => l.filter fun x => key x = k

/-- No element stands behind one whose key comes later in `keys`. -/
def Grouped (keys : List κ) (key : α → κ) (l : List α) : Prop :=
  l.Pairwise fun x y => keys.idxOf (key x) ≤ keys.idxOf (key y)

instance (keys : List κ) (key : α → κ) (l : List α) : Decidable (Grouped keys key l) :=
  inferInstanceAs (Decidable (l.Pairwise _))

theorem regroup_cons (k : κ) (keys : List κ) (key : α → κ) (l : List α) :
    regroup (k :: keys) key l = l.filter (fun x => key x = k) ++ regroup keys key l := rfl

theorem filter_regroup (keys : List κ) (key : α → κ) (l : List α) (p : α → Bool) :
    (regroup keys key l).filter p = regroup keys key (l.filter p) := by
  unfold regroup
  rw [List.filter_flatMap]
  congr 1
  funext k
  rw [List.filter_filter, List.filter_filter]
  congr 1
  funext x
  exact Bool.and_comm _ _

/-- Regrouping goes through a map that keeps the keys. -/
theorem map_regroup {β : Type} {key : α → κ} {key' : β → κ} {f : α → β}
    (h : ∀ x, key' (f x) = key x) (keys : List κ) (l : List α) :
    (regroup keys key l).map f = regroup keys key' (l.map f) := by
  unfold regroup
  rw [List.map_flatMap]
  congr 1
  funext k
  rw [List.filter_map]
  congr 2
  funext x
  exact decide_eq_decide.mpr (by rw [h])

theorem regroup_eq_of_notMem {keys : List κ} {k : κ} (hk : k ∉ keys) (key : α → κ)
    (l : List α) : regroup keys key (l.filter fun x => key x ≠ k) = regroup keys key l := by
  induction keys with
  | nil => rfl
  | cons first rest ih =>
    have hne : first ≠ k := fun heq => hk (heq ▸ List.mem_cons_self)
    rw [regroup_cons, regroup_cons, ih (fun h => hk (List.mem_cons_of_mem _ h)),
      List.filter_filter]
    congr 2
    funext x
    by_cases hx : key x = first
    · simp [hx, hne]
    · simp [hx]

/-- The elements of the first key stand in front. -/
theorem Grouped.split {k : κ} {keys : List κ} {key : α → κ} {l : List α}
    (h : Grouped (k :: keys) key l) :
    l.filter (fun x => key x = k) ++ l.filter (fun x => key x ≠ k) = l := by
  induction l with
  | nil => rfl
  | cons x l ih =>
    have htail : Grouped (k :: keys) key l := List.Pairwise.of_cons h
    by_cases hx : key x = k
    · simpa [hx] using ih htail
    · have hnone : l.filter (fun y => key y = k) = [] := by
        rw [List.filter_eq_nil_iff]
        intro y hy
        have hle := List.rel_of_pairwise_cons h hy
        intro hyk
        rw [of_decide_eq_true hyk, List.idxOf_cons_self, List.idxOf_cons_ne _ (Ne.symm hx)] at hle
        omega
      have hrest := ih htail
      rw [hnone, List.nil_append] at hrest
      rw [List.filter_cons_of_neg (by simpa using hx), hnone, List.nil_append,
        List.filter_cons_of_pos (by simpa using hx), hrest]

theorem Grouped.tail {k : κ} {keys : List κ} {key : α → κ} {l : List α}
    (h : Grouped (k :: keys) key l) : Grouped keys key (l.filter fun x => key x ≠ k) := by
  unfold Grouped
  rw [List.pairwise_filter]
  refine List.Pairwise.imp ?_ h
  intro x y hle hx hy
  rw [List.idxOf_cons_ne _ (Ne.symm (of_decide_eq_true hx)),
    List.idxOf_cons_ne _ (Ne.symm (of_decide_eq_true hy))] at hle
  omega

theorem regroup_of_grouped {keys : List κ} {key : α → κ} {l : List α} (hnodup : keys.Nodup)
    (hmem : ∀ x ∈ l, key x ∈ keys) (h : Grouped keys key l) : regroup keys key l = l := by
  induction keys generalizing l with
  | nil =>
    cases l with
    | nil => rfl
    | cons x l => exact absurd (hmem x List.mem_cons_self) List.not_mem_nil
  | cons k keys ih =>
    have hk : k ∉ keys := (List.nodup_cons.mp hnodup).1
    have hrest : regroup keys key (l.filter fun x => key x ≠ k) = l.filter fun x => key x ≠ k := by
      refine ih (List.nodup_cons.mp hnodup).2 ?_ h.tail
      intro x hx
      have hx := List.mem_filter.mp hx
      exact List.mem_of_ne_of_mem (of_decide_eq_true hx.2) (hmem x hx.1)
    calc regroup (k :: keys) key l
        = l.filter (fun x => key x = k) ++ regroup keys key l := rfl
      _ = l.filter (fun x => key x = k) ++ l.filter (fun x => key x ≠ k) := by
        rw [← regroup_eq_of_notMem hk, hrest]
      _ = l := h.split

theorem idxOf_lt_of_pairwise {keys : List κ} (hnodup : keys.Nodup) :
    keys.Pairwise fun k k' => keys.idxOf k < keys.idxOf k' := by
  rw [List.pairwise_iff_getElem]
  intro i j hi hj hij
  rw [hnodup.idxOf_getElem, hnodup.idxOf_getElem]
  exact hij

theorem regroup_grouped {keys : List κ} (hnodup : keys.Nodup) (key : α → κ) (l : List α) :
    Grouped keys key (regroup keys key l) := by
  unfold Grouped regroup
  rw [List.pairwise_flatMap]
  constructor
  · intro k _
    rw [List.pairwise_filter]
    refine List.pairwise_of_forall ?_
    intro x y hx hy
    have hsame : key x = key y := (of_decide_eq_true hx).trans (of_decide_eq_true hy).symm
    exact Nat.le_of_eq (congrArg keys.idxOf hsame)
  · refine List.Pairwise.imp ?_ (idxOf_lt_of_pairwise hnodup)
    intro k k' hlt x hx y hy
    rw [of_decide_eq_true (List.mem_filter.mp hx).2, of_decide_eq_true (List.mem_filter.mp hy).2]
    exact Nat.le_of_lt hlt

/-- Regrouping keeps the order of a list exactly when the list is grouped already. -/
theorem regroup_eq_self_iff {keys : List κ} {key : α → κ} {l : List α} (hnodup : keys.Nodup)
    (hmem : ∀ x ∈ l, key x ∈ keys) : regroup keys key l = l ↔ Grouped keys key l := by
  constructor
  · intro h
    rw [← h]
    exact regroup_grouped hnodup key l
  · exact regroup_of_grouped hnodup hmem

end Tox4j.Misc
