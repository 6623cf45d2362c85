import Mathlib.Tactic.Common
import Tox4j.Misc.Checked

/-!
# Steps that each touch one record

`runAll` does one step for each item of a list. When each step reads and assigns to the record of
its own key only, and the keys are distinct, the steps do not get in each other's way: all return
exactly when each would by itself, and each record ends up as its own step makes it. Two such
programs are compared record by record.
-/

namespace Tox4j.Misc

variable {ι σ κ υ ω : Type}

/-- Does the steps of all items in order, and collects what they put out. -/
def runAll (step : ι → σ → Checked (σ × List ω)) : List ι → σ → Checked (σ × List ω)
  | [], s => .ok (s, [])
  | i :: is, s => do
    let (s, outputs) ← step i s
    let (s, outputs') ← runAll step is s
    return (s, outputs ++ outputs')

/-- Items whose steps do nothing can be left out. -/
theorem runAll_skip {step : ι → σ → Checked (σ × List ω)} {skipped : List ι}
    (h : ∀ i ∈ skipped, ∀ s, step i s = .ok (s, [])) (items : List ι) (s : σ) :
    runAll step (skipped ++ items) s = runAll step items s := by
  induction skipped with
  | nil => rfl
  | cons i skipped ih =>
    rw [List.cons_append, runAll, h i List.mem_cons_self s, Checked.ok_bind]
    simp only [ih fun j hj => h j (List.mem_cons_of_mem _ hj), List.nil_append]
    cases runAll step items s <;> rfl

/-- The step of an item makes the record of its key what `update` says, or fails where that is
    `none`, and touches no other record. -/
structure LocalStep (get : σ → κ → Option υ) (key : ι → κ)
    (step : ι → σ → Checked (σ × List ω)) (update : ι → υ → Option υ) : Prop where
  ok : ∀ {i s v v'}, get s (key i) = some v → update i v = some v' →
    ∃ s' outputs, step i s = .ok (s', outputs) ∧ get s' (key i) = some v' ∧
      ∀ k, k ≠ key i → get s' k = get s k
  fails : ∀ {i s v}, get s (key i) = some v → update i v = none → ∃ e, step i s = .error e

/-- The program makes every record what `update` says, or fails when that is `none` for one. -/
structure Updates (get : σ → κ → Option υ) (records : κ → Option υ) (update : κ → υ → Option υ)
    (x : Checked (σ × List ω)) : Prop where
  ok : (∀ k v, records k = some v → update k v ≠ none) →
    ∃ r, x = .ok r ∧ ∀ k, get r.1 k = (records k).bind (update k)
  fails : ∀ {k v}, records k = some v → update k v = none → ∃ e, x = .error e

namespace Updates

variable {get : σ → κ → Option υ} {records : κ → Option υ} {update update' : κ → υ → Option υ}
  {x y : Checked (σ × List ω)}

/-- A program that puts out something else besides. -/
theorem extend (h : Updates get records update x)
    (hok : ∀ r, x = .ok r → ∃ outputs, y = .ok (r.1, outputs))
    (herror : ∀ e, x = .error e → y = .error e) : Updates get records update y where
  ok hsome := by
    obtain ⟨r, hr, htable⟩ := h.ok hsome
    obtain ⟨outputs, hy⟩ := hok r hr
    exact ⟨(r.1, outputs), hy, htable⟩
  fails hk hnone := by
    obtain ⟨e, he⟩ := h.fails hk hnone
    exact ⟨e, herror e he⟩

/-- Two programs that fail for the same records do the same exactly when they fail, or when they
    make the same of each record. -/
theorem same_iff (hx : Updates get records update x) (hy : Updates get records update' y)
    (hnone : ∀ k v, records k = some v → (update k v = none ↔ update' k v = none)) :
    ((∃ a b, x = .ok a ∧ y = .ok b ∧ ∀ k, get a.1 k = get b.1 k) ∨
        ∃ e e', x = .error e ∧ y = .error e') ↔
      (∃ k v, records k = some v ∧ update' k v = none) ∨
        ∀ k v, records k = some v → update k v = update' k v := by
  by_cases hfails : ∃ k v, records k = some v ∧ update' k v = none
  · obtain ⟨k, v, hk, hv⟩ := hfails
    obtain ⟨e, he⟩ := hx.fails hk ((hnone k v hk).mpr hv)
    obtain ⟨e', he'⟩ := hy.fails hk hv
    exact iff_of_true (.inr ⟨e, e', he, he'⟩) (.inl ⟨k, v, hk, hv⟩)
  · have hsome' : ∀ k v, records k = some v → update' k v ≠ none :=
      fun k v hk hv => hfails ⟨k, v, hk, hv⟩
    have hsome : ∀ k v, records k = some v → update k v ≠ none :=
      fun k v hk hv => hsome' k v hk ((hnone k v hk).mp hv)
    obtain ⟨r, hr, htable⟩ := hx.ok hsome
    obtain ⟨r', hr', htable'⟩ := hy.ok hsome'
    have hsame : ((∃ a b, x = .ok a ∧ y = .ok b ∧ ∀ k, get a.1 k = get b.1 k) ∨
        ∃ e e', x = .error e ∧ y = .error e') ↔ ∀ k, get r.1 k = get r'.1 k := by
      simp [hr, hr']
    rw [hsame, or_iff_right hfails]
    constructor
    · intro heq k v hk
      have hentry := heq k
      rwa [htable, htable', hk] at hentry
    · intro heq k
      rw [htable, htable']
      cases hk : records k with
      | none => rfl
      | some v => exact heq k v hk

end Updates

namespace LocalStep

variable {get : σ → κ → Option υ} {key : ι → κ} {step : ι → σ → Checked (σ × List ω)}
  {update : ι → υ → Option υ} {items : List ι} {s : σ}

/-- Every step would return by itself: all do. -/
theorem runAll_ok (h : LocalStep get key step update)
    (hkeys : items.Pairwise fun i j => key i ≠ key j)
    (hitems : ∀ i ∈ items, ∃ v v', get s (key i) = some v ∧ update i v = some v') :
    ∃ s' outputs, runAll step items s = .ok (s', outputs) ∧
      (∀ i ∈ items, get s' (key i) = (get s (key i)).bind (update i)) ∧
      ∀ k, (∀ i ∈ items, key i ≠ k) → get s' k = get s k := by
  induction items generalizing s with
  | nil => exact ⟨s, [], rfl, by simp, fun _ _ => rfl⟩
  | cons i items ih =>
    obtain ⟨hne, hkeys⟩ := List.pairwise_cons.mp hkeys
    simp only [List.mem_cons, forall_eq_or_imp] at hitems
    obtain ⟨⟨v, v', hv, hupdate⟩, hrest⟩ := hitems
    obtain ⟨mid, outputs, hstep, hself, hothers⟩ := h.ok hv hupdate
    have hframe : ∀ j ∈ items, get mid (key j) = get s (key j) :=
      fun j hj => hothers _ (hne j hj).symm
    have hmid : ∀ j ∈ items, ∃ v v', get mid (key j) = some v ∧ update j v = some v' := by
      intro j hj
      rw [hframe j hj]
      exact hrest j hj
    obtain ⟨s', outputs', hrun, hnew, hold⟩ := ih hkeys hmid
    have hboth : runAll step (i :: items) s = .ok (s', outputs ++ outputs') := by
      simp only [runAll, hstep, Checked.ok_bind, hrun]
      rfl
    refine ⟨s', outputs ++ outputs', hboth, ?_, ?_⟩
    · simp only [List.mem_cons, forall_eq_or_imp]
      constructor
      · rw [hold _ fun j hj => (hne j hj).symm, hself, hv]
        exact hupdate.symm
      · intro j hj
        rw [hnew j hj, hframe j hj]
    · simp only [List.mem_cons, forall_eq_or_imp]
      intro k hk
      rw [hold k hk.2, hothers k hk.1.symm]

/-- One step would fail by itself: they fail together. -/
theorem runAll_error (h : LocalStep get key step update)
    (hkeys : items.Pairwise fun i j => key i ≠ key j)
    (hpresent : ∀ i ∈ items, ∃ v, get s (key i) = some v)
    (hfails : ∃ i ∈ items, ∃ v, get s (key i) = some v ∧ update i v = none) :
    ∃ e, runAll step items s = .error e := by
  induction items generalizing s with
  | nil => simp at hfails
  | cons i items ih =>
    obtain ⟨hne, hkeys⟩ := List.pairwise_cons.mp hkeys
    simp only [List.mem_cons, forall_eq_or_imp, exists_eq_or_imp] at hpresent hfails
    obtain ⟨⟨v, hv⟩, hrest⟩ := hpresent
    cases hupdate : update i v with
    | none =>
      obtain ⟨e, hstep⟩ := h.fails hv hupdate
      exact ⟨e, by rw [runAll, hstep]; rfl⟩
    | some v' =>
      obtain ⟨mid, outputs, hstep, hself, hothers⟩ := h.ok hv hupdate
      have hframe : ∀ j ∈ items, get mid (key j) = get s (key j) :=
        fun j hj => hothers _ (hne j hj).symm
      have hlater : ∃ j ∈ items, ∃ v, get mid (key j) = some v ∧ update j v = none := by
        rcases hfails with ⟨w, hw, hnone⟩ | ⟨j, hj, w, hw, hnone⟩
        · rw [hv, Option.some.injEq] at hw
          rw [← hw, hupdate] at hnone
          cases hnone
        · exact ⟨j, hj, w, by rw [hframe j hj, hw], hnone⟩
      obtain ⟨e, hrun⟩ := ih hkeys (fun j hj => by rw [hframe j hj]; exact hrest j hj) hlater
      exact ⟨e, by simp only [runAll, hstep, Checked.ok_bind, hrun]; rfl⟩

/-- The steps of all items, where `records` and `update'` say what was there before and what becomes
    of it: the record of an item is updated by its step, and any other is there already. -/
theorem updates (h : LocalStep get key step update)
    (hkeys : items.Pairwise fun i j => key i ≠ key j) (records : κ → Option υ)
    (update' : κ → υ → Option υ)
    (hitems : ∀ i ∈ items, ∃ v₀ v, records (key i) = some v₀ ∧ get s (key i) = some v ∧
      update i v = update' (key i) v₀)
    (hothers : ∀ k, (∀ i ∈ items, key i ≠ k) → get s k = (records k).bind (update' k) ∧
      ∀ v, records k = some v → update' k v ≠ none) :
    Updates get records update' (runAll step items s) where
  ok hsome := by
    have hsteps : ∀ i ∈ items, ∃ v v', get s (key i) = some v ∧ update i v = some v' := by
      intro i hi
      obtain ⟨v₀, v, hrecord, hv, heq⟩ := hitems i hi
      obtain ⟨v', hv'⟩ := Option.ne_none_iff_exists'.mp (hsome _ _ hrecord)
      exact ⟨v, v', hv, heq.trans hv'⟩
    obtain ⟨s', outputs, hrun, hself, hrest⟩ := h.runAll_ok hkeys hsteps
    refine ⟨(s', outputs), hrun, ?_⟩
    intro k
    by_cases hk : ∃ i ∈ items, key i = k
    · obtain ⟨i, hi, rfl⟩ := hk
      obtain ⟨v₀, v, hrecord, hv, heq⟩ := hitems i hi
      rw [hself i hi, hv, hrecord]
      exact heq
    · have hne : ∀ i ∈ items, key i ≠ k := fun i hi heq => hk ⟨i, hi, heq⟩
      exact (hrest k hne).trans (hothers k hne).1
  fails {k v₀} hrecord hnone := by
    by_cases hk : ∃ i ∈ items, key i = k
    · obtain ⟨i, hi, rfl⟩ := hk
      obtain ⟨v₁, v, hrecord', hv, heq⟩ := hitems i hi
      obtain rfl : v₀ = v₁ := Option.some.inj (hrecord.symm.trans hrecord')
      refine h.runAll_error hkeys ?_ ⟨i, hi, v, hv, heq.trans hnone⟩
      intro j hj
      obtain ⟨_, w, -, hw, -⟩ := hitems j hj
      exact ⟨w, hw⟩
    · exact absurd hnone ((hothers k fun i hi heq => hk ⟨i, hi, heq⟩).2 v₀ hrecord)

/-- A step for each record of the table. -/
theorem updates_keys {step : κ → σ → Checked (σ × List ω)} {update : κ → υ → Option υ}
    {keys : List κ} (h : LocalStep get id step update) (hkeys : keys.Pairwise (· ≠ ·))
    (hmem : ∀ k, k ∈ keys ↔ ∃ v, get s k = some v) :
    Updates get (get s) update (runAll step keys s) := by
  refine h.updates hkeys (get s) update ?_ ?_
  · intro k hk
    obtain ⟨v, hv⟩ := (hmem k).mp hk
    exact ⟨v, v, hv, hv, rfl⟩
  · intro k hne
    have habsent : get s k = none := by
      by_contra hsome
      exact hne k ((hmem k).mpr (Option.ne_none_iff_exists'.mp hsome)) rfl
    rw [habsent]
    exact ⟨rfl, fun v hv => by cases hv⟩

end LocalStep

end Tox4j.Misc
