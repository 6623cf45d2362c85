import Tox4j.Instances.Proofs.LockSteps

/-!
# No object is destroyed while it is in use

Every native object is at one place: in a slot, or in the hands of one thread. A thread that
destroys an object has locked the object's mutex once since it took the object out of its slot,
and by then every function running on the object had returned.
-/

namespace Tox4j.Instances

open Tox4j.Misc ToxInstance InstanceManager

/-! ## Steps that change nothing but the place in the code -/

theorem Quiet.user {m : InstanceManager ℕ ℕ ℕ} {pc pc' : Pc} (h : Quiet m pc pc') {k : ℕ}
    (hk : pc'.user = some k) : pc.user = some k ∨ ∃ n, m.slot? n = some (obj k) := by
  cases h with
  | withPass hi =>
    cases hk
    exact .inr ⟨_, hi⟩
  | returned => exact .inl hk
  | _ => cases hk

theorem Quiet.owned {m : InstanceManager ℕ ℕ ℕ} {pc pc' : Pc} (h : Quiet m pc pc') (k : ℕ) :
    (pc'.owned = some (obj k) ↔ pc.owned = some (obj k)) ∧
      (pc.owned = some (obj k) → pc.beforeLock = true → pc'.beforeLock = true) := by
  cases h with
  | killDead =>
    have hne : ¬ (Pc.killTest movedFrom).owned = some (obj k) := fun h =>
      obj_ne_movedFrom k (Option.some.inj h).symm
    exact ⟨⟨by simp [Pc.owned], fun h => absurd h hne⟩, fun h => absurd h hne⟩
  | killLive => exact ⟨Iff.rfl, fun _ _ => rfl⟩
  | _ => exact ⟨Iff.rfl, by simp [Pc.owned, Pc.beforeLock]⟩

/-! ## The places of the objects -/

namespace Threads

section

variable {T : Type} [DecidableEq T] {s s' : Threads T} {t : T}

/-- Steps that leave every object where it is. -/
theorem Objects.still {pc : Pc} (h : s.Objects) (hpcs : s'.pc = Function.update s.pc t pc)
    (hslot : ∀ n, s'.manager.slot? n = s.manager.slot? n) (hcreated : s'.created = s.created)
    (hdestroyed : s'.destroyed = s.destroyed)
    (howned : ∀ k, pc.owned = some (obj k) ↔ (s.pc t).owned = some (obj k))
    (hbefore : ∀ k, (s.pc t).owned = some (obj k) → (s.pc t).beforeLock = true →
      pc.beforeLock = true ∨ ∀ t', (s.pc t').user ≠ some k)
    (huser : ∀ k, pc.user = some k →
      (s.pc t).user = some k ∨ ∃ n, s.manager.slot? n = some (obj k)) : s'.Objects := by
  have hat : ∀ k p, s'.At k p ↔ s.At k p := by
    intro k p
    cases p with
    | slot n => simp only [At, hslot]
    | thread t' =>
      by_cases heq : t' = t
      · subst heq
        simp only [At, hpcs, Function.update_self, howned]
      · simp only [At, hpcs, Function.update_of_ne heq]
  refine ⟨fun k p p' hp hp' => h.unique k p p' ((hat k p).mp hp) ((hat k p').mp hp'),
    fun k p hp => ?_, ?_, fun t' k hk => ?_⟩
  · rw [hcreated, hdestroyed]
    exact h.fresh k p ((hat k p).mp hp)
  · rw [hcreated, hdestroyed]
    exact h.destroyed
  -- an object in use is at a place where it was untouched before the step
  have hold : (∃ t'', (s.pc t'').user = some k) ∨ ∃ n, s.manager.slot? n = some (obj k) := by
    by_cases heq : t' = t
    · subst heq
      rw [hpcs, Function.update_self] at hk
      exact (huser k hk).imp_left fun hk => ⟨t', hk⟩
    · rw [hpcs, Function.update_of_ne heq] at hk
      exact .inl ⟨t', hk⟩
  rcases hold with ⟨t'', hk⟩ | ⟨n, hn⟩
  · obtain ⟨p, hp, huntouched⟩ := h.use t'' k hk
    refine ⟨p, (hat k p).mpr hp, ?_⟩
    cases p with
    | slot n => trivial
    | thread t₁ =>
      by_cases heq : t₁ = t
      · subst heq
        have hpc := (hbefore k hp huntouched).resolve_right fun hno => hno t'' hk
        simpa [Untouched, hpcs] using hpc
      · simpa [Untouched, hpcs, heq] using huntouched
  · exact ⟨.slot n, (hat k _).mpr hn, trivial⟩

/-- Steps from a place where no object waits to be locked. -/
theorem Objects.stay {pc₀ pc : Pc} (h : s.Objects) (hp : s.pc t = pc₀)
    (hpcs : s'.pc = Function.update s.pc t pc)
    (hslot : ∀ n, s'.manager.slot? n = s.manager.slot? n) (hcreated : s'.created = s.created)
    (hdestroyed : s'.destroyed = s.destroyed) (howned : pc.owned = pc₀.owned)
    (hbefore : pc₀.beforeLock = false) (huser : pc.user = none ∨ pc.user = pc₀.user) :
    s'.Objects := by
  refine h.still hpcs hslot hcreated hdestroyed (fun k => ?_) (fun k _ hbefore' => ?_)
    fun k hk => ?_
  · rw [hp, howned]
  · rw [hp, hbefore] at hbefore'
    cases hbefore'
  · rw [hp]
    rcases huser with huser | huser
    · rw [huser] at hk
      cases hk
    · exact .inl (huser ▸ hk)

omit [DecidableEq T] in
/-- Steps that bring an object from one place to another. -/
theorem Objects.relocate {k : ℕ} (h : s.Objects) (p₀ p₁ : Place T) (hk : s.At k p₀)
    (hat : ∀ k' p, s'.At k' p → k' = k ∧ p = p₁ ∨ s.At k' p ∧ p ≠ p₀)
    (hrest : ∀ k' p, s.At k' p → p ≠ p₀ → s'.At k' p)
    (hdest : s'.At k p₁ ∧ s'.Untouched p₁ ∨ ¬ s.Untouched p₀)
    (huntouched : ∀ k' p, s.At k' p → p ≠ p₀ → s.Untouched p → s'.Untouched p)
    (hcreated : s'.created = s.created) (hdestroyed : s'.destroyed = s.destroyed)
    (huser : ∀ t' k', (s'.pc t').user = some k' → (s.pc t').user = some k') : s'.Objects := by
  refine ⟨fun k' p p' hp hp' => ?_, fun k' p hp => ?_, ?_, fun t' k' hk' => ?_⟩
  · rcases hat k' p hp with ⟨rfl, rfl⟩ | ⟨hp, hne⟩ <;>
      rcases hat k' p' hp' with ⟨hk', rfl⟩ | ⟨hp', hne'⟩
    · rfl
    · exact absurd (h.unique _ _ _ hp' hk) hne'
    · subst hk'
      exact absurd (h.unique _ _ _ hp hk) hne
    · exact h.unique k' p p' hp hp'
  · rw [hcreated, hdestroyed]
    rcases hat k' p hp with ⟨rfl, -⟩ | ⟨hp, -⟩
    · exact h.fresh _ _ hk
    · exact h.fresh k' p hp
  · rw [hcreated, hdestroyed]
    exact h.destroyed
  · obtain ⟨p, hp, hfree⟩ := h.use t' k' (huser t' k' hk')
    by_cases hne : p = p₀
    · subst hne
      rcases hdest with ⟨hdest, hdest'⟩ | htouched
      · -- the object that moves
        have heq : k' = k := by
          cases p with
          | slot n => exact obj_injective (Option.some.inj (hp.symm.trans hk))
          | thread t₁ => exact obj_injective (Option.some.inj (hp.symm.trans hk))
        subst heq
        exact ⟨p₁, hdest, hdest'⟩
      · exact absurd hfree htouched
    · exact ⟨p, hrest k' p hp hne, huntouched k' p hp hne hfree⟩

/-- A thread that goes to a place where it uses no object changes no use. -/
theorem goto_user {pc : Pc} {t' : T} {k : ℕ} (huser : pc.user = none)
    (hk : ((s.goto t pc).pc t').user = some k) : (s.pc t').user = some k := by
  by_cases heq : t' = t
  · subst heq
    rw [goto_pc_self, huser] at hk
    cases hk
  · rwa [goto_pc_ne heq] at hk

omit [DecidableEq T] in
/-- What is at a place other than the thread that has moved, when the slots are the same. -/
theorem at_of_others {p : Place T} {k : ℕ} (hothers : ∀ t', t' ≠ t → s'.pc t' = s.pc t')
    (hslot : ∀ n, s'.manager.slot? n = s.manager.slot? n) (hne : p ≠ .thread t) :
    s'.At k p ↔ s.At k p := by
  cases p with
  | slot n => rw [At, At, hslot]
  | thread t' => rw [At, At, hothers t' fun heq => hne (by rw [heq])]

omit [DecidableEq T] in
theorem untouched_of_others {p : Place T} (hothers : ∀ t', t' ≠ t → s'.pc t' = s.pc t')
    (hne : p ≠ .thread t) : s'.Untouched p ↔ s.Untouched p := by
  cases p with
  | slot n => exact Iff.rfl
  | thread t' => rw [Untouched, Untouched, hothers t' fun heq => hne (by rw [heq])]

omit [DecidableEq T] in
/-- A thread without an object is no place of one. -/
theorem ne_thread_of_at {p : Place T} {k : ℕ} (hnone : (s.pc t).owned = none) (hp : s.At k p) :
    p ≠ .thread t := by
  rintro rfl
  rw [At, hnone] at hp
  cases hp

/-- An object is taken out of its slot. -/
theorem Objects.takeOut {n : Int32} {k : ℕ} {pc : Pc} (h : s.Objects)
    (hslot : s.manager.slot? n = some (obj k)) (hnone : (s.pc t).owned = none)
    (howned : pc.owned = some (obj k)) (hbefore : pc.beforeLock = true) (huser : pc.user = none) :
    ({ s with manager := s.manager.setSlot n movedFrom }.goto t pc).Objects := by
  have hpos := (slot?_eq_some.mp hslot).1
  refine h.relocate (.slot n) (.thread t) hslot ?_ ?_ (.inl ⟨?_, ?_⟩) ?_ rfl rfl ?_
  · intro k' p hp
    cases p with
    | slot n' =>
      right
      change (s.manager.setSlot n movedFrom).slot? n' = some (obj k') at hp
      by_cases hn : n = n'
      · subst hn
        rw [slot?_setSlot_self hslot] at hp
        exact absurd (Option.some.inj hp).symm (obj_ne_movedFrom k')
      · rw [slot?_setSlot_ne hpos hn] at hp
        exact ⟨hp, fun heq => hn (Place.slot.inj heq).symm⟩
    | thread t' =>
      by_cases heq : t' = t
      · subst heq
        left
        rw [At, goto_pc_self, howned] at hp
        exact ⟨obj_injective (Option.some.inj hp).symm, rfl⟩
      · right
        rw [At, goto_pc_ne heq] at hp
        exact ⟨hp, by simp⟩
  · intro k' p hp hne
    cases p with
    | slot n' =>
      have hn : n ≠ n' := fun heq => hne (by rw [heq])
      change (s.manager.setSlot n movedFrom).slot? n' = some (obj k')
      rwa [slot?_setSlot_ne hpos hn]
    | thread t' =>
      have heq : t' ≠ t := fun heq => ne_thread_of_at hnone hp (by rw [heq])
      rw [At, goto_pc_ne heq]
      exact hp
  · rw [At, goto_pc_self]
    exact howned
  · rw [Untouched, goto_pc_self]
    exact hbefore
  · intro k' p hp hne hfree
    refine (untouched_of_others (s := s) (fun _ h => goto_pc_ne h _) ?_).mpr hfree
    exact ne_thread_of_at hnone hp
  · intro t' k' hk'
    exact goto_user huser hk'

/-- A new object is put into a slot. -/
theorem Objects.putIn {m : InstanceManager ℕ ℕ ℕ} {n : Int32} {k : ℕ} {pc : Pc} (h : s.Objects)
    (howned : (s.pc t).owned = some (obj k)) (hbefore : (s.pc t).beforeLock = false)
    (hnone : pc.owned = none) (huser : pc.user = none)
    (hnew : ∀ n' k', m.slot? n' = some (obj k') →
      k' = k ∧ n' = n ∨ s.manager.slot? n' = some (obj k'))
    (hold : ∀ n' k', s.manager.slot? n' = some (obj k') → m.slot? n' = some (obj k')) :
    ({ s with manager := m }.goto t pc).Objects := by
  refine h.relocate (.thread t) (.slot n) howned ?_ ?_ (.inr ?_) ?_ rfl rfl ?_
  · intro k' p hp
    cases p with
    | slot n' =>
      rcases hnew n' k' hp with ⟨rfl, rfl⟩ | hp
      · exact .inl ⟨rfl, rfl⟩
      · exact .inr ⟨hp, by simp⟩
    | thread t' =>
      by_cases heq : t' = t
      · subst heq
        rw [At, goto_pc_self, hnone] at hp
        cases hp
      · right
        rw [At, goto_pc_ne heq] at hp
        exact ⟨hp, fun hplace => heq (Place.thread.inj hplace)⟩
  · intro k' p hp hne
    cases p with
    | slot n' => exact hold n' k' hp
    | thread t' =>
      have heq : t' ≠ t := fun heq => hne (by rw [heq])
      rw [At, goto_pc_ne heq]
      exact hp
  · rw [Untouched, hbefore]
    simp
  · intro k' p hp hne hfree
    exact (untouched_of_others (s := s) (fun _ h => goto_pc_ne h _) hne).mpr hfree
  · intro t' k' hk'
    exact goto_user huser hk'

theorem Objects.changes {m : InstanceManager ℕ ℕ ℕ} {pc pc' : Pc} (h : s.Objects)
    (hslots : s.Slots) (hp : s.pc t = pc) (hc : Changes s.manager pc m pc') :
    ({ s with manager := m }.goto t pc').Objects := by
  subst hp
  generalize hpc : s.pc t = pc at hc
  cases hc with
  | push k grows hfree =>
    refine h.putIn (k := k) (n := Int32.ofNat (s.manager.instances.length + 1)) (by rw [hpc]; rfl)
      (by rw [hpc]; rfl) rfl rfl (fun n' k' hn' => ?_) fun n' k' hn' => slot?_push hn'
    rcases slot?_push_cases hn' with hn' | ⟨hk, hn'⟩
    · exact .inr hn'
    · exact .inl ⟨obj_injective hk, hn'⟩
  | @reuse k grows ns n hfree =>
    have hslot := hslots.manager.free n (by simp [hfree])
    have hpos := (slot?_eq_some.mp hslot).1
    refine h.putIn (k := k) (n := n) (by rw [hpc]; rfl) (by rw [hpc]; rfl) rfl rfl
      (fun n' k' hn' => ?_) fun n' k' hn' => ?_
    · by_cases hn : n = n'
      · subst hn
        rw [slot?_reuse_self hslot] at hn'
        exact .inl ⟨obj_injective (Option.some.inj hn').symm, rfl⟩
      · rw [slot?_reuse_ne hpos hn] at hn'
        exact .inr hn'
    · have hn : n ≠ n' := by
        rintro rfl
        rw [hslot] at hn'
        exact absurd (Option.some.inj hn').symm (obj_ne_movedFrom k')
      rwa [slot?_reuse_ne hpos hn]
  | @killMove n i hslot =>
    rcases hslots.content n i hslot with rfl | ⟨k, rfl⟩
    · -- nothing was in the slot
      rw [setSlot_same hslot]
      refine h.still (t := t) rfl (fun _ => rfl) rfl rfl (fun k => ?_) ?_ (by simp [Pc.user])
      · rw [hpc]
        exact ⟨fun hk => absurd (Option.some.inj hk).symm (obj_ne_movedFrom k), by simp [Pc.owned]⟩
      · rw [hpc]
        simp [Pc.owned]
    · exact h.takeOut hslot (by rw [hpc]; rfl) rfl rfl rfl
  | finalizeMove hslot hfree => exact h.takeOut hslot (by rw [hpc]; rfl) rfl rfl rfl
  | finalizeFree reply hslot hfree =>
    exact h.stay hpc rfl (fun _ => rfl) rfl rfl rfl rfl (.inl rfl)

/-- An object is destroyed: nobody is using it, since its mutex was locked after it had been
    taken out of its slot. -/
theorem Objects.destroy {k : ℕ} {freed : Option Int32} (h : s.Objects)
    (hp : s.pc t = .destroy (obj k) freed) :
    ({ s with destroyed := s.destroyed ++ [k] }.goto t (.afterDestroy k freed)).Objects := by
  have hself : s.At k (.thread t) := by
    rw [At, hp]
    rfl
  have howned : (Pc.afterDestroy k freed).owned = none := by cases freed <;> rfl
  have huser : (Pc.afterDestroy k freed).user = none := by cases freed <;> rfl
  have hat : ∀ k' p,
      ({ s with destroyed := s.destroyed ++ [k] }.goto t (.afterDestroy k freed)).At k' p →
      s.At k' p ∧ k' ≠ k := by
    intro k' p hp'
    have hold : s.At k' p ∧ p ≠ .thread t := by
      cases p with
      | slot n => exact ⟨hp', by simp⟩
      | thread t' =>
        by_cases heq : t' = t
        · subst heq
          rw [At, goto_pc_self, howned] at hp'
          cases hp'
        · rw [At, goto_pc_ne heq] at hp'
          exact ⟨hp', fun hplace => heq (Place.thread.inj hplace)⟩
    refine ⟨hold.1, ?_⟩
    rintro rfl
    exact hold.2 (h.unique _ _ _ hold.1 hself)
  refine ⟨fun k' p p' hp₁ hp₂ => h.unique k' p p' (hat k' p hp₁).1 (hat k' p' hp₂).1,
    fun k' p hp' => ?_, fun k' hk' => ?_, fun t' k' hk' => ?_⟩
  · obtain ⟨hlt, hnot⟩ := h.fresh k' p (hat k' p hp').1
    refine ⟨hlt, fun hmem => ?_⟩
    rcases List.mem_append.mp hmem with hmem | hmem
    · exact hnot hmem
    · exact (hat k' p hp').2 (List.mem_singleton.mp hmem)
  · rcases List.mem_append.mp hk' with hmem | hmem
    · exact h.destroyed k' hmem
    · rw [List.mem_singleton.mp hmem]
      exact (h.fresh k _ hself).1
  · obtain ⟨p, hp', hfree⟩ := h.use t' k' (goto_user huser hk')
    have hne : p ≠ .thread t := by
      rintro rfl
      rw [Untouched, hp] at hfree
      cases hfree
    exact ⟨p, (at_of_others (s := s) (fun _ h => goto_pc_ne h _) (fun _ => rfl) hne).mpr hp',
      (untouched_of_others (s := s) (fun _ h => goto_pc_ne h _) hne).mpr hfree⟩

omit [DecidableEq T] in
/-- Nobody is using an object whose mutex is free while another thread is about to lock it to
    destroy the object. -/
theorem Locks.not_used {k : ℕ} {i : ToxInstance ℕ ℕ ℕ} {freed : Option Int32} (h : s.Locks)
    (hp : s.pc t = .lockDying i k freed) (hfree : s.mutexes k = none) (t' : T) :
    (s.pc t').user ≠ some k := by
  intro hk
  have hheld : (s.pc t').heldMutex ≠ some k := by
    intro hheld
    rw [(h.mutexes t' k).mpr hheld] at hfree
    cases hfree
  have hM : (s.pc t).holdsManager = true := by
    rw [hp]
    rfl
  generalize hp' : s.pc t' = pc' at hk hheld
  cases pc' with
  | lockInstance i' k' =>
    -- it would hold the manager as well
    have hM' : (s.pc t').holdsManager = true := by
      rw [hp']
      rfl
    obtain rfl := h.eq_of_holdsManager hM hM'
    rw [hp] at hp'
    cases hp'
  | handOver i' k' => exact hheld hk
  | inFunc i' k' => exact hheld hk
  | unlockInstance i' k' => exact hheld hk
  | _ => cases hk

theorem Objects.moves (h : s.Objects) (hslots : s.Slots) (hlocks : s.Locks) (hm : Moves s t s') :
    s'.Objects := by
  cases hm with
  | @lockManager op hp hfree =>
    cases op <;> exact h.stay hp rfl (fun _ => rfl) rfl rfl rfl rfl (.inl rfl)
  | quiet hp hq =>
    refine h.still (t := t) rfl (fun _ => rfl) rfl rfl (fun k => ?_) (fun k => ?_) fun k hk => ?_
    · rw [hp]
      exact (hq.owned k).1
    · rw [hp]
      exact fun howned hbefore => .inl ((hq.owned k).2 howned hbefore)
    · rw [hp]
      exact hq.user hk
  | changes hp hc => exact h.changes hslots hp hc
  | lockDying hp hfree =>
    refine h.still (t := t) rfl (fun _ => rfl) rfl rfl (fun k => ?_) (fun k hk hbefore => ?_)
      (by simp [Pc.user])
    · rw [hp]
      rfl
    · right
      rw [hp] at hk
      obtain rfl := obj_injective (Option.some.inj hk)
      exact hlocks.not_used hp hfree
  | unlockDying hp => exact h.stay hp rfl (fun _ => rfl) rfl rfl rfl rfl (.inl rfl)
  | destroy hp => exact h.destroy hp
  | lockInstance hp hfree => exact h.stay hp rfl (fun _ => rfl) rfl rfl rfl rfl (.inr rfl)
  | handOver hp => exact h.stay hp rfl (fun _ => rfl) rfl rfl rfl rfl (.inr rfl)
  | unlockInstance hp => exact h.stay hp rfl (fun _ => rfl) rfl rfl rfl rfl (.inl rfl)
  | unlockManager hp => exact h.stay hp rfl (fun _ => rfl) rfl rfl rfl rfl (.inl rfl)

/-! ## Entering an operation -/

/-- A new native object, in the hands of the thread that adds it. -/
theorem Objects.create {grows : Bool} (h : s.Objects) (hidle : s.pc t = .idle) :
    (s.start t (.add grows)).Objects := by
  have hat : ∀ k p, (s.start t (.add grows)).At k p →
      k = s.created ∧ p = .thread t ∨ s.At k p ∧ k < s.created := by
    intro k p hp
    cases p with
    | slot n =>
      have hold : s.At k (.slot n) := hp
      exact .inr ⟨hold, (h.fresh k _ hold).1⟩
    | thread t' =>
      by_cases heq : t' = t
      · subst heq
        left
        rw [At, start, goto_pc_self] at hp
        exact ⟨obj_injective (Option.some.inj hp).symm, rfl⟩
      · right
        rw [At, start, goto_pc_ne heq] at hp
        exact ⟨hp, (h.fresh k (.thread t') hp).1⟩
  refine ⟨fun k p p' hp hp' => ?_, fun k p hp => ?_, fun k hk => ?_, fun t' k hk => ?_⟩
  · rcases hat k p hp with ⟨hk, rfl⟩ | ⟨hold, hlt⟩ <;>
      rcases hat k p' hp' with ⟨hk', rfl⟩ | ⟨hold', hlt'⟩
    · rfl
    · exact absurd hk (Nat.ne_of_lt hlt')
    · exact absurd hk' (Nat.ne_of_lt hlt)
    · exact h.unique k p p' hold hold'
  · rcases hat k p hp with ⟨rfl, -⟩ | ⟨hp, -⟩
    · exact ⟨Nat.lt_succ_self _, fun hmem => absurd (h.destroyed _ hmem) (Nat.lt_irrefl _)⟩
    · obtain ⟨hlt, hnot⟩ := h.fresh k p hp
      exact ⟨Nat.lt_succ_of_lt hlt, hnot⟩
  · exact Nat.lt_succ_of_lt (h.destroyed k hk)
  · have hne : t' ≠ t := by
      rintro rfl
      rw [start, goto_pc_self] at hk
      cases hk
    rw [start, goto_pc_ne hne] at hk
    obtain ⟨p, hp, hfree⟩ := h.use t' k hk
    have hne : p ≠ .thread t := ne_thread_of_at (by rw [hidle]; rfl) hp
    exact ⟨p, (at_of_others (s := s) (fun _ h => goto_pc_ne h _) (fun _ => rfl) hne).mpr hp,
      (untouched_of_others (s := s) (fun _ h => goto_pc_ne h _) hne).mpr hfree⟩

/-- The other operations are entered without an object. -/
theorem Ok.enter {op : Op ℕ ℕ ℕ} (h : s.Ok) (hidle : s.pc t = .idle)
    (howned : (Pc.lockManager op).owned = none) (hop : (Pc.lockManager op).Ok s.manager) :
    (s.goto t (.lockManager op)).Ok where
  locks := h.locks.goto rfl (by rw [hidle]; rfl) (by rw [hidle]; rfl)
  slots := h.slots.still rfl rfl rfl hop
  objects := h.objects.stay hidle rfl (fun _ => rfl) rfl rfl howned rfl (.inl rfl)

theorem Ok.start (h : s.Ok) (hidle : s.pc t = .idle) (entry : Entry) : (s.start t entry).Ok := by
  cases entry with
  | add grows =>
    exact ⟨h.locks.goto rfl (by rw [hidle]; rfl) (by rw [hidle]; rfl),
      h.slots.still rfl rfl rfl ⟨rfl, rfl⟩, h.objects.create hidle⟩
  | kill n => exact h.enter hidle rfl trivial
  | finalize n =>
    by_cases hzero : n = 0
    · simpa only [Threads.start, hzero, if_true] using h
    · have henter : (s.goto t (.lockManager (.finalize n))).Ok := h.enter hidle rfl trivial
      simpa only [Threads.start, hzero, if_false] using henter
  | withInstance n =>
    by_cases hzero : n = 0
    · simpa only [Threads.start, hzero, if_true] using h
    · have henter : (s.goto t (.lockManager (.withInstance n))).Ok := h.enter hidle rfl trivial
      simpa only [Threads.start, hzero, if_false] using henter

/-! ## All interleavings -/

omit [DecidableEq T] in
theorem ok_init : ({} : Threads T).Ok where
  locks := ⟨rfl, fun _ => by simp [Pc.holdsManager], fun _ _ => by simp [Pc.heldMutex]⟩
  slots := ⟨InstanceManager.ok_empty, by simp [slot?], fun _ => trivial⟩
  objects := by
    have hnone : ∀ k p, ¬ ({} : Threads T).At k p := by
      intro k p hp
      cases p with
      | slot n => simp [At, slot?] at hp
      | thread t => cases hp
    exact ⟨fun k p _ hp => absurd hp (hnone k p), fun k p hp => absurd hp (hnone k p),
      by simp, by simp [Pc.user]⟩

theorem Ok.moves (h : s.Ok) (hm : Moves s t s') : s'.Ok :=
  ⟨h.locks.moves hm, h.slots.moves h.locks hm, h.objects.moves h.slots h.locks hm⟩

/-- A step that was taken is one of `Moves`. -/
theorem Ok.moves_of_advance (h : s.Ok) (hstep : s.advance t = .ok (some s')) : Moves s t s' := by
  rcases advance_spec h.slots h.locks t with ⟨-, hnone⟩ | ⟨-, hnone⟩ | ⟨s'', hsome, hm⟩
  · cases hstep.symm.trans hnone
  · cases hstep.symm.trans hnone
  · cases hstep.symm.trans hsome
    exact hm

theorem Ok.step {l : T × Option Entry} (h : s.Ok) (hstep : s.Step l s') : s'.Ok := by
  obtain ⟨t, entry | _⟩ := l
  · exact h.moves (h.moves_of_advance hstep)
  · obtain ⟨hidle, rfl⟩ := hstep
    exact h.start hidle _

theorem ok_of_reachable {ls : List (T × Option Entry)} (h : Reachable ls s) : s.Ok :=
  Run.invariant ok_init (fun _ _ _ hok hstep => hok.step hstep) h

omit [DecidableEq T] in
theorem InsideFunc.pc {k : ℕ} (h : s.Ok) (hin : s.InsideFunc t k) :
    s.pc t = .inFunc (obj k) k := by
  obtain ⟨i, mutex, hp, htox⟩ := hin
  have hpc := h.slots.pc t
  rw [hp] at hpc
  obtain rfl := hpc
  obtain rfl : mutex = k := Option.some.inj htox
  exact hp

omit [DecidableEq T] in
/-- While an object is being destroyed, nobody is inside the function for it or waits for its
    mutex. -/
theorem Ok.not_in_use {k : ℕ} {freed : Option Int32} (h : s.Ok)
    (hp : s.pc t = .destroy (obj k) freed) (t' : T) :
    ¬ s.InsideFunc t' k ∧ ¬ s.WaitsForMutex t' k := by
  have hself : s.At k (.thread t) := by
    rw [At, hp]
    rfl
  -- a user of the object would have left it untouched
  have huse : (s.pc t').user ≠ some k := by
    intro hk
    obtain ⟨p, hat, hfree⟩ := h.objects.use t' k hk
    obtain rfl := h.objects.unique k p _ hat hself
    rw [Untouched, hp] at hfree
    cases hfree
  refine ⟨fun hin => huse (by rw [hin.pc h]; rfl), ?_⟩
  rintro ⟨i, mutex, hwait | ⟨freed', hwait⟩, htox⟩
  · have hpc := h.slots.pc t'
    rw [hwait] at hpc
    obtain rfl := hpc
    obtain rfl : mutex = k := Option.some.inj htox
    exact huse (by rw [hwait]; rfl)
  · have hpc := h.slots.pc t'
    rw [hwait] at hpc
    obtain ⟨rfl, -⟩ := hpc
    obtain rfl : mutex = k := Option.some.inj htox
    have hother : s.At mutex (.thread t') := by
      rw [At, hwait]
      rfl
    obtain rfl := Place.thread.inj (h.objects.unique _ _ _ hother hself)
    rw [hp] at hwait
    cases hwait

/-- What is destroyed by a step. -/
theorem Moves.destroyed {k : ℕ} (hm : Moves s t s') (hk : k ∈ s'.destroyed)
    (hnot : k ∉ s.destroyed) : ∃ freed, s.pc t = .destroy (obj k) freed := by
  cases hm with
  | destroy hp =>
    rcases List.mem_append.mp hk with hk | hk
    · exact absurd hk hnot
    · rw [List.mem_singleton.mp hk]
      exact ⟨_, hp⟩
  | _ => exact absurd hk hnot

end

end Threads

/-- For every interleaving of the steps of any number of threads: two threads are never inside
    the function for the same native object, no object is destroyed while a thread is inside the
    function for it or waits for its mutex, and nobody is inside the function for an object that
    has been destroyed. -/
theorem lock_protocol {T : Type} [DecidableEq T] {ls : List (T × Option Entry)} {s : Threads T}
    (h : Threads.Reachable ls s) :
    (∀ t t' k, s.InsideFunc t k → s.InsideFunc t' k → t = t') ∧
      (∀ t s', s.advance t = .ok (some s') → ∀ k ∈ s'.destroyed, k ∉ s.destroyed →
        ∀ t', ¬ s.InsideFunc t' k ∧ ¬ s.WaitsForMutex t' k) ∧
      ∀ t k, s.InsideFunc t k → k ∉ s.destroyed := by
  have hok := Threads.ok_of_reachable h
  refine ⟨fun t t' k ht ht' => ?_, fun t s' hstep k hk hnot t' => ?_, fun t k ht => ?_⟩
  · exact hok.locks.eq_of_heldMutex (by rw [ht.pc hok]; rfl) (by rw [ht'.pc hok]; rfl)
  · obtain ⟨freed, hp⟩ := Threads.Moves.destroyed (hok.moves_of_advance hstep) hk hnot
    exact hok.not_in_use hp t'
  · obtain ⟨p, hat, -⟩ := hok.objects.use t k (by rw [ht.pc hok]; rfl)
    exact (hok.objects.fresh k p hat).2

/-- One thread adds an object and calls the function for it, another one wants to destroy it. -/
def killDuringCall : List (Bool × Option Entry) :=
  [(false, some (.add false)), (false, none), (false, none), (false, none),
    (false, some (.withInstance 1)), (true, some (.kill 1)),
    (false, none), (false, none), (false, none), (false, none),
    (true, none), (true, none), (true, none), (true, none)]

theorem lock_protocol_killDuringCall : ∃ s, Threads.Reachable killDuringCall s ∧
    s.InsideFunc false 0 ∧ s.WaitsForMutex true 0 ∧ 0 ∉ s.destroyed := by
  have hrun : (do
      let s ← killDuringCall.foldlM Threads.exec {}
      return (s.pc false, s.pc true)) =
        (.ok (.inFunc (obj 0) 0, .lockDying (obj 0) 0 none) : Checked _) := by
    decide +kernel
  simp only [Checked.bind_eq_ok, Checked.pure_eq_ok, Prod.mk.injEq] at hrun
  obtain ⟨s, hrun, hfalse, htrue⟩ := hrun
  have h := Threads.reachable_of_exec hrun
  have hin : s.InsideFunc false 0 := ⟨_, _, hfalse, rfl⟩
  exact ⟨s, h, hin, ⟨_, _, .inr ⟨_, htrue⟩, rfl⟩, (lock_protocol h).2.2 false 0 hin⟩

end Tox4j.Instances
