import Tox4j.Instances.LockSteps

/-!
# What the threads of an instance manager can do

`Ok` is the invariant over all interleavings: who holds which mutex, what a thread that holds
the manager knows about it, and that every native object is in one place at a time. `Moves`
says once what a step of a thread can be in a state that satisfies the invariant.
-/

namespace Tox4j.Instances

open Tox4j.Misc ToxInstance InstanceManager

/-- The `k`-th object in an instance. -/
abbrev obj (k : ℕ) : ToxInstance ℕ ℕ ℕ := ofPointers k k k

theorem obj_injective {k k' : ℕ} (h : obj k = obj k') : k = k' := by
  simpa [ofPointers] using h

theorem obj_ne_movedFrom (k : ℕ) : obj k ≠ movedFrom := by
  simp [ofPointers, movedFrom]

/-! ## Places in the code -/

/-- The mutexes the threads of one manager share. -/
inductive SharedMutex where
  | manager
  | inst (mutex : ℕ)

namespace Pc

/-- The manager's mutex is held here. -/
def holdsManager : Pc → Bool
  | .idle | .lockManager _ | .inFunc _ _ | .unlockInstance _ _ => false
  | .insert _ _ | .killCheck _ | .killMove _ | .killTest _ | .finalizeCheck _ | .finalizeLive _
  | .finalizeMove _ | .lockDying _ _ _ | .unlockDying _ _ _ | .destroy _ _ | .finalizeFree _ _
  | .withCheck _ | .lockInstance _ _ | .handOver _ _ | .unlockManager _ => true

/-- The mutex of an instance that is held here. -/
def heldMutex : Pc → Option ℕ
  | .unlockDying _ mutex _ | .handOver _ mutex | .inFunc _ mutex | .unlockInstance _ mutex =>
      some mutex
  | .idle | .lockManager _ | .insert _ _ | .killCheck _ | .killMove _ | .killTest _
  | .finalizeCheck _ | .finalizeLive _ | .finalizeMove _ | .lockDying _ _ _ | .destroy _ _
  | .finalizeFree _ _ | .withCheck _ | .lockInstance _ _ | .unlockManager _ => none

/-- The mutex the next step locks. -/
def waits : Pc → Option SharedMutex
  | .lockManager _ => some .manager
  | .lockDying _ mutex _ | .lockInstance _ mutex => some (.inst mutex)
  | .idle | .insert _ _ | .killCheck _ | .killMove _ | .killTest _ | .finalizeCheck _
  | .finalizeLive _ | .finalizeMove _ | .unlockDying _ _ _ | .destroy _ _ | .finalizeFree _ _
  | .withCheck _ | .handOver _ _ | .inFunc _ _ | .unlockInstance _ _ | .unlockManager _ => none

/-- The instance that is in a local variable here, outside of the vector. -/
def owned : Pc → Option (ToxInstance ℕ ℕ ℕ)
  | .lockManager (.add tox events mutex _) => some (ofPointers tox events mutex)
  | .insert i _ | .killTest i | .lockDying i _ _ | .unlockDying i _ _ | .destroy i _ => some i
  | .lockManager (.kill _) | .lockManager (.finalize _) | .lockManager (.withInstance _)
  | .idle | .killCheck _ | .killMove _ | .finalizeCheck _ | .finalizeLive _ | .finalizeMove _
  | .finalizeFree _ _ | .withCheck _ | .lockInstance _ _ | .handOver _ _ | .inFunc _ _
  | .unlockInstance _ _ | .unlockManager _ => none

/-- The mutex of the instance the function is about to run on, runs on, or has run on. -/
def user : Pc → Option ℕ
  | .lockInstance _ mutex | .handOver _ mutex | .inFunc _ mutex | .unlockInstance _ mutex =>
      some mutex
  | .idle | .lockManager _ | .insert _ _ | .killCheck _ | .killMove _ | .killTest _
  | .finalizeCheck _ | .finalizeLive _ | .finalizeMove _ | .lockDying _ _ _ | .unlockDying _ _ _
  | .destroy _ _ | .finalizeFree _ _ | .withCheck _ | .unlockManager _ => none

/-- An instance was taken out of the vector, and its mutex was not locked since. -/
def beforeLock : Pc → Bool
  | .killTest _ | .lockDying _ _ _ => true
  | .idle | .lockManager _ | .insert _ _ | .killCheck _ | .killMove _ | .finalizeCheck _
  | .finalizeLive _ | .finalizeMove _ | .unlockDying _ _ _ | .destroy _ _ | .finalizeFree _ _
  | .withCheck _ | .lockInstance _ _ | .handOver _ _ | .inFunc _ _ | .unlockInstance _ _
  | .unlockManager _ => false

/-- What is known here about the manager and the local variables. -/
def Ok (m : InstanceManager ℕ ℕ ℕ) : Pc → Prop
  | .lockManager (.add tox events mutex _) => events = tox ∧ mutex = tox
  | .insert i _ => ∃ k, i = obj k
  | .killMove n => (m.slot? n).isSome = true
  | .killTest i => i = movedFrom ∨ ∃ k, i = obj k
  | .finalizeLive n => (m.slot? n).isSome = true ∧ n ∉ m.freelist
  | .finalizeMove n => (∃ k, m.slot? n = some (obj k)) ∧ n ∉ m.freelist
  | .lockDying i mutex freed | .unlockDying i mutex freed =>
      i = obj mutex ∧ ∀ n ∈ freed, m.slot? n = some movedFrom ∧ n ∉ m.freelist
  | .destroy i freed =>
      (∃ k, i = obj k) ∧ ∀ n ∈ freed, m.slot? n = some movedFrom ∧ n ∉ m.freelist
  | .finalizeFree n _ => m.slot? n = some movedFrom ∧ n ∉ m.freelist
  | .lockInstance i mutex | .handOver i mutex | .inFunc i mutex | .unlockInstance i mutex =>
      i = obj mutex
  | .lockManager (.kill _) | .lockManager (.finalize _) | .lockManager (.withInstance _)
  | .idle | .killCheck _ | .finalizeCheck _ | .withCheck _ | .unlockManager _ => True

/-- Outside of the manager's mutex nothing is known about the manager. -/
theorem Ok.of_not_holdsManager {m m' : InstanceManager ℕ ℕ ℕ} {pc : Pc} (h : pc.Ok m)
    (hfree : pc.holdsManager = false) : pc.Ok m' := by
  cases pc with
  | lockManager op =>
    cases op with
    | add => exact h
    | kill | finalize | withInstance => trivial
  | idle => trivial
  | inFunc | unlockInstance => exact h
  | _ => cases hfree

end Pc

/-! ## The invariant -/

/-- Where a native object can be. -/
inductive Place (T : Type) where
  | slot (n : Int32)
  | thread (t : T)

namespace Threads

variable {T : Type}

def holderOf (s : Threads T) : SharedMutex → Option T
  | .manager => s.holder
  | .inst mutex => s.mutexes mutex

/-- The `k`-th native object is at this place. -/
def At (s : Threads T) (k : ℕ) : Place T → Prop
  | .slot n => s.manager.slot? n = some (obj k)
  | .thread t => (s.pc t).owned = some (obj k)

/-- An object at this place was not locked to be destroyed yet. -/
def Untouched (s : Threads T) : Place T → Prop
  | .slot _ => True
  | .thread t => (s.pc t).beforeLock = true

/-- The holders of the mutexes are the threads that are at the right place in the code. -/
structure Locks (s : Threads T) : Prop where
  locked : s.manager.locked = s.holder.isSome
  holder : ∀ t, s.holder = some t ↔ (s.pc t).holdsManager = true
  mutexes : ∀ t mutex, s.mutexes mutex = some t ↔ (s.pc t).heldMutex = some mutex

/-- The manager's own invariant, and what the threads know about it. -/
structure Slots (s : Threads T) : Prop where
  manager : s.manager.Ok
  content : ∀ n i, s.manager.slot? n = some i → i = movedFrom ∨ ∃ k, i = obj k
  pc : ∀ t, (s.pc t).Ok s.manager

/-- Every native object is at one place until it is destroyed, and what a function runs on was
    not locked to be destroyed. -/
structure Objects (s : Threads T) : Prop where
  unique : ∀ k p p', s.At k p → s.At k p' → p = p'
  fresh : ∀ k p, s.At k p → k < s.created ∧ k ∉ s.destroyed
  destroyed : ∀ k ∈ s.destroyed, k < s.created
  use : ∀ t mutex, (s.pc t).user = some mutex → ∃ p, s.At mutex p ∧ s.Untouched p

/-- The invariant of all interleavings. -/
structure Ok (s : Threads T) : Prop where
  locks : s.Locks
  slots : s.Slots
  objects : s.Objects

end Threads

/-! ## Steps -/

/-- Steps that change nothing but the place in the code. -/
inductive Quiet (m : InstanceManager ℕ ℕ ℕ) : Pc → Pc → Prop
  | killReject {n e} : m.killCheck n = .ok (some e) →
      Quiet m (.killCheck n) (.unlockManager (.threw e))
  | killPass {n} : (m.slot? n).isSome = true → Quiet m (.killCheck n) (.killMove n)
  | killDead : Quiet m (.killTest movedFrom) (.unlockManager .done)
  | killLive (k) : Quiet m (.killTest (obj k)) (.lockDying (obj k) k none)
  | finalizeReject {n e} : m.finalizeCheck n = .ok (some e) →
      Quiet m (.finalizeCheck n) (.unlockManager (.threw e))
  | finalizePass {n} : (m.slot? n).isSome = true → n ∉ m.freelist →
      Quiet m (.finalizeCheck n) (.finalizeLive n)
  | finalizeLive {n k} : m.slot? n = some (obj k) → n ∉ m.freelist →
      Quiet m (.finalizeLive n) (.finalizeMove n)
  | finalizeDead {n} : m.slot? n = some movedFrom → n ∉ m.freelist →
      Quiet m (.finalizeLive n) (.finalizeFree n .done)
  | withReject {n e} : m.withCheck n = .ok (.error e) →
      Quiet m (.withCheck n) (.unlockManager (.threw e))
  | withPass {n k} : m.slot? n = some (obj k) → Quiet m (.withCheck n) (.lockInstance (obj k) k)
  | returned (i mutex) : Quiet m (.inFunc i mutex) (.unlockInstance i mutex)

/-- Steps that change the manager, under its mutex. -/
inductive Changes (m : InstanceManager ℕ ℕ ℕ) : Pc → InstanceManager ℕ ℕ ℕ → Pc → Prop
  | push (k grows) : m.freelist = [] →
      Changes m (.insert (obj k) grows) (m.push (obj k))
        (.unlockManager (.added (Int32.ofNat (m.instances.length + 1))))
  | reuse (k grows) {ns n} : m.freelist = ns ++ [n] →
      Changes m (.insert (obj k) grows) (m.reuse ns n (obj k)) (.unlockManager (.added n))
  | killMove {n i} : m.slot? n = some i →
      Changes m (.killMove n) (m.setSlot n movedFrom) (.killTest i)
  | finalizeMove {n k} : m.slot? n = some (obj k) → n ∉ m.freelist →
      Changes m (.finalizeMove n) (m.setSlot n movedFrom) (.lockDying (obj k) k (some n))
  | finalizeFree {n} (reply) : m.slot? n = some movedFrom → n ∉ m.freelist →
      Changes m (.finalizeFree n reply) (m.free n) (.unlockManager reply)

/-- Where a thread goes on after it destroyed an instance. -/
def Pc.afterDestroy (k : ℕ) : Option Int32 → Pc
  | none => .unlockManager (.destroyed (some k))
  | some n => .finalizeFree n (.destroyed (some k))

section

variable {T : Type} [DecidableEq T]

/-- Everything a step of a thread can be. -/
inductive Moves (s : Threads T) (t : T) : Threads T → Prop
  | lockManager {op} : s.pc t = .lockManager op → s.holder = none →
      Moves s t ({ s with holder := some t, manager := s.manager.lock }.goto t op.firstPc)
  | quiet {pc pc'} : s.pc t = pc → Quiet s.manager pc pc' → Moves s t (s.goto t pc')
  | changes {pc m pc'} : s.pc t = pc → Changes s.manager pc m pc' →
      Moves s t ({ s with manager := m }.goto t pc')
  | lockDying {k freed} : s.pc t = .lockDying (obj k) k freed → s.mutexes k = none →
      Moves s t ({ s with mutexes := Function.update s.mutexes k (some t) }.goto t
        (.unlockDying (obj k) k freed))
  | unlockDying {k freed} : s.pc t = .unlockDying (obj k) k freed →
      Moves s t (s.releaseMutex t k (.destroy (obj k) freed))
  | destroy {k freed} : s.pc t = .destroy (obj k) freed →
      Moves s t ({ s with destroyed := s.destroyed ++ [k] }.goto t (.afterDestroy k freed))
  | lockInstance {k} : s.pc t = .lockInstance (obj k) k → s.mutexes k = none →
      Moves s t ({ s with mutexes := Function.update s.mutexes k (some t) }.goto t
        (.handOver (obj k) k))
  | handOver {k} : s.pc t = .handOver (obj k) k → Moves s t (s.release t (.inFunc (obj k) k))
  | unlockInstance {k} : s.pc t = .unlockInstance (obj k) k → Moves s t (s.releaseMutex t k .idle)
  | unlockManager {reply} : s.pc t = .unlockManager reply → Moves s t (s.release t .idle)

/-- The next step locks a mutex that is held. -/
def Blocked (s : Threads T) (t : T) : Prop :=
  ∃ mutex, (s.pc t).waits = some mutex ∧ s.holderOf mutex ≠ none

/-- In a state that satisfies the invariant, a thread in an operation is blocked or takes one of
    the steps; no assertion fails. -/
theorem advance_spec {s : Threads T} (hslots : s.Slots) (hlocks : s.Locks) (t : T) :
    (s.pc t = .idle ∧ s.advance t = .ok none) ∨ (Blocked s t ∧ s.advance t = .ok none) ∨
      ∃ s', s.advance t = .ok (some s') ∧ Moves s t s' := by
  have hpc := hslots.pc t
  have hlocked : (s.pc t).holdsManager = true → s.manager.locked = true := by
    intro h
    rw [hlocks.locked, (hlocks.holder t).mpr h]
    rfl
  unfold Threads.advance
  generalize hp : s.pc t = p at hpc hlocked
  cases p with
  | idle => exact .inl ⟨rfl, rfl⟩
  | lockManager op =>
    right
    by_cases hfree : s.holder = none
    · exact .inr ⟨_, by simp only [Threads.acquire, hfree, if_true], .lockManager hp hfree⟩
    · exact .inl ⟨⟨.manager, by rw [hp]; rfl, hfree⟩,
        by simp only [Threads.acquire, hfree, if_false]⟩
  | insert i grows =>
    right; right
    obtain ⟨k, rfl⟩ := hpc
    rcases List.eq_nil_or_concat s.manager.freelist with hfree | ⟨ns, n, hfree⟩
    · have hinsert := insert_of_nil hslots.manager (valid_ofPointers k k k) hfree grows
      exact ⟨_, by simp only [hinsert, Checked.ok_bind]; rfl, .changes hp (.push k grows hfree)⟩
    · rw [List.concat_eq_append] at hfree
      have hinsert := insert_of_snoc hslots.manager (valid_ofPointers k k k) rfl hfree grows
      exact ⟨_, by simp only [hinsert, Checked.ok_bind]; rfl, .changes hp (.reuse k grows hfree)⟩
  | killCheck n =>
    right; right
    rcases killCheck_eq (hlocked rfl) (n := n) with ⟨hsome, hcheck⟩ | ⟨-, e, hcheck⟩
    · exact ⟨_, by simp only [hcheck, Checked.ok_bind]; rfl, .quiet hp (.killPass hsome)⟩
    · exact ⟨_, by simp only [hcheck, Checked.ok_bind]; rfl, .quiet hp (.killReject hcheck)⟩
  | killMove n =>
    right; right
    obtain ⟨i, hi⟩ := Option.isSome_iff_exists.mp hpc
    have hremove := remove_eq (hlocked rfl) hi (hslots.manager.valid_of_slot? hi)
    exact ⟨_, by simp only [hremove, Checked.ok_bind]; rfl, .changes hp (.killMove hi)⟩
  | killTest i =>
    right; right
    rcases hpc with rfl | ⟨k, rfl⟩
    · exact ⟨_, by simp only [killTest_dead, Checked.ok_bind]; rfl, .quiet hp .killDead⟩
    · have htest := killTest_live (valid_ofPointers k k k) rfl
      exact ⟨_, by simp only [htest, Checked.ok_bind]; rfl, .quiet hp (.killLive k)⟩
  | finalizeCheck n =>
    right; right
    rcases finalizeCheck_eq (hlocked rfl) (n := n) with ⟨hsome, hfree, hcheck⟩ | ⟨-, e, hcheck⟩
    · exact ⟨_, by simp only [hcheck, Checked.ok_bind]; rfl,
        .quiet hp (.finalizePass hsome hfree)⟩
    · exact ⟨_, by simp only [hcheck, Checked.ok_bind]; rfl, .quiet hp (.finalizeReject hcheck)⟩
  | finalizeLive n =>
    right; right
    obtain ⟨hsome, hfree⟩ := hpc
    obtain ⟨i, hi⟩ := Option.isSome_iff_exists.mp hsome
    have hget := get_eq (hlocked rfl) hi
    rcases hslots.content n i hi with rfl | ⟨k, rfl⟩
    · exact ⟨_, by simp only [hget, Checked.ok_bind]; rfl, .quiet hp (.finalizeDead hi hfree)⟩
    · exact ⟨_, by simp only [hget, Checked.ok_bind]; rfl, .quiet hp (.finalizeLive hi hfree)⟩
  | finalizeMove n =>
    right; right
    obtain ⟨⟨k, hi⟩, hfree⟩ := hpc
    have hremove := finalizeRemove_eq (hlocked rfl) hi (valid_ofPointers k k k) rfl
    exact ⟨_, by simp only [hremove, Checked.ok_bind]; rfl,
      .changes hp (.finalizeMove hi hfree)⟩
  | lockDying i mutex freed =>
    right
    obtain ⟨rfl, -⟩ := hpc
    by_cases hfree : s.mutexes mutex = none
    · exact .inr ⟨_, by simp only [Threads.acquireMutex, hfree, if_true], .lockDying hp hfree⟩
    · exact .inl ⟨⟨.inst mutex, by rw [hp]; rfl, hfree⟩,
        by simp only [Threads.acquireMutex, hfree, if_false]⟩
  | unlockDying i mutex freed =>
    obtain ⟨rfl, -⟩ := hpc
    exact .inr (.inr ⟨_, rfl, .unlockDying hp⟩)
  | destroy i freed =>
    obtain ⟨⟨k, rfl⟩, -⟩ := hpc
    refine .inr (.inr ⟨_, rfl, ?_⟩)
    cases freed with
    | none => exact .destroy hp
    | some n => exact .destroy hp
  | finalizeFree n reply =>
    right; right
    have hset := finalizeFree_eq (hlocked rfl) hpc.1
    exact ⟨_, by simp only [hset, Checked.ok_bind]; rfl,
      .changes hp (.finalizeFree reply hpc.1 hpc.2)⟩
  | withCheck n =>
    right; right
    by_cases hlive : ∃ k, s.manager.slot? n = some (obj k)
    · obtain ⟨k, hi⟩ := hlive
      have hcheck := withCheck_live (hlocked rfl) hi rfl
      exact ⟨_, by simp only [hcheck, Checked.ok_bind]; rfl, .quiet hp (.withPass hi)⟩
    · have hdead : ∀ i, s.manager.slot? n = some i → i.live = false := by
        intro i hi
        rcases hslots.content n i hi with rfl | ⟨k, rfl⟩
        · rfl
        · exact absurd ⟨k, hi⟩ hlive
      obtain ⟨message, hcheck⟩ := withCheck_not_live (hlocked rfl) hdead
      exact ⟨_, by simp only [hcheck, Checked.ok_bind]; rfl, .quiet hp (.withReject hcheck)⟩
  | lockInstance i mutex =>
    right
    obtain rfl := hpc
    by_cases hfree : s.mutexes mutex = none
    · exact .inr ⟨_, by simp only [Threads.acquireMutex, hfree, if_true], .lockInstance hp hfree⟩
    · exact .inl ⟨⟨.inst mutex, by rw [hp]; rfl, hfree⟩,
        by simp only [Threads.acquireMutex, hfree, if_false]⟩
  | handOver i mutex =>
    obtain rfl := hpc
    exact .inr (.inr ⟨_, rfl, .handOver hp⟩)
  | inFunc i mutex => exact .inr (.inr ⟨_, rfl, .quiet hp (.returned i mutex)⟩)
  | unlockInstance i mutex =>
    obtain rfl := hpc
    exact .inr (.inr ⟨_, rfl, .unlockInstance hp⟩)
  | unlockManager reply => exact .inr (.inr ⟨_, rfl, .unlockManager hp⟩)

end

/-! ## The mutexes -/

section

variable {T : Type} [DecidableEq T] {s s' : Threads T} {t : T}

theorem Quiet.holdsManager {m : InstanceManager ℕ ℕ ℕ} {pc pc' : Pc} (h : Quiet m pc pc') :
    pc'.holdsManager = pc.holdsManager := by
  cases h <;> rfl

theorem Quiet.heldMutex {m : InstanceManager ℕ ℕ ℕ} {pc pc' : Pc} (h : Quiet m pc pc') :
    pc'.heldMutex = pc.heldMutex := by
  cases h <;> rfl

theorem Changes.holdsManager {m m' : InstanceManager ℕ ℕ ℕ} {pc pc' : Pc}
    (h : Changes m pc m' pc') : pc.holdsManager = true ∧ pc'.holdsManager = true := by
  cases h <;> exact ⟨rfl, rfl⟩

theorem Changes.heldMutex {m m' : InstanceManager ℕ ℕ ℕ} {pc pc' : Pc}
    (h : Changes m pc m' pc') : pc'.heldMutex = pc.heldMutex := by
  cases h <;> rfl

theorem Changes.locked {m m' : InstanceManager ℕ ℕ ℕ} {pc pc' : Pc} (h : Changes m pc m' pc') :
    m'.locked = m.locked := by
  cases h <;> rfl

theorem Op.firstPc_holdsManager (op : Op ℕ ℕ ℕ) : op.firstPc.holdsManager = true := by
  cases op <;> rfl

theorem Op.firstPc_heldMutex (op : Op ℕ ℕ ℕ) : op.firstPc.heldMutex = none := by
  cases op <;> rfl

theorem Pc.afterDestroy_holdsManager (k : ℕ) (freed : Option Int32) :
    (Pc.afterDestroy k freed).holdsManager = true := by
  cases freed <;> rfl

theorem Pc.afterDestroy_heldMutex (k : ℕ) (freed : Option Int32) :
    (Pc.afterDestroy k freed).heldMutex = none := by
  cases freed <;> rfl

namespace Threads

theorem goto_pc_self (pc : Pc) : (s.goto t pc).pc t = pc := by simp [goto]

theorem goto_pc_ne {t' : T} (hne : t' ≠ t) (pc : Pc) : (s.goto t pc).pc t' = s.pc t' := by
  simp [goto, hne]

/-- A step that neither locks nor unlocks. -/
theorem Locks.goto {m : InstanceManager ℕ ℕ ℕ} {destroyed : List ℕ} {created : ℕ} {pc : Pc}
    (h : s.Locks) (hlocked : m.locked = s.manager.locked)
    (hM : pc.holdsManager = (s.pc t).holdsManager) (hμ : pc.heldMutex = (s.pc t).heldMutex) :
    ({ s with manager := m, destroyed, created }.goto t pc).Locks := by
  refine ⟨hlocked.trans h.locked, fun t' => ?_, fun t' mutex => ?_⟩
  · by_cases heq : t' = t
    · subst heq
      rw [goto_pc_self, hM]
      exact h.holder t'
    · rw [goto_pc_ne heq]
      exact h.holder t'
  · by_cases heq : t' = t
    · subst heq
      rw [goto_pc_self, hμ]
      exact h.mutexes t' mutex
    · rw [goto_pc_ne heq]
      exact h.mutexes t' mutex

theorem Locks.acquire {pc : Pc} (h : s.Locks) (hfree : s.holder = none)
    (hM : pc.holdsManager = true) (hμ : pc.heldMutex = (s.pc t).heldMutex) :
    ({ s with holder := some t, manager := s.manager.lock }.goto t pc).Locks := by
  refine ⟨rfl, fun t' => ?_, fun t' mutex => ?_⟩
  · by_cases heq : t' = t
    · subst heq
      rw [goto_pc_self, hM]
      exact ⟨fun _ => rfl, fun _ => rfl⟩
    · rw [goto_pc_ne heq]
      constructor
      · intro hholder
        exact absurd (Option.some.inj hholder).symm heq
      · intro hholds
        rw [(h.holder t').mpr hholds] at hfree
        cases hfree
  · by_cases heq : t' = t
    · subst heq
      rw [goto_pc_self, hμ]
      exact h.mutexes t' mutex
    · rw [goto_pc_ne heq]
      exact h.mutexes t' mutex

theorem Locks.release {pc : Pc} (h : s.Locks) (hheld : (s.pc t).holdsManager = true)
    (hM : pc.holdsManager = false) (hμ : pc.heldMutex = (s.pc t).heldMutex) :
    (s.release t pc).Locks := by
  refine ⟨rfl, fun t' => ?_, fun t' mutex => ?_⟩
  · by_cases heq : t' = t
    · subst heq
      rw [Threads.release, goto_pc_self, hM]
      exact ⟨by simp [Threads.goto], by simp⟩
    · rw [Threads.release, goto_pc_ne heq]
      refine ⟨by simp [Threads.goto], fun hholds => ?_⟩
      have hself := (h.holder t).mpr hheld
      rw [(h.holder t').mpr hholds] at hself
      exact absurd (Option.some.inj hself) heq
  · by_cases heq : t' = t
    · subst heq
      rw [Threads.release, goto_pc_self, hμ]
      exact h.mutexes t' mutex
    · rw [Threads.release, goto_pc_ne heq]
      exact h.mutexes t' mutex

theorem Locks.acquireMutex {k : ℕ} {pc : Pc} (h : s.Locks) (hfree : s.mutexes k = none)
    (hM : pc.holdsManager = (s.pc t).holdsManager) (hbefore : (s.pc t).heldMutex = none)
    (hafter : pc.heldMutex = some k) :
    ({ s with mutexes := Function.update s.mutexes k (some t) }.goto t pc).Locks := by
  refine ⟨h.locked, fun t' => ?_, fun t' mutex => ?_⟩
  · by_cases heq : t' = t
    · subst heq
      rw [goto_pc_self, hM]
      exact h.holder t'
    · rw [goto_pc_ne heq]
      exact h.holder t'
  · have hupdate : ({ s with mutexes := Function.update s.mutexes k (some t) }.goto t pc).mutexes =
        Function.update s.mutexes k (some t) := rfl
    have hold := h.mutexes t' mutex
    rw [hupdate]
    by_cases heq : t' = t
    · subst heq
      rw [goto_pc_self, hafter]
      rw [hbefore] at hold
      by_cases hk : mutex = k
      · subst hk
        simp
      · simpa [hk, Ne.symm hk] using hold
    · rw [goto_pc_ne heq]
      by_cases hk : mutex = k
      · subst hk
        simpa [hfree, Ne.symm heq] using hold
      · simpa [hk] using hold

theorem Locks.releaseMutex {k : ℕ} {pc : Pc} (h : s.Locks)
    (hM : pc.holdsManager = (s.pc t).holdsManager) (hbefore : (s.pc t).heldMutex = some k)
    (hafter : pc.heldMutex = none) : (s.releaseMutex t k pc).Locks := by
  refine ⟨h.locked, fun t' => ?_, fun t' mutex => ?_⟩
  · by_cases heq : t' = t
    · subst heq
      rw [Threads.releaseMutex, goto_pc_self, hM]
      exact h.holder t'
    · rw [Threads.releaseMutex, goto_pc_ne heq]
      exact h.holder t'
  · have hupdate : (s.releaseMutex t k pc).mutexes = Function.update s.mutexes k none := rfl
    have hself := (h.mutexes t k).mpr hbefore
    have hold := h.mutexes t' mutex
    rw [hupdate]
    by_cases heq : t' = t
    · subst heq
      rw [Threads.releaseMutex, goto_pc_self, hafter]
      rw [hbefore] at hold
      by_cases hk : mutex = k
      · subst hk
        simp
      · simpa [hk, Ne.symm hk] using hold
    · rw [Threads.releaseMutex, goto_pc_ne heq]
      by_cases hk : mutex = k
      · subst hk
        simpa [hself, Ne.symm heq] using hold
      · simpa [hk] using hold

/-- Every step keeps the mutexes with the right threads. -/
theorem Locks.moves (h : s.Locks) (hm : Moves s t s') : s'.Locks := by
  cases hm with
  | @lockManager op hp hfree =>
    exact h.acquire hfree op.firstPc_holdsManager (by rw [hp, op.firstPc_heldMutex]; rfl)
  | quiet hp hq =>
    exact h.goto rfl (by rw [hp, hq.holdsManager]) (by rw [hp, hq.heldMutex])
  | changes hp hc =>
    refine h.goto hc.locked ?_ (by rw [hp, hc.heldMutex])
    rw [hp, hc.holdsManager.1, hc.holdsManager.2]
  | lockDying hp hfree =>
    exact h.acquireMutex hfree (by rw [hp]; rfl) (by rw [hp]; rfl) rfl
  | unlockDying hp => exact h.releaseMutex (by rw [hp]; rfl) (by rw [hp]; rfl) rfl
  | @destroy k freed hp =>
    refine h.goto rfl ?_ ?_
    · rw [hp, Pc.afterDestroy_holdsManager]
      rfl
    · rw [hp, Pc.afterDestroy_heldMutex]
      rfl
  | lockInstance hp hfree =>
    exact h.acquireMutex hfree (by rw [hp]; rfl) (by rw [hp]; rfl) rfl
  | handOver hp => exact h.release (by rw [hp]; rfl) rfl (by rw [hp]; rfl)
  | unlockInstance hp => exact h.releaseMutex (by rw [hp]; rfl) (by rw [hp]; rfl) rfl
  | unlockManager hp => exact h.release (by rw [hp]; rfl) rfl (by rw [hp]; rfl)

omit [DecidableEq T] in
/-- Two threads are never both under the manager's mutex. -/
theorem Locks.eq_of_holdsManager {t' : T} (h : s.Locks) (ht : (s.pc t).holdsManager = true)
    (ht' : (s.pc t').holdsManager = true) : t = t' := by
  have hself := (h.holder t).mpr ht
  rw [(h.holder t').mpr ht'] at hself
  exact (Option.some.inj hself).symm

omit [DecidableEq T] in
/-- Two threads never hold the mutex of the same instance. -/
theorem Locks.eq_of_heldMutex {t' : T} {k : ℕ} (h : s.Locks) (ht : (s.pc t).heldMutex = some k)
    (ht' : (s.pc t').heldMutex = some k) : t = t' := by
  have hself := (h.mutexes t k).mpr ht
  rw [(h.mutexes t' k).mpr ht'] at hself
  exact (Option.some.inj hself).symm

end Threads

end

/-! ## The manager under its mutex -/

section

theorem Pc.Ok.congr {m m' : InstanceManager ℕ ℕ ℕ} {pc : Pc} (h : pc.Ok m)
    (hslot : ∀ n, m'.slot? n = m.slot? n) (hfree : m'.freelist = m.freelist) : pc.Ok m' := by
  cases pc with
  | lockManager op => cases op <;> exact h
  | killMove | finalizeLive | finalizeMove | lockDying | unlockDying | destroy | finalizeFree =>
    simpa only [Pc.Ok, hslot, hfree] using h
  | _ => exact h

theorem Op.firstPc_ok {m : InstanceManager ℕ ℕ ℕ} {op : Op ℕ ℕ ℕ}
    (h : (Pc.lockManager op).Ok m) : op.firstPc.Ok m := by
  cases op with
  | add tox events mutex grows =>
    obtain ⟨rfl, rfl⟩ := h
    exact ⟨_, rfl⟩
  | kill | finalize | withInstance => trivial

theorem Quiet.ok {m : InstanceManager ℕ ℕ ℕ} {pc pc' : Pc} (h : Quiet m pc pc')
    (hpc : pc.Ok m) : pc'.Ok m := by
  cases h with
  | killReject => trivial
  | killPass hsome => exact hsome
  | killDead => trivial
  | killLive k => exact ⟨rfl, by simp⟩
  | finalizeReject => trivial
  | finalizePass hsome hfree => exact ⟨hsome, hfree⟩
  | finalizeLive hi hfree => exact ⟨⟨_, hi⟩, hfree⟩
  | finalizeDead hi hfree => exact ⟨hi, hfree⟩
  | withReject => trivial
  | withPass hi => rfl
  | returned => exact hpc

theorem slot?_push_cases {m : InstanceManager ℕ ℕ ℕ} {n : Int32} {i j : ToxInstance ℕ ℕ ℕ}
    (h : (m.push j).slot? n = some i) :
    m.slot? n = some i ∨ i = j ∧ n = Int32.ofNat (m.instances.length + 1) := by
  obtain ⟨hpos, hget⟩ := slot?_eq_some.mp h
  rcases Nat.lt_trichotomy (index n) m.instances.length with hlt | heq | hgt
  · left
    rw [push, List.getElem?_append_left hlt] at hget
    exact slot?_eq_some.mpr ⟨hpos, hget⟩
  · right
    have hpos' : 0 < n.toInt := Int32.lt_iff_toInt_lt.mp hpos
    have hlt := n.toInt_lt
    have hint : n.toInt = m.instances.length + 1 := by
      unfold index at heq
      omega
    refine ⟨by simpa [push, heq] using hget.symm, Int32.toInt_inj.mp ?_⟩
    rw [Int32.toInt_ofNat_of_lt (by omega)]
    omega
  · rw [push, List.getElem?_eq_none (by simp; omega)] at hget
    cases hget

theorem Changes.manager {m m' : InstanceManager ℕ ℕ ℕ} {pc pc' : Pc} (h : Changes m pc m' pc')
    (hm : m.Ok) (hcontent : ∀ n i, m.slot? n = some i → i = movedFrom ∨ ∃ k, i = obj k) :
    m'.Ok ∧ (∀ n i, m'.slot? n = some i → i = movedFrom ∨ ∃ k, i = obj k) ∧ pc'.Ok m' := by
  cases h with
  | push k grows hfree =>
    refine ⟨hm.push (valid_ofPointers k k k) hfree, fun n i hi => ?_, trivial⟩
    rcases slot?_push_cases hi with hi | ⟨rfl, -⟩
    · exact hcontent n i hi
    · exact .inr ⟨k, rfl⟩
  | @reuse k grows ns n hfree =>
    refine ⟨hm.reuse (valid_ofPointers k k k) hfree, fun n' i hi => ?_, trivial⟩
    have hslot := hm.free n (by simp [hfree])
    by_cases hn : n = n'
    · subst hn
      rw [slot?_reuse_self hslot] at hi
      cases hi
      exact .inr ⟨k, rfl⟩
    · rw [slot?_reuse_ne (slot?_eq_some.mp hslot).1 hn] at hi
      exact hcontent n' i hi
  | @killMove n i hslot =>
    have hpos := (slot?_eq_some.mp hslot).1
    refine ⟨hm.setSlot hpos valid_movedFrom (.inr rfl), fun n' i' hi => ?_, hcontent n i hslot⟩
    by_cases hn : n = n'
    · subst hn
      rw [slot?_setSlot_self hslot] at hi
      exact .inl (Option.some.inj hi).symm
    · rw [slot?_setSlot_ne hpos hn] at hi
      exact hcontent n' i' hi
  | @finalizeMove n k hslot hfree =>
    have hpos := (slot?_eq_some.mp hslot).1
    refine ⟨hm.setSlot hpos valid_movedFrom (.inr rfl), fun n' i' hi => ?_, rfl, ?_⟩
    · by_cases hn : n = n'
      · subst hn
        rw [slot?_setSlot_self hslot] at hi
        exact .inl (Option.some.inj hi).symm
      · rw [slot?_setSlot_ne hpos hn] at hi
        exact hcontent n' i' hi
    · rintro _ ⟨⟩
      exact ⟨slot?_setSlot_self hslot _, hfree⟩
  | finalizeFree reply hslot hfree => exact ⟨hm.setFree hslot hfree, hcontent, trivial⟩

variable {T : Type} [DecidableEq T] {s s' : Threads T} {t : T}

namespace Threads

/-- A step of one thread: the others know nothing of the manager, or it stays the same. -/
theorem Slots.update {pc : Pc} (h : s.Slots) (hpcs : s'.pc = Function.update s.pc t pc)
    (hm : s'.manager.Ok)
    (hcontent : ∀ n i, s'.manager.slot? n = some i → i = movedFrom ∨ ∃ k, i = obj k)
    (hpc : pc.Ok s'.manager)
    (hother : ∀ t', t' ≠ t → (s.pc t').Ok s.manager → (s.pc t').Ok s'.manager) : s'.Slots := by
  refine ⟨hm, hcontent, fun t' => ?_⟩
  rw [hpcs]
  by_cases heq : t' = t
  · subst heq
    simpa using hpc
  · simpa [heq] using hother t' heq (h.pc t')

/-- A step that does not change the manager. -/
theorem Slots.still {pc : Pc} (h : s.Slots) (hpcs : s'.pc = Function.update s.pc t pc)
    (hinstances : s'.manager.instances = s.manager.instances)
    (hfreelist : s'.manager.freelist = s.manager.freelist) (hpc : pc.Ok s.manager) :
    s'.Slots := by
  have hslot : ∀ n, s'.manager.slot? n = s.manager.slot? n := fun n => by
    simp only [slot?, hinstances]
  refine h.update hpcs ⟨?_, ?_, ?_⟩ ?_ (hpc.congr hslot hfreelist)
    fun t' _ hok => hok.congr hslot hfreelist
  · rw [hinstances]
    exact h.manager.valid
  · rw [hfreelist]
    exact h.manager.nodup
  · intro n hn
    rw [hslot]
    exact h.manager.free n (hfreelist ▸ hn)
  · intro n i hi
    exact h.content n i (by rw [← hslot, hi])

theorem Slots.moves (h : s.Slots) (hlocks : s.Locks) (hm : Moves s t s') : s'.Slots := by
  have hpc := h.pc t
  cases hm with
  | lockManager hp hfree =>
    rw [hp] at hpc
    exact h.still rfl rfl rfl (Op.firstPc_ok hpc)
  | quiet hp hq => exact h.still rfl rfl rfl (hq.ok (hp ▸ hpc))
  | changes hp hc =>
    obtain ⟨hok, hcontent, hpc'⟩ := hc.manager h.manager h.content
    refine h.update rfl hok hcontent hpc' fun t' hne hother => ?_
    refine hother.of_not_holdsManager ?_
    by_contra hholds
    refine hne (hlocks.eq_of_holdsManager (by simpa using hholds) ?_)
    rw [hp]
    exact hc.holdsManager.1
  | lockDying hp hfree =>
    rw [hp] at hpc
    exact h.still rfl rfl rfl hpc
  | unlockDying hp =>
    rw [hp] at hpc
    exact h.still rfl rfl rfl ⟨⟨_, hpc.1⟩, hpc.2⟩
  | @destroy k freed hp =>
    rw [hp] at hpc
    refine h.still rfl rfl rfl ?_
    cases freed with
    | none => trivial
    | some n => exact hpc.2 n rfl
  | lockInstance hp hfree => exact h.still rfl rfl rfl rfl
  | handOver hp => exact h.still rfl rfl rfl rfl
  | unlockInstance hp => exact h.still rfl rfl rfl trivial
  | unlockManager hp => exact h.still rfl rfl rfl trivial

end Threads

end

end Tox4j.Instances
