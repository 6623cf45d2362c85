import Mathlib.Data.Int.Notation
import Mathlib.Order.Bounds.Basic
import Tox4j.Instances.Proofs.ToxInstances
import Tox4j.Misc.Run

/-!
# Runs of one instance manager

What each operation does to a manager that satisfies its representation invariant, one lemma
for each, and what follows for all sequences of operations: the invariant holds, no assertion
fails, and the vector is as long as the largest number of objects that ever existed at once.
-/

namespace Tox4j.Instances

open Tox4j.Misc ToxInstance

variable {Tox Events Mutex : Type}

namespace InstanceManager

/-- The manager after a number was put on the freelist. -/
def free (m : InstanceManager Tox Events Mutex) (n : Int32) : InstanceManager Tox Events Mutex :=
  { m with freelist := m.freelist ++ [n] }

/-- The manager after an instance was added to the end of the vector. -/
def push (m : InstanceManager Tox Events Mutex) (i : ToxInstance Tox Events Mutex) :
    InstanceManager Tox Events Mutex :=
  { m with instances := m.instances ++ [i] }

/-- The manager after the last number of the freelist `ns ++ [n]` was used again. -/
def reuse (m : InstanceManager Tox Events Mutex) (ns : List Int32) (n : Int32)
    (i : ToxInstance Tox Events Mutex) : InstanceManager Tox Events Mutex :=
  { m with freelist := ns }.setSlot n i

section

variable {m : InstanceManager Tox Events Mutex} {n : Int32}
  {i j : ToxInstance Tox Events Mutex}

theorem slot?_push (hn : m.slot? n = some i) : (m.push j).slot? n = some i := by
  obtain ⟨hpos, hget⟩ := slot?_eq_some.mp hn
  have hlt := (List.getElem?_eq_some_iff.mp hget).1
  refine slot?_eq_some.mpr ⟨hpos, ?_⟩
  rw [push, List.getElem?_append_left hlt, hget]

theorem toInt_new (hlen : m.instances.length < 2 ^ 31 - 1) :
    (Int32.ofNat (m.instances.length + 1)).toInt = m.instances.length + 1 := by
  rw [Int32.toInt_ofNat_of_lt (by omega)]
  omega

theorem slot?_push_new (hlen : m.instances.length < 2 ^ 31 - 1) :
    (m.push j).slot? (Int32.ofNat (m.instances.length + 1)) = some j := by
  have hint := toInt_new hlen
  refine slot?_eq_some.mpr ⟨?_, ?_⟩
  · rw [Int32.lt_iff_toInt_lt, hint]
    exact Int.ofNat_lt.mpr (Nat.succ_pos _)
  · have hindex : index (Int32.ofNat (m.instances.length + 1)) = m.instances.length := by
      unfold index
      omega
    rw [hindex]
    simp [push]

/-- The new number is not the number of an old slot. -/
theorem ne_new (hlen : m.instances.length < 2 ^ 31 - 1) (hn : m.slot? n = some i) :
    n ≠ Int32.ofNat (m.instances.length + 1) := by
  rintro rfl
  have hle := (slot?_isSome.mp (Option.isSome_iff_exists.mpr ⟨i, hn⟩)).2
  have hint := toInt_new hlen
  omega

theorem slot?_reuse_self {ns : List Int32} (hn : m.slot? n = some i) :
    (m.reuse ns n j).slot? n = some j :=
  slot?_setSlot_self (m := { m with freelist := ns }) hn j

theorem slot?_reuse_ne {ns : List Int32} {n' : Int32} (hn : 0 < n) (hne : n ≠ n') :
    (m.reuse ns n j).slot? n' = m.slot? n' :=
  slot?_setSlot_ne (m := { m with freelist := ns }) hn hne j

end

section

variable {m : InstanceManager Tox Events Mutex} {n : Int32}
  {i : ToxInstance Tox Events Mutex}

theorem withLock_ok {α : Type} {a : α}
    {body : InstanceManager Tox Events Mutex → Checked (α × InstanceManager Tox Events Mutex)}
    (m' : InstanceManager Tox Events Mutex) (h : body m.lock = .ok (a, m'.lock))
    (hm : m'.locked = false) : m.withLock body = .ok (a, m') := by
  simp [withLock, h, unlock_lock hm, pure, Except.pure]

theorem add_of_nil (h : m.Ok) (hm : m.locked = false) (hi : i.Valid) (hfree : m.freelist = [])
    (grows : Bool) :
    m.add i grows = .ok (.added (Int32.ofNat (m.instances.length + 1)), m.push i) := by
  have hinsert := insert_of_nil h.lock hi hfree grows
  refine withLock_ok (m.push i) ?_ hm
  simp only [hinsert, Checked.ok_bind]
  rfl

theorem add_of_snoc (h : m.Ok) (hm : m.locked = false) (hi : i.Valid) (hlive : i.live = true)
    {ns : List Int32} (hfree : m.freelist = ns ++ [n]) (grows : Bool) :
    m.add i grows = .ok (.added n, m.reuse ns n i) := by
  have hinsert := insert_of_snoc h.lock hi hlive hfree grows
  refine withLock_ok (m.reuse ns n i) ?_ hm
  simp only [hinsert, Checked.ok_bind]
  rfl

/-- A new instance gets a new slot when no number is free, and the last free number otherwise. -/
theorem add_cases (h : m.Ok) (hm : m.locked = false) (hi : i.Valid) (hlive : i.live = true)
    (grows : Bool) :
    (m.freelist = [] ∧
        m.add i grows = .ok (.added (Int32.ofNat (m.instances.length + 1)), m.push i)) ∨
      ∃ ns n, m.freelist = ns ++ [n] ∧ m.add i grows = .ok (.added n, m.reuse ns n i) := by
  rcases List.eq_nil_or_concat m.freelist with hfree | ⟨ns, n, hfree⟩
  · exact .inl ⟨hfree, add_of_nil h hm hi hfree grows⟩
  · rw [List.concat_eq_append] at hfree
    exact .inr ⟨ns, n, hfree, add_of_snoc h hm hi hlive hfree grows⟩

/-- `kill` throws what its checks find. -/
theorem kill_refused (hm : m.locked = false) {e : Throwable}
    (hcheck : m.lock.killCheck n = .ok (some e)) : m.kill n = .ok (.threw e, m) := by
  refine withLock_ok _ ?_ hm
  simp only [hcheck, Checked.ok_bind]
  rfl

/-- `kill` throws for a number outside of the vector, does nothing for a dead slot, and
    destroys the object of a live one. -/
theorem kill_cases (h : m.Ok) (hm : m.locked = false) (n : Int32) :
    (m.slot? n = none ∧ ∃ exception, m.kill n = .ok (.threw exception, m)) ∨
      (m.slot? n = some movedFrom ∧ m.kill n = .ok (.done, m)) ∨
      ∃ i, m.slot? n = some i ∧ i.live = true ∧
        m.kill n = .ok (.destroyed i.tox, m.setSlot n movedFrom) := by
  rcases killCheck_eq (m := m.lock) (n := n) rfl with ⟨hsome, hcheck⟩ | ⟨hnone, e, hcheck⟩
  · obtain ⟨i, hi⟩ := Option.isSome_iff_exists.mp hsome
    have hvalid := h.valid_of_slot? hi
    have hremove := remove_eq rfl hi hvalid
    right
    by_cases hlive : i.live = true
    · right
      obtain ⟨-, -, hmutex⟩ := hvalid.live hlive
      obtain ⟨mutex, hmutex⟩ := Option.isSome_iff_exists.mp hmutex
      refine ⟨i, hi, hlive, withLock_ok _ ?_ hm⟩
      simp only [hcheck, hremove, killTest_live hvalid hlive, hmutex, Checked.ok_bind]
      rfl
    · left
      obtain rfl := hvalid.dead (by simpa using hlive)
      refine ⟨hi, withLock_ok _ ?_ hm⟩
      rw [setSlot_same hi] at hremove
      simp only [hcheck, hremove, killTest_dead, Checked.ok_bind]
      rfl
  · left
    exact ⟨hnone, e, kill_refused hm hcheck⟩

/-- `finalize` throws what its checks find. -/
theorem finalize_refused (hm : m.locked = false) (hne : n ≠ 0) {e : Throwable}
    (hcheck : m.lock.finalizeCheck n = .ok (some e)) : m.finalize n = .ok (.threw e, m) := by
  unfold finalize
  rw [if_neg hne]
  refine withLock_ok _ ?_ hm
  simp only [hcheck, Checked.ok_bind]
  rfl

/-- `finalize` refuses a number outside of the vector or on the freelist; else the number goes
    on the freelist, after its object was destroyed if it was still alive. -/
theorem finalize_cases (h : m.Ok) (hm : m.locked = false) (n : Int32) :
    ((m.slot? n = none ∨ n ∈ m.freelist) ∧ ∃ reply, m.finalize n = .ok (reply, m) ∧
        (reply = .done ∨ ∃ exception, reply = .threw exception)) ∨
      (m.slot? n = some movedFrom ∧ n ∉ m.freelist ∧ m.finalize n = .ok (.done, m.free n)) ∨
      ∃ i, m.slot? n = some i ∧ i.live = true ∧ n ∉ m.freelist ∧
        m.finalize n = .ok (.destroyed i.tox, (m.setSlot n movedFrom).free n) := by
  by_cases hzero : n = 0
  · left
    subst hzero
    exact ⟨.inl rfl, .done, rfl, .inl rfl⟩
  rcases finalizeCheck_eq (m := m.lock) (n := n) rfl with
    ⟨hsome, hfree, hcheck⟩ | ⟨hbad, e, hcheck⟩
  · unfold finalize
    rw [if_neg hzero]
    obtain ⟨i, hi⟩ := Option.isSome_iff_exists.mp hsome
    have hvalid := h.valid_of_slot? hi
    have hget := get_eq rfl hi
    right
    by_cases hlive : i.live = true
    · right
      have hslot := slot?_setSlot_self hi movedFrom
      refine ⟨i, hi, hlive, hfree, withLock_ok _ ?_ hm⟩
      simp only [hcheck, hget, finalizeRemove_eq rfl hi hvalid hlive, isLive, hlive,
        finalizeFree_eq (m := m.lock.setSlot n movedFrom) rfl hslot, Checked.ok_bind, if_true]
      rfl
    · left
      obtain rfl := hvalid.dead (by simpa using hlive)
      refine ⟨hi, hfree, withLock_ok _ ?_ hm⟩
      simp only [hcheck, hget, isLive, hlive, finalizeFree_eq (m := m.lock) rfl hi,
        Checked.ok_bind, Bool.false_eq_true, if_false]
      rfl
  · left
    exact ⟨hbad, .threw e, finalize_refused hm hzero hcheck, .inr ⟨e, rfl⟩⟩

/-- `with_instance` runs the function on the object of a live slot. -/
theorem withInstance_live (h : m.Ok) (hm : m.locked = false) (hi : m.slot? n = some i)
    (hlive : i.live = true) : m.withInstance n = .ok (.ran i.tox, m) := by
  have hne : n ≠ 0 := by
    rintro rfl
    exact absurd (slot?_eq_some.mp hi).1 (by decide)
  unfold withInstance
  rw [if_neg hne]
  refine withLock_ok _ ?_ hm
  simp only [withCheck_live (m := m.lock) rfl hi hlive,
    withLockCheck_eq (h.valid_of_slot? hi) hlive, Checked.ok_bind]
  rfl

/-- `with_instance` throws what its checks find. -/
theorem withInstance_refused (hm : m.locked = false) (hne : n ≠ 0) {e : Throwable}
    (hcheck : m.lock.withCheck n = .ok (.error e)) : m.withInstance n = .ok (.threw e, m) := by
  unfold withInstance
  rw [if_neg hne]
  refine withLock_ok _ ?_ hm
  simp only [hcheck, Checked.ok_bind]
  rfl

/-- Otherwise it throws, a `ToxKilledException` unless the number is 0. -/
theorem withInstance_not_live (hm : m.locked = false)
    (hdead : ∀ i, m.slot? n = some i → i.live = false) :
    ∃ exception, m.withInstance n = .ok (.threw exception, m) ∧
      (n ≠ 0 → ∃ message, exception = .toxKilled message) := by
  by_cases hzero : n = 0
  · subst hzero
    exact ⟨_, rfl, fun hne => absurd rfl hne⟩
  obtain ⟨message, hcheck⟩ := withCheck_not_live (m := m.lock) rfl hdead
  exact ⟨_, withInstance_refused hm hzero hcheck, fun _ => ⟨message, rfl⟩⟩

/-- In no case does `with_instance` change the manager. -/
theorem withInstance_cases (h : m.Ok) (hm : m.locked = false) (n : Int32) :
    ∃ reply, m.withInstance n = .ok (reply, m) := by
  by_cases hlive : ∃ i, m.slot? n = some i ∧ i.live = true
  · obtain ⟨i, hi, hlive⟩ := hlive
    exact ⟨_, withInstance_live h hm hi hlive⟩
  · have hdead : ∀ i, m.slot? n = some i → i.live = false := by
      intro i hi
      by_contra hne
      exact hlive ⟨i, hi, by simpa using hne⟩
    obtain ⟨e, hrun, -⟩ := withInstance_not_live hm hdead
    exact ⟨_, hrun⟩

end

end InstanceManager

open InstanceManager

/-! ## The invariant -/

section

variable {m : InstanceManager Tox Events Mutex}

/-- Every operation succeeds and keeps the invariant; the vector is left alone or gets longer
    by one while the freelist is empty, and the freelist by one at most. -/
theorem run_ok (h : m.Ok) (hm : m.locked = false) (op : Op Tox Events Mutex) :
    ∃ reply m', op.run m = .ok (reply, m') ∧ m'.Ok ∧ m'.locked = false := by
  cases op with
  | add tox events mutex grows =>
    have hi := valid_ofPointers tox events mutex
    simp only [Op.run, make_some, Checked.ok_bind]
    rcases add_cases h hm hi rfl grows with ⟨hfree, hadd⟩ | ⟨ns, n, hfree, hadd⟩
    · exact ⟨_, _, hadd, h.push hi hfree, hm⟩
    · exact ⟨_, _, hadd, h.reuse hi hfree, hm⟩
  | kill n =>
    rcases kill_cases h hm n with ⟨-, e, hrun⟩ | ⟨-, hrun⟩ | ⟨i, hi, -, hrun⟩
    · exact ⟨_, m, hrun, h, hm⟩
    · exact ⟨_, m, hrun, h, hm⟩
    · have hpos := (slot?_eq_some.mp hi).1
      exact ⟨_, _, hrun, h.setSlot hpos valid_movedFrom (.inr rfl), hm⟩
  | finalize n =>
    rcases finalize_cases h hm n with
      ⟨-, reply, hrun, -⟩ | ⟨hi, hfree, hrun⟩ | ⟨i, hi, -, hfree, hrun⟩
    · exact ⟨reply, m, hrun, h, hm⟩
    · exact ⟨_, _, hrun, h.setFree hi hfree, hm⟩
    · have hpos := (slot?_eq_some.mp hi).1
      have hremoved := h.setSlot hpos valid_movedFrom (.inr rfl)
      exact ⟨_, _, hrun, hremoved.setFree (slot?_setSlot_self hi _) hfree, hm⟩
  | withInstance n =>
    obtain ⟨reply, hrun⟩ := withInstance_cases h hm n
    exact ⟨reply, m, hrun, h, hm⟩

end

/-! ## The history of a manager -/

/-- A manager with the number of adds so far, and of finalizes that put a number on the
    freelist. -/
structure History (Tox Events Mutex : Type) where
  manager : InstanceManager Tox Events Mutex := {}
  adds : ℕ := 0
  frees : ℕ := 0

namespace History

/-- An operation, counted. -/
def step (s : History Tox Events Mutex) (op : Op Tox Events Mutex) :
    Checked (History Tox Events Mutex) := do
  let (_, manager) ← op.run s.manager
  match op with
  | .add _ _ _ _ => return { s with manager, adds := s.adds + 1 }
  | .finalize _ =>
    if manager.freelist.length = s.manager.freelist.length + 1 then
      return { s with manager, frees := s.frees + 1 }
    else
      return { s with manager }
  | .kill _ | .withInstance _ => return { s with manager }

/-- The adds so far, less the finalizes that freed a number. -/
def outstanding (s : History Tox Events Mutex) : ℤ := (s.adds : ℤ) - s.frees

/-- The sequences of operations on a new manager. -/
abbrev Reachable (ops : List (Op Tox Events Mutex)) (s : History Tox Events Mutex) : Prop :=
  Run (fun s op s' => s.step op = .ok s') {} ops s

/-- What the invariant says about a history: the slots in use are those not on the
    freelist. -/
structure Ok (s : History Tox Events Mutex) : Prop where
  manager : s.manager.Ok
  unlocked : s.manager.locked = false
  outstanding : s.outstanding =
    (s.manager.instances.length : ℤ) - s.manager.freelist.length

theorem ok_init : ({} : History Tox Events Mutex).Ok :=
  ⟨ok_empty, rfl, rfl⟩

/-- A step keeps the invariant. The vector is left alone, or an add made it one longer because
    every slot was in use. -/
theorem Ok.step {s s' : History Tox Events Mutex} {op : Op Tox Events Mutex} (h : s.Ok)
    (hstep : s.step op = .ok s') : s'.Ok ∧
      (s'.manager.instances.length = s.manager.instances.length ∨
        s'.manager.instances.length = s.manager.instances.length + 1 ∧
          s'.manager.freelist = []) := by
  obtain ⟨hm, hu, hout⟩ := h
  simp only [History.outstanding] at hout
  simp only [History.step, Checked.bind_eq_ok, Prod.exists] at hstep
  obtain ⟨reply, m', hrun, hstep⟩ := hstep
  obtain ⟨reply', m'', hrun', hok, hunlocked⟩ := run_ok hm hu op
  rw [hrun] at hrun'
  cases hrun'
  cases op with
  | add tox events mutex grows =>
    have hi := valid_ofPointers tox events mutex
    simp only [Op.run, make_some, Checked.ok_bind] at hrun
    cases hstep
    rcases add_cases hm hu hi rfl grows with ⟨hfree, hadd⟩ | ⟨ns, n, hfree, hadd⟩
    · rw [hadd] at hrun
      cases hrun
      refine ⟨⟨hok, hunlocked, ?_⟩, .inr ⟨?_, hfree⟩⟩
      · simp only [History.outstanding, push, hfree, List.length_append, List.length_singleton,
          List.length_nil] at hout ⊢
        omega
      · simp [push]
    · rw [hadd] at hrun
      cases hrun
      refine ⟨⟨hok, hunlocked, ?_⟩, .inl ?_⟩
      · simp only [History.outstanding, reuse, setSlot, hfree, List.length_set,
          List.length_append, List.length_singleton] at hout ⊢
        omega
      · simp [reuse, setSlot]
  | kill n =>
    cases hstep
    rcases kill_cases hm hu n with ⟨-, e, hkill⟩ | ⟨-, hkill⟩ | ⟨i, -, -, hkill⟩
    · cases hrun.symm.trans hkill
      exact ⟨⟨hok, hunlocked, hout⟩, .inl rfl⟩
    · cases hrun.symm.trans hkill
      exact ⟨⟨hok, hunlocked, hout⟩, .inl rfl⟩
    · cases hrun.symm.trans hkill
      refine ⟨⟨hok, hunlocked, ?_⟩, .inl ?_⟩
      · simpa [History.outstanding, setSlot] using hout
      · simp [setSlot]
  | finalize n =>
    rcases finalize_cases hm hu n with
      ⟨-, reply'', hfin, -⟩ | ⟨-, -, hfin⟩ | ⟨i, -, -, -, hfin⟩
    · cases hrun.symm.trans hfin
      simp only [Nat.left_eq_add, Nat.succ_ne_self, if_false] at hstep
      cases hstep
      exact ⟨⟨hok, hunlocked, hout⟩, .inl rfl⟩
    · cases hrun.symm.trans hfin
      simp only [free, List.length_append, List.length_singleton, if_true] at hstep
      cases hstep
      refine ⟨⟨hok, hunlocked, ?_⟩, .inl rfl⟩
      simp only [History.outstanding, List.length_append, List.length_singleton]
      omega
    · cases hrun.symm.trans hfin
      simp only [free, setSlot, List.length_append, List.length_singleton, if_true] at hstep
      cases hstep
      refine ⟨⟨hok, hunlocked, ?_⟩, .inl ?_⟩
      · simp only [History.outstanding, List.length_set, List.length_append,
          List.length_singleton]
        omega
      · simp
  | withInstance n =>
    cases hstep
    obtain ⟨reply'', hwith⟩ := withInstance_cases hm hu n
    cases hrun.symm.trans hwith
    exact ⟨⟨hok, hunlocked, hout⟩, .inl rfl⟩

theorem ok_of_reachable {ops : List (Op Tox Events Mutex)} {s : History Tox Events Mutex}
    (h : Reachable ops s) : s.Ok :=
  Run.invariant ok_init (fun _ _ _ hok hstep => (hok.step hstep).1) h

/-- The vector never gets shorter. -/
theorem length_le_of_run {ops : List (Op Tox Events Mutex)} {s s' : History Tox Events Mutex}
    (hok : s.Ok) (h : Run (fun s op s' => s.step op = .ok s') s ops s') :
    s.manager.instances.length ≤ s'.manager.instances.length := by
  have hinv : s'.Ok ∧ s.manager.instances.length ≤ s'.manager.instances.length := by
    induction h with
    | nil => exact ⟨hok, le_rfl⟩
    | snoc _ hstep ih =>
      obtain ⟨hok', hlen⟩ := ih.1.step hstep
      have hle := ih.2
      exact ⟨hok', by omega⟩
  exact hinv.2

/-- At some time as many objects were outstanding as the vector is long. -/
theorem exists_peak {ops : List (Op Tox Events Mutex)} {s : History Tox Events Mutex}
    (h : Reachable ops s) : ∃ ops₁ ops₂ s₁, ops = ops₁ ++ ops₂ ∧ Reachable ops₁ s₁ ∧
      s₁.outstanding = s.manager.instances.length := by
  induction h with
  | nil => exact ⟨[], [], {}, rfl, .nil, rfl⟩
  | @snoc ops s s' op hrun hstep ih =>
    obtain ⟨hok', hlen⟩ := (ok_of_reachable hrun).step hstep
    rcases hlen with hlen | ⟨-, hfree⟩
    · obtain ⟨ops₁, ops₂, s₁, rfl, hrun₁, hpeak⟩ := ih
      exact ⟨ops₁, ops₂ ++ [op], s₁, by simp, hrun₁, by rw [hpeak, hlen]⟩
    · -- every slot is in use after the vector has grown
      refine ⟨ops ++ [op], [], s', by simp, .snoc hrun hstep, ?_⟩
      rw [hok'.outstanding, hfree]
      simp

end History

/-- After any sequence of operations with any numbers: the freelist consists of different
    numbers of dead slots, slots are live exactly when their pointers are not null, no operation
    fails an assertion, and the vector is as long as the largest number of adds less freeing
    finalizes so far. -/
theorem manager_invariant {ops : List (Op Tox Events Mutex)} {s : History Tox Events Mutex}
    (h : History.Reachable ops s) :
    s.manager.freelist.Nodup ∧
      (∀ n ∈ s.manager.freelist, 1 ≤ n.toInt ∧ n.toInt ≤ s.manager.instances.length ∧
        ∃ i, s.manager.slot? n = some i ∧ i.live = false) ∧
      (∀ i ∈ s.manager.instances,
        i.live = true ↔ i.tox.isSome ∧ i.events.isSome ∧ i.mutex.isSome) ∧
      (∀ op : Op Tox Events Mutex, Checked.Succeeds (op.run s.manager)) ∧
      IsGreatest {k : ℤ | ∃ ops₁ ops₂ s₁, ops = ops₁ ++ ops₂ ∧ History.Reachable ops₁ s₁ ∧
        k = s₁.outstanding} s.manager.instances.length := by
  obtain ⟨hm, hu, -⟩ := History.ok_of_reachable h
  refine ⟨hm.nodup, fun n hn => ?_, fun i hi => (hm.valid i hi).live_iff, fun op => ?_, ?_, ?_⟩
  · have hslot := hm.free n hn
    obtain ⟨hpos, hle⟩ := slot?_isSome.mp (Option.isSome_iff_exists.mpr ⟨_, hslot⟩)
    have hpos' : 0 < n.toInt := Int32.lt_iff_toInt_lt.mp hpos
    exact ⟨by omega, by omega, movedFrom, hslot, rfl⟩
  · obtain ⟨reply, m', hrun, -⟩ := run_ok hm hu op
    exact ⟨_, hrun⟩
  · obtain ⟨ops₁, ops₂, s₁, hops, hrun, hpeak⟩ := History.exists_peak h
    exact ⟨ops₁, ops₂, s₁, hops, hrun, hpeak.symm⟩
  · rintro k ⟨ops₁, ops₂, s₁, rfl, hrun₁, rfl⟩
    obtain ⟨s₂, hrun₂, hrest⟩ := Run.split h
    obtain rfl := Run.functional (fun s op s₁ s₂ h₁ h₂ => by
      rw [h₁] at h₂
      exact Except.ok.inj h₂) hrun₁ hrun₂
    have hok := History.ok_of_reachable hrun₁
    have hle := History.length_le_of_run hok hrest
    rw [hok.outstanding]
    omega

/-- Three adds, two kills of which one is for no slot, and a finalize. -/
def reusedSlot : List (Op ℕ ℕ ℕ) :=
  [.add 0 0 0 true, .add 1 1 1 true, .kill 1, .kill (-7), .finalize 1, .add 2 2 2 true]

theorem manager_invariant_reusedSlot : ∃ s, History.Reachable reusedSlot s ∧ s.adds = 3 ∧
    s.frees = 1 ∧ s.manager.instances.length = 2 ∧ s.manager.freelist.Nodup ∧
      ∀ op : Op ℕ ℕ ℕ, Checked.Succeeds (op.run s.manager) := by
  have hrun : reusedSlot.foldlM (fun s op => s.step op) ({} : History ℕ ℕ ℕ) =
      .ok { manager := { instances := [ofPointers 2 2 2, ofPointers 1 1 1] }
            adds := 3
            frees := 1 } := by
    rfl
  have h := Run.of_foldlM hrun
  have hinv := manager_invariant h
  exact ⟨_, h, rfl, rfl, rfl, hinv.1, hinv.2.2.2.1⟩

end Tox4j.Instances
