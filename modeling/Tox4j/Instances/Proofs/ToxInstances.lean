import Tox4j.Instances.ToxInstances

/-!
# What the instance manager does

The representation invariant `Ok`, and for each part of an operation an equation that says
what it does to a manager in this state: it fails no assertion. Proofs about runs, of one
thread or of many, use these equations.
-/

namespace Tox4j.Instances

open Tox4j.Misc

variable {Tox Events Mutex : Type}

namespace ToxInstance

/-- What `assertValid` asserts. -/
structure Valid (i : ToxInstance Tox Events Mutex) : Prop where
  live : i.live = true → i.tox.isSome ∧ i.events.isSome ∧ i.mutex.isSome
  dead : i.live = false → i = movedFrom

theorem assertValid_eq_ok {i : ToxInstance Tox Events Mutex} {u : Unit} :
    i.assertValid = .ok u ↔ i.Valid := by
  obtain ⟨live, tox, events, mutex⟩ := i
  cases live with
  | true =>
    simp only [assertValid, isLive, if_true, Checked.bind_eq_ok, Checked.assert_eq_ok,
      exists_const]
    exact ⟨fun h => ⟨fun _ => h, by simp⟩, fun h => h.live rfl⟩
  | false =>
    simp only [assertValid, isLive, Bool.false_eq_true, if_false, Checked.bind_eq_ok,
      Checked.assert_eq_ok, exists_const, Option.isNone_iff_eq_none]
    constructor
    · rintro ⟨rfl, rfl, rfl⟩
      exact ⟨by simp, fun _ => rfl⟩
    · intro h
      have hdead := h.dead rfl
      simp only [movedFrom, mk.injEq, true_and] at hdead
      exact hdead

theorem Valid.assertValid {i : ToxInstance Tox Events Mutex} (h : i.Valid) :
    i.assertValid = .ok () := assertValid_eq_ok.mpr h

theorem valid_movedFrom : (movedFrom : ToxInstance Tox Events Mutex).Valid :=
  ⟨by simp [movedFrom], fun _ => rfl⟩

/-- An instance made from three pointers that are not null. -/
def ofPointers (tox : Tox) (events : Events) (mutex : Mutex) : ToxInstance Tox Events Mutex :=
  { tox := some tox, events := some events, mutex := some mutex }

theorem valid_ofPointers (tox : Tox) (events : Events) (mutex : Mutex) :
    (ofPointers tox events mutex).Valid :=
  ⟨fun _ => ⟨rfl, rfl, rfl⟩, by simp [ofPointers]⟩

@[simp] theorem live_ofPointers (tox : Tox) (events : Events) (mutex : Mutex) :
    (ofPointers tox events mutex).live = true := rfl

theorem make_some (tox : Tox) (events : Events) (mutex : Mutex) :
    make (some tox) (some events) (some mutex) = .ok (ofPointers tox events mutex) := rfl

/-- Valid instances are live exactly when none of their pointers is null. -/
theorem Valid.live_iff {i : ToxInstance Tox Events Mutex} (h : i.Valid) :
    i.live = true ↔ i.tox.isSome ∧ i.events.isSome ∧ i.mutex.isSome := by
  refine ⟨h.live, fun hsome => ?_⟩
  by_contra hdead
  rw [h.dead (by simpa using hdead)] at hsome
  simp [movedFrom] at hsome

theorem move_eq {i : ToxInstance Tox Events Mutex} (h : i.Valid) :
    i.move = .ok (i, movedFrom) := by
  simp [move, h.assertValid, valid_movedFrom.assertValid, pure, Except.pure]

theorem moveAssign_eq {i : ToxInstance Tox Events Mutex} (h : i.Valid) (hlive : i.live = true) :
    movedFrom.moveAssign i = .ok (i, movedFrom) := by
  have hself : ({ live := true, tox := i.tox, events := i.events, mutex := i.mutex } :
      ToxInstance Tox Events Mutex) = i := by
    rw [← hlive]
  have hdead : (movedFrom : ToxInstance Tox Events Mutex).isDead = true := rfl
  simp [moveAssign, hdead, isLive, hlive, hself, h.assertValid, valid_movedFrom.assertValid,
    pure, Except.pure]

end ToxInstance

namespace InstanceManager

open ToxInstance

/-- The slot of a number, when the number is within the vector. -/
def slot? (m : InstanceManager Tox Events Mutex) (n : Int32) :
    Option (ToxInstance Tox Events Mutex) :=
  if 0 < n then m.instances[index n]? else none

/-- The representation invariant: every slot is valid, and the freelist consists of different
    numbers of dead slots. -/
structure Ok (m : InstanceManager Tox Events Mutex) : Prop where
  valid : ∀ i ∈ m.instances, i.Valid
  nodup : m.freelist.Nodup
  free : ∀ n ∈ m.freelist, m.slot? n = some movedFrom

theorem ok_empty : (({} : InstanceManager Tox Events Mutex)).Ok where
  valid := by simp
  nodup := List.nodup_nil
  free := by simp

section

variable {m : InstanceManager Tox Events Mutex} {n n' : Int32}
  {i : ToxInstance Tox Events Mutex}

theorem unlock_lock (h : m.locked = false) : m.lock.unlock = m := by
  ext1
  · rfl
  · rfl
  · exact h.symm

theorem Ok.lock (h : m.Ok) : m.lock.Ok := ⟨h.valid, h.nodup, h.free⟩

/-- Different positive numbers are different indexes. -/
theorem index_injective (hn : 0 < n) (hn' : 0 < n') (h : index n = index n') : n = n' := by
  have hpos : 0 < n.toInt := Int32.lt_iff_toInt_lt.mp hn
  have hpos' : 0 < n'.toInt := Int32.lt_iff_toInt_lt.mp hn'
  unfold index at h
  exact Int32.toInt_inj.mp (by omega)

theorem slot?_eq_some : m.slot? n = some i ↔ 0 < n ∧ m.instances[index n]? = some i := by
  unfold slot?
  split <;> simp [*]

theorem slot_eq_ok : m.slot n = .ok i ↔ m.instances[index n]? = some i := by
  unfold slot
  cases m.instances[index n]? <;> simp

theorem slot_of_slot? (h : m.slot? n = some i) : m.slot n = .ok i :=
  slot_eq_ok.mpr (slot?_eq_some.mp h).2

theorem Ok.valid_of_slot? (h : m.Ok) (hi : m.slot? n = some i) : i.Valid :=
  h.valid i (List.mem_of_getElem? (slot?_eq_some.mp hi).2)

theorem slot?_isSome : (m.slot? n).isSome = true ↔ 0 < n ∧ n.toInt.toNat ≤ m.instances.length := by
  by_cases hn : 0 < n
  · have hpos : 0 < n.toInt := Int32.lt_iff_toInt_lt.mp hn
    simp only [slot?, hn, if_true, true_and, isSome_getElem?, index]
    omega
  · simp [slot?, hn]

theorem isValid_eq (hlocked : m.locked = true) : m.isValid n = .ok (m.slot? n).isSome := by
  have h : (decide (0 < n) && decide (n.toInt.toNat ≤ m.instances.length)) =
      (m.slot? n).isSome := by
    rw [Bool.eq_iff_iff, slot?_isSome]
    simp
  unfold isValid
  rw [h, hlocked]
  rfl

theorem slot?_setSlot_self (hi : m.slot? n = some i) (i' : ToxInstance Tox Events Mutex) :
    (m.setSlot n i').slot? n = some i' := by
  obtain ⟨hpos, hget⟩ := slot?_eq_some.mp hi
  have hlt := (List.getElem?_eq_some_iff.mp hget).1
  exact slot?_eq_some.mpr ⟨hpos, by simp [setSlot, hlt]⟩

theorem slot?_setSlot_ne (hn : 0 < n) (hne : n ≠ n') (i' : ToxInstance Tox Events Mutex) :
    (m.setSlot n i').slot? n' = m.slot? n' := by
  unfold slot?
  split
  · rename_i hn'
    have hindex : index n ≠ index n' := fun h => hne (index_injective hn hn' h)
    simp [setSlot, hindex]
  · rfl

/-- A dead slot may be overwritten by what is left of it. -/
theorem setSlot_same (hi : m.slot? n = some i) : m.setSlot n i = m := by
  obtain ⟨-, hget⟩ := slot?_eq_some.mp hi
  obtain ⟨hlt, hget⟩ := List.getElem?_eq_some_iff.mp hget
  ext1
  · rw [setSlot, ← hget, List.set_getElem_self]
  · rfl
  · rfl

/-- Changing a slot that is not free keeps the invariant. -/
theorem Ok.setSlot (h : m.Ok) {i' : ToxInstance Tox Events Mutex} (hn : 0 < n) (hvalid : i'.Valid)
    (hfree : n ∉ m.freelist ∨ i' = movedFrom) : (m.setSlot n i').Ok where
  valid j hj := by
    rcases List.mem_or_eq_of_mem_set hj with hj | rfl
    · exact h.valid j hj
    · exact hvalid
  nodup := h.nodup
  free n' hn' := by
    have hslot := h.free n' hn'
    by_cases hne : n = n'
    · subst hne
      rw [slot?_setSlot_self hslot]
      rw [hfree.resolve_left (not_not_intro hn')]
    · rwa [slot?_setSlot_ne hn hne]

theorem mapM_move {instances : List (ToxInstance Tox Events Mutex)}
    (h : ∀ i ∈ instances, i.Valid) :
    (instances.mapM fun old => Prod.fst <$> old.move) = (.ok instances : Checked _) := by
  induction instances with
  | nil => rfl
  | cons i instances ih =>
    have hi : Prod.fst <$> i.move = (.ok i : Checked _) := by
      rw [move_eq (h i List.mem_cons_self)]
      rfl
    rw [List.mapM_cons, hi, ih fun j hj => h j (List.mem_cons_of_mem _ hj)]
    rfl

theorem pushBack_eq (h : m.Ok) (hi : i.Valid) (grows : Bool) :
    m.pushBack i grows = .ok { m with instances := m.instances ++ [i] } := by
  cases grows with
  | true => simp [pushBack, mapM_move h.valid, move_eq hi, pure, Except.pure]
  | false => simp [pushBack, move_eq hi, pure, Except.pure]

/-- With an empty freelist the vector gets longer. -/
theorem insert_of_nil (h : m.Ok) (hi : i.Valid) (hfree : m.freelist = []) (grows : Bool) :
    m.insert i grows = .ok (Int32.ofNat (m.instances.length + 1),
      { m with instances := m.instances ++ [i] }) := by
  simp [insert, hfree, pushBack_eq h hi, pure, Except.pure]

/-- Otherwise the last number of the freelist is used again. -/
theorem insert_of_snoc (h : m.Ok) (hi : i.Valid) (hlive : i.live = true) {ns : List Int32}
    (hfree : m.freelist = ns ++ [n]) (grows : Bool) :
    m.insert i grows = .ok (n, { m with freelist := ns }.setSlot n i) := by
  have hslot := h.free n (by simp [hfree])
  have hpos : 1 ≤ n := by
    have hlt := Int32.lt_iff_toInt_lt.mp (slot?_eq_some.mp hslot).1
    rw [Int32.le_iff_toInt_le]
    have h1 : (1 : Int32).toInt = 1 := rfl
    have h0 : (0 : Int32).toInt = 0 := rfl
    omega
  have hold : ({ m with freelist := ns } : InstanceManager Tox Events Mutex).slot n =
      .ok movedFrom := slot_of_slot? hslot
  have hdead : (movedFrom : ToxInstance Tox Events Mutex).isDead = true := rfl
  simp [insert, hfree, hpos, hold, hdead, moveAssign_eq hi hlive, isLive, hlive, pure, Except.pure]

theorem Ok.push (h : m.Ok) (hi : i.Valid) (hfree : m.freelist = []) :
    Ok { m with instances := m.instances ++ [i] } where
  valid j hj := by
    rcases List.mem_append.mp hj with hj | hj
    · exact h.valid j hj
    · rw [List.mem_singleton.mp hj]
      exact hi
  nodup := h.nodup
  free n hn := by simp [hfree] at hn

theorem Ok.reuse (h : m.Ok) (hi : i.Valid) {ns : List Int32} (hfree : m.freelist = ns ++ [n]) :
    ({ m with freelist := ns }.setSlot n i).Ok := by
  have hnodup := h.nodup
  rw [hfree, List.nodup_append] at hnodup
  have hslot := h.free n (by simp [hfree])
  have hok : Ok { m with freelist := ns } :=
    ⟨h.valid, hnodup.1, fun n' hn' => h.free n' (by simp [hfree, hn'])⟩
  refine hok.setSlot (slot?_eq_some.mp hslot).1 hi (.inl fun hn => ?_)
  exact hnodup.2.2 n hn n (by simp) rfl

theorem killCheck_eq (hlocked : m.locked = true) :
    (m.slot? n).isSome = true ∧ m.killCheck n = .ok none ∨
      m.slot? n = none ∧ ∃ exception, m.killCheck n = .ok (some exception) := by
  by_cases hneg : n < 0
  · have hnone : m.slot? n = none := by
      refine if_neg fun hpos => ?_
      rw [Int32.lt_iff_toInt_lt] at hneg hpos
      omega
    exact .inr ⟨hnone, _, if_pos hneg⟩
  · rw [killCheck, if_neg hneg, isValid_eq hlocked]
    cases hslot : m.slot? n with
    | none => exact .inr ⟨rfl, _, rfl⟩
    | some i => exact .inl ⟨rfl, rfl⟩

theorem remove_eq (hlocked : m.locked = true) (hi : m.slot? n = some i) (hvalid : i.Valid) :
    m.remove n = .ok (i, m.setSlot n movedFrom) := by
  simp [remove, hlocked, slot_of_slot? hi, move_eq hvalid, pure, Except.pure]

theorem killTest_live (hvalid : i.Valid) (hlive : i.live = true) : killTest i = .ok i.mutex := by
  obtain ⟨htox, -, -⟩ := hvalid.live hlive
  have hnone : i.tox.isNone = false := by simpa using htox
  simp [killTest, hnone, isLive, hlive, hvalid.assertValid, pure, Except.pure]

theorem killTest_dead : killTest (movedFrom : ToxInstance Tox Events Mutex) = .ok none := rfl

/-- The checks are passed exactly by the numbers of slots that are not free. -/
theorem finalizeCheck_eq (hlocked : m.locked = true) :
    (m.slot? n).isSome = true ∧ n ∉ m.freelist ∧ m.finalizeCheck n = .ok none ∨
      (m.slot? n = none ∨ n ∈ m.freelist) ∧
        ∃ exception, m.finalizeCheck n = .ok (some exception) := by
  have hempty : m.empty = .ok m.instances.isEmpty := by
    simp [empty, hlocked, pure, Except.pure]
  have hsize : m.size = .ok m.instances.length := by
    simp [size, hlocked, pure, Except.pure]
  have hisFree : m.isFree n = .ok (m.freelist.contains n) := by
    simp [isFree, hlocked, pure, Except.pure]
  simp only [finalizeCheck, hempty, isValid_eq hlocked, hsize, hisFree, Checked.ok_bind]
  cases hslot : m.slot? n with
  | none =>
    right
    refine ⟨.inl rfl, ?_⟩
    split
    · exact ⟨_, rfl⟩
    · exact ⟨_, rfl⟩
  | some i =>
    have hne : m.instances.isEmpty = false := by
      rw [Bool.eq_false_iff]
      intro hnil
      rw [slot?_eq_some, List.isEmpty_iff.mp hnil] at hslot
      simp at hslot
    by_cases hfree : n ∈ m.freelist
    · right
      exact ⟨.inr hfree, throwIllegalStateException n "Tox instance already on free list",
        by simp [hne, hfree, pure, Except.pure]⟩
    · left
      exact ⟨rfl, hfree, by simp [hne, hfree, pure, Except.pure]⟩

theorem get_eq (hlocked : m.locked = true) (hi : m.slot? n = some i) : m.get n = .ok i := by
  simp [get, hlocked, slot_of_slot? hi]

theorem finalizeRemove_eq (hlocked : m.locked = true) (hi : m.slot? n = some i)
    (hvalid : i.Valid) (hlive : i.live = true) :
    m.finalizeRemove n = .ok (i, m.setSlot n movedFrom) := by
  simp [finalizeRemove, remove_eq hlocked hi hvalid, isLive, hlive, hvalid.assertValid, pure,
    Except.pure]

theorem finalizeFree_eq (hlocked : m.locked = true) (hi : m.slot? n = some movedFrom) :
    m.finalizeFree n = .ok { m with freelist := m.freelist ++ [n] } := by
  have hdead : (movedFrom : ToxInstance Tox Events Mutex).isDead = true := rfl
  simp [finalizeFree, get_eq hlocked hi, hdead, setFree, hlocked, pure, Except.pure]

theorem Ok.setFree (h : m.Ok) (hi : m.slot? n = some movedFrom) (hfree : n ∉ m.freelist) :
    Ok { m with freelist := m.freelist ++ [n] } where
  valid := h.valid
  nodup := by
    rw [List.nodup_append]
    refine ⟨h.nodup, List.nodup_singleton n, fun a ha b hb => ?_⟩
    rw [List.mem_singleton.mp hb]
    rintro rfl
    exact hfree ha
  free n' hn' := by
    rcases List.mem_append.mp hn' with hn' | hn'
    · exact h.free n' hn'
    · rw [List.mem_singleton.mp hn']
      exact hi

theorem withCheck_live (hlocked : m.locked = true) (hi : m.slot? n = some i)
    (hlive : i.live = true) : m.withCheck n = .ok (.ok i) := by
  simp [withCheck, isValid_eq hlocked, hi, get_eq hlocked hi, isLive, hlive, pure, Except.pure]

/-- Without a live slot `with_instance` throws a `ToxKilledException`. -/
theorem withCheck_not_live (hlocked : m.locked = true)
    (hdead : ∀ i, m.slot? n = some i → i.live = false) :
    ∃ message, m.withCheck n = .ok (.error (.toxKilled message)) := by
  cases hslot : m.slot? n with
  | none =>
    refine ⟨fullMessage n "Tox function invoked on invalid tox instance", ?_⟩
    simp [withCheck, isValid_eq hlocked, hslot, pure, Except.pure, throwToxKilledException]
  | some i =>
    refine ⟨fullMessage n "Tox function invoked on killed tox instance", ?_⟩
    simp [withCheck, isValid_eq hlocked, hslot, get_eq hlocked hslot, isLive, hdead i hslot,
      pure, Except.pure, throwToxKilledException]

theorem withLockCheck_eq (hvalid : i.Valid) (hlive : i.live = true) :
    withLockCheck i = .ok () := by
  obtain ⟨-, hevents, hmutex⟩ := hvalid.live hlive
  simp [withLockCheck, hevents, hmutex]

end

end InstanceManager

end Tox4j.Instances
