import Tox4j.Instances.Handles

/-!
# Handles do not interfere

As long as there are numbers for all objects, the numbers of the objects that were not
finalized are different, none is on the freelist, and each leads to the object's own slot.
-/

namespace Tox4j.Instances

open Tox4j.Misc ToxInstance InstanceManager

namespace Handles

/-- What the slot of an object that was not finalized holds. -/
def content (h : ℕ) (handle : Handle) : ToxInstance ℕ ℕ ℕ :=
  if handle.killed then movedFrom else ofPointers h h h

theorem killed_of_content {h : ℕ} {handle : Handle}
    (hcontent : some (content h handle) = some movedFrom) : handle.killed = true := by
  by_contra hkilled
  simp [content, hkilled, ofPointers, movedFrom] at hcontent

theorem of_content_live {h : ℕ} {handle : Handle} (hlive : (content h handle).live = true) :
    handle.killed = false ∧ (content h handle).tox = some h := by
  unfold content at hlive ⊢
  split at hlive
  · cases hlive
  · rename_i hkilled
    simp [hkilled, ofPointers]

/-- The invariant. -/
structure Ok (s : Handles) : Prop where
  manager : s.manager.Ok
  unlocked : s.manager.locked = false
  /-- The number of an object leads to its own slot, which is not free. -/
  slot : ∀ (h : ℕ) (handle : Handle), s.handles[h]? = some handle → handle.finalized = false →
    s.manager.slot? handle.number = some (content h handle) ∧
      handle.number ∉ s.manager.freelist
  /-- Different objects have different numbers. -/
  distinct : ∀ (h h' : ℕ) (handle handle' : Handle),
    s.handles[h]? = some handle → s.handles[h']? = some handle' →
      handle.finalized = false → handle'.finalized = false →
        handle.number = handle'.number → h = h'
  /-- Every slot is free or belongs to an object. -/
  count : s.manager.instances.length = s.manager.freelist.length + s.outstanding

theorem ok_empty : Ok {} where
  manager := InstanceManager.ok_empty
  unlocked := rfl
  slot := by simp
  distinct := by simp
  count := rfl

section

variable {s s' : Handles} {reply : Reply ℕ}

theorem getElem?_append_new {handles : List Handle} {new handle : Handle} {h : ℕ}
    (hget : (handles ++ [new])[h]? = some handle) :
    handles[h]? = some handle ∨ h = handles.length ∧ handle = new := by
  rcases Nat.lt_trichotomy h handles.length with hlt | rfl | hgt
  · left
    rwa [List.getElem?_append_left hlt] at hget
  · right
    refine ⟨rfl, ?_⟩
    simpa using hget.symm
  · rw [List.getElem?_eq_none (by simp; omega)] at hget
    cases hget

/-- A new object whose number is not that of an old one. -/
theorem Ok.create {manager : InstanceManager ℕ ℕ ℕ} {number : Int32} (h : s.Ok)
    (hm : manager.Ok) (hu : manager.locked = false)
    (hself : manager.slot? number =
      some (ofPointers s.handles.length s.handles.length s.handles.length))
    (hfree : number ∉ manager.freelist)
    (hsub : ∀ n ∈ manager.freelist, n ∈ s.manager.freelist)
    (hother : ∀ n i, s.manager.slot? n = some i → n ∉ s.manager.freelist →
      n ≠ number ∧ manager.slot? n = some i)
    (hcount : manager.instances.length = manager.freelist.length + (s.outstanding + 1)) :
    Ok { manager, handles := s.handles ++ [{ number }] } := by
  have hold : ∀ (i : ℕ) (handle : Handle), s.handles[i]? = some handle → handle.finalized = false →
      handle.number ≠ number := fun i handle hget hfin =>
    (hother _ _ (h.slot i handle hget hfin).1 (h.slot i handle hget hfin).2).1
  refine ⟨hm, hu, ?_, ?_, ?_⟩
  · intro i handle hget hfin
    rcases getElem?_append_new hget with hget | ⟨rfl, rfl⟩
    · obtain ⟨hslot, hnot⟩ := h.slot i handle hget hfin
      exact ⟨(hother _ _ hslot hnot).2, fun hmem => hnot (hsub _ hmem)⟩
    · exact ⟨hself, hfree⟩
  · intro i i' handle handle' hget hget' hfin hfin' heq
    rcases getElem?_append_new hget with hget | ⟨rfl, rfl⟩ <;>
      rcases getElem?_append_new hget' with hget' | ⟨rfl, rfl⟩
    · exact h.distinct i i' handle handle' hget hget' hfin hfin' heq
    · exact absurd heq (hold i handle hget hfin)
    · exact absurd heq.symm (hold i' handle' hget' hfin')
    · rfl
  · simpa [outstanding] using hcount

/-- What `add` does as long as there are numbers. -/
theorem add_spec (h : s.Ok) (hbound : s.outstanding < 2 ^ 31 - 1) (grows : Bool) :
    ∃ number manager, s.run (.add grows) =
        .ok (.added number, { manager, handles := s.handles ++ [{ number }] }) ∧
      Ok { manager, handles := s.handles ++ [{ number }] } := by
  have hi := valid_ofPointers s.handles.length s.handles.length s.handles.length
  have hcount := h.count
  let new := ofPointers s.handles.length s.handles.length s.handles.length
  simp only [run, Op.run, make_some, Checked.ok_bind]
  rcases add_cases h.manager h.unlocked hi rfl grows with ⟨hfree, hadd⟩ | ⟨ns, n, hfree, hadd⟩
  · rw [hfree, List.length_nil, Nat.zero_add] at hcount
    have hlen : s.manager.instances.length < 2 ^ 31 - 1 := by omega
    refine ⟨_, s.manager.push new, by rw [hadd]; rfl, ?_⟩
    apply h.create (h.manager.push hi hfree) h.unlocked (slot?_push_new hlen)
    · simp [hfree]
    · exact fun n hn => hn
    · exact fun n i hn _ => ⟨ne_new hlen hn, slot?_push hn⟩
    · simp [hfree, hcount]
  · have hslot := h.manager.free n (by simp [hfree])
    have hpos := (slot?_eq_some.mp hslot).1
    have hnodup := h.manager.nodup
    rw [hfree, List.nodup_append] at hnodup
    rw [hfree] at hcount
    refine ⟨_, s.manager.reuse ns n new, by rw [hadd]; rfl, ?_⟩
    apply h.create (h.manager.reuse hi hfree) h.unlocked (slot?_reuse_self hslot)
    · exact fun hn => hnodup.2.2 n hn n (by simp) rfl
    · intro n' hn'
      rw [hfree]
      exact List.mem_append_left _ hn'
    · intro n' i hn' hnot
      have hne : n ≠ n' := by
        rintro rfl
        exact hnot (by simp [hfree])
      exact ⟨hne.symm, (slot?_reuse_ne hpos hne).trans hn'⟩
    · simp only [setSlot, List.length_set]
      rw [hcount]
      simp
      omega

theorem getElem?_set_cases {handles : List Handle} {new handle : Handle} {h h' : ℕ}
    (hget : (handles.set h new)[h']? = some handle) :
    h' = h ∧ handle = new ∨ h' ≠ h ∧ handles[h']? = some handle := by
  by_cases heq : h' = h
  · subst heq
    left
    refine ⟨rfl, ?_⟩
    have hlt : h' < handles.length := by simpa using (List.getElem?_eq_some_iff.mp hget).1
    rw [List.getElem?_set_self hlt] at hget
    exact (Option.some.inj hget).symm
  · right
    rw [List.getElem?_set_ne (Ne.symm heq)] at hget
    exact ⟨heq, hget⟩

theorem outstanding_set {h : ℕ} {handle new : Handle} (hget : s.handles[h]? = some handle)
    (hfin : handle.finalized = false) (manager : InstanceManager ℕ ℕ ℕ) :
    outstanding { manager, handles := s.handles.set h new } + 1 =
      s.outstanding + if new.finalized then 0 else 1 := by
  obtain ⟨hlt, hget⟩ := List.getElem?_eq_some_iff.mp hget
  have hpos : 0 < s.outstanding := by
    refine List.countP_pos_iff.mpr ⟨handle, ?_, by simp [hfin]⟩
    rw [← hget]
    exact List.getElem_mem hlt
  simp only [outstanding] at hpos ⊢
  rw [List.countP_set hlt, hget, hfin]
  cases new.finalized <;> simp <;> omega

/-- An operation through one object, which changes what is known of it. -/
theorem Ok.change {manager : InstanceManager ℕ ℕ ℕ} {h : ℕ} {handle new : Handle} (hok : s.Ok)
    (hget : s.handles[h]? = some handle) (hfin : handle.finalized = false)
    (hnumber : new.number = handle.number) (hm : manager.Ok) (hu : manager.locked = false)
    (hself : new.finalized = false → manager.slot? handle.number = some (content h new) ∧
      handle.number ∉ manager.freelist)
    (hother : ∀ n, n ≠ handle.number → manager.slot? n = s.manager.slot? n ∧
      (n ∈ manager.freelist → n ∈ s.manager.freelist))
    (hcount : manager.instances.length + (if new.finalized then 1 else 0) =
      manager.freelist.length + s.outstanding) :
    Ok { manager, handles := s.handles.set h new } := by
  have hne : ∀ (i : ℕ) (other : Handle), i ≠ h → s.handles[i]? = some other →
      other.finalized = false → other.number ≠ handle.number := fun i other hi hget' hfin' heq =>
    hi (hok.distinct i h other handle hget' hget hfin' hfin heq)
  refine ⟨hm, hu, ?_, ?_, ?_⟩
  · intro i other hget' hfin'
    rcases getElem?_set_cases hget' with ⟨rfl, rfl⟩ | ⟨hi, hget'⟩
    · rw [hnumber]
      exact hself hfin'
    · obtain ⟨hslot, hnot⟩ := hok.slot i other hget' hfin'
      obtain ⟨hsame, hsub⟩ := hother _ (hne i other hi hget' hfin')
      exact ⟨hsame.trans hslot, fun hmem => hnot (hsub hmem)⟩
  · intro i i' other other' hget₁ hget₂ hfin₁ hfin₂ heq
    rcases getElem?_set_cases hget₁ with ⟨rfl, rfl⟩ | ⟨hi, hold⟩ <;>
      rcases getElem?_set_cases hget₂ with ⟨rfl, rfl⟩ | ⟨hi', hold'⟩
    · rfl
    · exact absurd (heq.symm.trans hnumber) (hne i' other' hi' hold' hfin₂)
    · exact absurd (heq.trans hnumber) (hne i other hi hold hfin₁)
    · exact hok.distinct i i' other other' hold hold' hfin₁ hfin₂ heq
  · have hout : outstanding { manager, handles := s.handles.set h new } + 1 = _ :=
      outstanding_set hget hfin manager
    simp only
    cases hnew : new.finalized <;> simp only [hnew, if_true, if_false, Bool.false_eq_true] at * <;>
      omega

theorem run_call {h : ℕ} {handle : Handle} {op : Int32 → Op ℕ ℕ ℕ} {change : Handle → Handle}
    (hget : s.handles[h]? = some handle) (hrun : s.call h op change = .ok (reply, s')) :
    ∃ manager, (op handle.number).run s.manager = .ok (reply, manager) ∧
      s' = { manager, handles := s.handles.set h (change handle) } := by
  simp only [call, hget, Checked.bind_eq_ok, Checked.pure_eq_ok, Prod.exists, Prod.mk.injEq] at hrun
  obtain ⟨_, manager, hop, rfl, rfl⟩ := hrun
  exact ⟨manager, hop, rfl⟩

/-- What `kill` does for an object that was not finalized. -/
theorem kill_spec (hok : s.Ok) {h : ℕ} {handle : Handle} (hget : s.handles[h]? = some handle)
    (hfin : handle.finalized = false) :
    ∃ manager, s.run (.kill h) = .ok (if handle.killed then .done else .destroyed (some h),
        { manager, handles := s.handles.set h { handle with killed := true } }) ∧
      Ok { manager, handles := s.handles.set h { handle with killed := true } } := by
  obtain ⟨hslot, hfree⟩ := hok.slot h handle hget hfin
  rcases kill_cases hok.manager hok.unlocked handle.number with
    ⟨hnone, -⟩ | ⟨hdead, hkill⟩ | ⟨i, hi, hlive, hkill⟩
  · rw [hslot] at hnone
    cases hnone
  · have hkilled : handle.killed = true := killed_of_content (hslot.symm.trans hdead)
    refine ⟨s.manager, ?_, ?_⟩
    · simp only [run, call, hget, Op.run, hkill, hkilled]
      rfl
    · refine hok.change hget hfin rfl hok.manager hok.unlocked (fun _ => ⟨hdead, hfree⟩)
        (fun n _ => ⟨rfl, id⟩) ?_
      simpa [hfin] using hok.count
  · obtain rfl : i = content h handle := Option.some.inj (hi.symm.trans hslot)
    have hpos := (slot?_eq_some.mp hi).1
    obtain ⟨hkilled, htox⟩ := of_content_live hlive
    refine ⟨s.manager.setSlot handle.number movedFrom, ?_, ?_⟩
    · simp only [run, call, hget, Op.run, hkill, hkilled, htox]
      rfl
    · refine hok.change hget hfin rfl (hok.manager.setSlot hpos valid_movedFrom (.inr rfl))
        hok.unlocked (fun _ => ⟨slot?_setSlot_self hi _, hfree⟩)
        (fun n hn => ⟨slot?_setSlot_ne hpos (Ne.symm hn) _, id⟩) ?_
      simpa [hfin, setSlot] using hok.count

/-- What `finalize` does for an object that was not finalized. -/
theorem finalize_spec (hok : s.Ok) {h : ℕ} {handle : Handle} (hget : s.handles[h]? = some handle)
    (hfin : handle.finalized = false) :
    ∃ manager, s.run (.finalize h) = .ok (if handle.killed then .done else .destroyed (some h),
        { manager, handles := s.handles.set h { handle with finalized := true } }) ∧
      Ok { manager, handles := s.handles.set h { handle with finalized := true } } := by
  obtain ⟨hslot, hfree⟩ := hok.slot h handle hget hfin
  have hcount := hok.count
  -- the number is put on the freelist, and no other number is
  have hother : ∀ n, n ≠ handle.number →
      n ∈ s.manager.freelist ++ [handle.number] → n ∈ s.manager.freelist := by
    intro n hn hmem
    simpa [hn] using hmem
  rcases finalize_cases hok.manager hok.unlocked handle.number with
    ⟨hbad, -⟩ | ⟨hdead, -, hfinalize⟩ | ⟨i, hi, hlive, -, hfinalize⟩
  · rcases hbad with hnone | hmem
    · rw [hslot] at hnone
      cases hnone
    · exact absurd hmem hfree
  · have hkilled : handle.killed = true := killed_of_content (hslot.symm.trans hdead)
    refine ⟨s.manager.free handle.number, ?_, ?_⟩
    · simp only [run, call, hget, Op.run, hfinalize, hkilled]
      rfl
    · refine hok.change hget hfin rfl (hok.manager.setFree hdead hfree) hok.unlocked (by simp)
        (fun n hn => ⟨rfl, hother n hn⟩) ?_
      simp only [free, List.length_append, List.length_singleton, if_true]
      omega
  · obtain rfl : i = content h handle := Option.some.inj (hi.symm.trans hslot)
    have hpos := (slot?_eq_some.mp hi).1
    have hremoved := hok.manager.setSlot hpos valid_movedFrom (.inr rfl)
    obtain ⟨hkilled, htox⟩ := of_content_live hlive
    refine ⟨(s.manager.setSlot handle.number movedFrom).free handle.number, ?_, ?_⟩
    · simp only [run, call, hget, Op.run, hfinalize, hkilled, htox]
      rfl
    · refine hok.change hget hfin rfl (hremoved.setFree (slot?_setSlot_self hi _) hfree)
        hok.unlocked (by simp)
        (fun n hn => ⟨slot?_setSlot_ne hpos (Ne.symm hn) _, hother n hn⟩) ?_
      simp only [free, setSlot, List.length_set, List.length_append, List.length_singleton,
        if_true]
      omega

theorem run_kill (hok : s.Ok) {h : ℕ} (hh : s.Usable h)
    (hrun : s.run (.kill h) = .ok (reply, s')) : s'.Ok ∧ s.OwnReply reply (.kill h) := by
  obtain ⟨handle, hget, hfin⟩ := hh
  obtain ⟨manager, hkill, hok'⟩ := kill_spec hok hget hfin
  cases hrun.symm.trans hkill
  refine ⟨hok', ?_⟩
  cases handle.killed with
  | true => exact .inr (.inl rfl)
  | false => exact .inr (.inr rfl)

theorem run_finalize (hok : s.Ok) {h : ℕ} (hh : s.Usable h)
    (hrun : s.run (.finalize h) = .ok (reply, s')) :
    s'.Ok ∧ s.OwnReply reply (.finalize h) := by
  obtain ⟨handle, hget, hfin⟩ := hh
  obtain ⟨manager, hfinalize, hok'⟩ := finalize_spec hok hget hfin
  cases hrun.symm.trans hfinalize
  refine ⟨hok', ?_⟩
  cases handle.killed with
  | true => exact .inr (.inl rfl)
  | false => exact .inr (.inr rfl)

theorem run_withInstance (hok : s.Ok) {h : ℕ} (hh : s.Usable h)
    (hrun : s.run (.withInstance h) = .ok (reply, s')) :
    s'.Ok ∧ s.OwnReply reply (.withInstance h) := by
  obtain ⟨handle, hget, hfin⟩ := hh
  obtain ⟨hslot, hfree⟩ := hok.slot h handle hget hfin
  obtain ⟨manager, hop, rfl⟩ := run_call hget hrun
  simp only [Op.run] at hop
  obtain ⟨reply', hwith⟩ := withInstance_cases hok.manager hok.unlocked handle.number
  cases hop.symm.trans hwith
  refine ⟨?_, ?_⟩
  · refine hok.change hget hfin rfl hok.manager hok.unlocked (fun _ => ⟨hslot, hfree⟩)
      (fun n _ => ⟨rfl, id⟩) ?_
    simpa [hfin] using hok.count
  · intro handle' hget'
    obtain rfl : handle = handle' := Option.some.inj (hget.symm.trans hget')
    constructor
    · intro hkilled
      have hrun' := withInstance_live hok.manager hok.unlocked hslot (by simp [content, hkilled])
      cases hwith.symm.trans hrun'
      simp [content, hkilled, ofPointers]
    · intro hkilled
      have hdead : ∀ i, s.manager.slot? handle.number = some i → i.live = false := by
        intro i hi
        rw [hslot] at hi
        cases hi
        simp [content, hkilled, movedFrom]
      obtain ⟨e, hrun', hmessage⟩ := withInstance_not_live hok.unlocked hdead
      cases hwith.symm.trans hrun'
      have hne : handle.number ≠ 0 := by
        intro hzero
        rw [hzero] at hslot
        exact absurd (slot?_eq_some.mp hslot).1 (by decide)
      obtain ⟨message, rfl⟩ := hmessage hne
      exact ⟨message, rfl⟩

theorem isLive_iff {h : ℕ} : s.isLive h ↔ ∃ handle, s.handles[h]? = some handle ∧
    handle.killed = false ∧ handle.finalized = false := by
  simp [isLive, Option.any_eq_true]

theorem usable_of_isLive {h : ℕ} (hlive : s.isLive h) : s.Usable h := by
  obtain ⟨handle, hget, -, hfin⟩ := isLive_iff.mp hlive
  exact ⟨handle, hget, hfin⟩

theorem Usable.lt_length {h : ℕ} (hh : s.Usable h) : h < s.handles.length := by
  obtain ⟨handle, hget, -⟩ := hh
  exact (List.getElem?_eq_some_iff.mp hget).1

/-- The objects after a change to the `h`-th one. -/
theorem getElem?_changed {h : ℕ} {handle new : Handle} (hget : s.handles[h]? = some handle)
    (i : ℕ) : (s.handles.set h new)[i]? = if i = h then some new else s.handles[i]? := by
  by_cases heq : i = h
  · subst heq
    rw [if_pos rfl]
    exact List.getElem?_set_self (List.getElem?_eq_some_iff.mp hget).1
  · rw [if_neg heq]
    exact List.getElem?_set_ne (Ne.symm heq)

theorem isLive_eq_not_killed {h : ℕ} {handle : Handle} (hget : s.handles[h]? = some handle)
    (hfin : handle.finalized = false) : s.isLive h = !handle.killed := by
  simp [isLive, hget, hfin]

/-- Killing an object leaves it usable, but not live. -/
theorem kill_effect (hok : s.Ok) {h : ℕ} (hh : s.Usable h) :
    ∃ s', s.run (.kill h) = .ok (if s.isLive h then .destroyed (some h) else .done, s') ∧ s'.Ok ∧
      s'.handles.length = s.handles.length ∧ (∀ i, s'.isLive i ↔ s.isLive i ∧ i ≠ h) ∧
      ∀ i, s'.Usable i ↔ s.Usable i := by
  obtain ⟨handle, hget, hfin⟩ := hh
  obtain ⟨manager, hrun, hok'⟩ := kill_spec hok hget hfin
  refine ⟨_, ?_, hok', by simp, fun i => ?_, fun i => ?_⟩
  · rw [hrun, isLive_eq_not_killed hget hfin]
    cases handle.killed <;> rfl
  · by_cases heq : i = h <;> simp [isLive, getElem?_changed hget, heq]
  · by_cases heq : i = h <;> simp [Usable, getElem?_changed hget, heq, hget, hfin]

/-- After its finalizer has run, an object is not usable. -/
theorem finalize_effect (hok : s.Ok) {h : ℕ} (hh : s.Usable h) :
    ∃ s', s.run (.finalize h) = .ok (if s.isLive h then .destroyed (some h) else .done, s') ∧
      s'.Ok ∧ s'.handles.length = s.handles.length ∧ (∀ i, s'.isLive i ↔ s.isLive i ∧ i ≠ h) ∧
      ∀ i, s'.Usable i ↔ s.Usable i ∧ i ≠ h := by
  obtain ⟨handle, hget, hfin⟩ := hh
  obtain ⟨manager, hrun, hok'⟩ := finalize_spec hok hget hfin
  refine ⟨_, ?_, hok', by simp, fun i => ?_, fun i => ?_⟩
  · rw [hrun, isLive_eq_not_killed hget hfin]
    cases handle.killed <;> rfl
  · by_cases heq : i = h <;> simp [isLive, getElem?_changed hget, heq]
  · by_cases heq : i = h <;> simp [Usable, getElem?_changed hget, heq]

/-- A new object is live. -/
theorem add_effect (hok : s.Ok) (hbound : s.outstanding < 2 ^ 31 - 1) (grows : Bool) :
    ∃ number s', s.run (.add grows) = .ok (.added number, s') ∧ s'.Ok ∧
      s'.handles.length = s.handles.length + 1 ∧
      (∀ i, s'.isLive i ↔ s.isLive i ∨ i = s.handles.length) ∧
      ∀ i, s'.Usable i ↔ s.Usable i ∨ i = s.handles.length := by
  obtain ⟨number, manager, hrun, hok'⟩ := add_spec hok hbound grows
  have hget : ∀ i, (s.handles ++ [({ number } : Handle)])[i]? =
      if i = s.handles.length then some { number } else s.handles[i]? := by
    intro i
    by_cases heq : i = s.handles.length
    · subst heq
      simp
    · rw [if_neg heq]
      rcases Nat.lt_or_gt_of_ne heq with hlt | hgt
      · exact List.getElem?_append_left hlt
      · rw [List.getElem?_eq_none (by simp; omega), List.getElem?_eq_none (by omega)]
  refine ⟨number, _, hrun, hok', by simp, fun i => ?_, fun i => ?_⟩
  · by_cases heq : i = s.handles.length <;> simp [isLive, hget, heq]
  · by_cases heq : i = s.handles.length <;> simp [Usable, hget, heq]

/-- The function runs on the object of a live handle, and nothing changes. -/
theorem withInstance_effect (hok : s.Ok) {h : ℕ} (hlive : s.isLive h) :
    s.run (.withInstance h) = .ok (.ran (some h), s) := by
  obtain ⟨handle, hget, hkilled, hfin⟩ := isLive_iff.mp hlive
  obtain ⟨hslot, -⟩ := hok.slot h handle hget hfin
  have hwith := withInstance_live hok.manager hok.unlocked hslot (by simp [content, hkilled])
  have hsame : s.handles.set h handle = s.handles := by
    obtain ⟨hlt, rfl⟩ := List.getElem?_eq_some_iff.mp hget
    exact List.set_getElem_self hlt
  simp only [run, call, hget, Op.run, hwith, id, hsame]
  simp [content, hkilled, ofPointers]

/-- The invariant is kept by every use for which there is a number. -/
theorem Ok.step {u : Use} (hok : s.Ok) (hallowed : s.Numbered u)
    (hrun : s.run u = .ok (reply, s')) : s'.Ok := by
  obtain ⟨hallowed, hbound⟩ := hallowed
  cases u with
  | add grows =>
    obtain ⟨number, manager, hadd, hok'⟩ := add_spec hok (hbound grows rfl) grows
    cases hrun.symm.trans hadd
    exact hok'
  | kill h => exact (run_kill hok hallowed hrun).1
  | finalize h => exact (run_finalize hok hallowed hrun).1
  | withInstance h => exact (run_withInstance hok hallowed hrun).1

/-- Every allowed use ends well. -/
theorem Ok.succeeds {u : Use} (hok : s.Ok) (hallowed : s.Allowed u) :
    ∃ reply s', s.run u = .ok (reply, s') := by
  have hcall : ∀ (h : ℕ) (op : Int32 → Op ℕ ℕ ℕ) (change : Handle → Handle), s.Usable h →
      ∃ reply s', s.call h op change = .ok (reply, s') := by
    rintro h op change ⟨handle, hget, -⟩
    obtain ⟨reply, manager, hrun, -⟩ := run_ok hok.manager hok.unlocked (op handle.number)
    exact ⟨reply, _, by rw [call, hget]; simp [hrun]; rfl⟩
  cases u with
  | add grows =>
    have hi := valid_ofPointers s.handles.length s.handles.length s.handles.length
    simp only [run, Op.run, make_some, Checked.ok_bind]
    rcases add_cases hok.manager hok.unlocked hi rfl grows with ⟨-, hadd⟩ | ⟨ns, n, -, hadd⟩
    · exact ⟨_, _, by rw [hadd]; rfl⟩
    · exact ⟨_, _, by rw [hadd]; rfl⟩
  | kill h => exact hcall h _ _ hallowed
  | finalize h => exact hcall h _ _ hallowed
  | withInstance h => exact hcall h _ _ hallowed

theorem add_reply (hok : s.Ok) {grows : Bool} (hrun : s.run (.add grows) = .ok (reply, s')) :
    ∃ number, reply = .added number := by
  have hi := valid_ofPointers s.handles.length s.handles.length s.handles.length
  simp only [run, Op.run, make_some, Checked.ok_bind] at hrun
  rcases add_cases hok.manager hok.unlocked hi rfl grows with ⟨-, hadd⟩ | ⟨ns, n, -, hadd⟩
  · rw [hadd] at hrun
    cases hrun
    exact ⟨_, rfl⟩
  · rw [hadd] at hrun
    cases hrun
    exact ⟨_, rfl⟩

/-- Handles are isolated in every state that satisfies the invariant. -/
theorem Ok.isolated (hok : s.Ok) : s.Isolated := by
  intro u hallowed
  obtain ⟨reply, s', hrun⟩ := hok.succeeds hallowed
  refine ⟨reply, s', hrun, ?_⟩
  cases u with
  | add grows => exact add_reply hok hrun
  | kill h => exact (run_kill hok hallowed hrun).2
  | finalize h => exact (run_finalize hok hallowed hrun).2
  | withInstance h => exact (run_withInstance hok hallowed hrun).2

theorem ok_of_run {us : List Use} (h : Run (Guarded Numbered Step) {} us s) : s.Ok :=
  Run.invariant ok_empty (fun _ _ _ hok hstep => by
    obtain ⟨hallowed, reply, hrun⟩ := hstep
    exact hok.step hallowed hrun) h

end

end Handles

/-- In every run in which there are numbers for all objects, each use of an object concerns
    its own native object only. -/
theorem handles_isolated {us : List Use} {s : Handles}
    (h : Run (Guarded Handles.Numbered Handles.Step) {} us s) : s.Isolated :=
  (Handles.ok_of_run h).isolated

/-- A number is killed, finalized and used again for the third object. -/
def recycled : List Use := [.add true, .add true, .kill 0, .kill 0, .finalize 0, .add true]

theorem handles_isolated_recycled : ∃ s, Run (Guarded Handles.Numbered Handles.Step) {} recycled s ∧
    s.handles.map Handle.number = [1, 2, 1] ∧ s.Isolated := by
  have hrun : Handles.runUses {} recycled = .ok
      { manager := {
          instances := [ToxInstance.ofPointers 2 2 2, ToxInstance.ofPointers 1 1 1] }
        handles := [{ number := 1, killed := true, finalized := true }, { number := 2 },
          { number := 1 }] } := by
    rfl
  have h := Handles.run_of_runUses hrun
  exact ⟨_, h, rfl, handles_isolated h⟩

/-! ## More objects than numbers -/

namespace Handles

/-- Objects created one after the other get the numbers 1, 2, 3, ... as far as a `jint` goes. -/
theorem run_adds (k : ℕ) : ∃ s, Run (Guarded Allowed Step) {} (List.replicate k (.add false)) s ∧
    s.manager.Ok ∧ s.manager.locked = false ∧ s.manager.freelist = [] ∧
    s.manager.instances.length = k ∧ s.handles.length = k ∧
    ∀ h < k, s.handles[h]? = some { number := Int32.ofNat (h + 1) } := by
  induction k with
  | zero => exact ⟨{}, .nil, InstanceManager.ok_empty, rfl, rfl, rfl, rfl, by simp⟩
  | succ k ih =>
    obtain ⟨s, hrun, hm, hu, hfree, hlen, hhandles, hnumbers⟩ := ih
    have hi := valid_ofPointers k k k
    refine ⟨{
      manager := s.manager.push (ofPointers k k k)
      handles := s.handles ++ [{ number := Int32.ofNat (k + 1) }] }, ?_,
      hm.push hi hfree, hu, hfree, by simp [push, hlen], by simp [hhandles], fun h hh => ?_⟩
    · rw [List.replicate_succ']
      refine .snoc hrun ⟨trivial, .added (Int32.ofNat (k + 1)), ?_⟩
      have hadd := add_of_nil hm hu hi hfree false
      rw [hlen] at hadd
      simp only [run, Op.run, make_some, Checked.ok_bind, hhandles, hadd]
      rfl
    · by_cases heq : h = k
      · subst heq
        simp [← hhandles]
      · have hlt : h < s.handles.length := by omega
        rw [List.getElem?_append_left hlt]
        exact hnumbers h (by omega)

end Handles

/-- The `2 ^ 31`-th object gets a negative number, and cannot be used although it is alive. -/
theorem last_handle_not_isolated : ¬ ∀ (us : List Use) (s : Handles),
    Run (Guarded Handles.Allowed Handles.Step) {} us s → s.Isolated := by
  intro hall
  obtain ⟨s, hrun, hm, hu, -, -, -, hnumbers⟩ := Handles.run_adds (2 ^ 31)
  have hget := hnumbers (2 ^ 31 - 1) (by omega)
  obtain ⟨reply, s', huse, hreply⟩ :=
    hall _ s hrun (.withInstance (2 ^ 31 - 1)) ⟨_, hget, rfl⟩
  obtain ⟨manager, hop, -⟩ := Handles.run_call hget huse
  -- the number is negative, so there is no slot for it
  have hnone : s.manager.slot? (Int32.ofNat (2 ^ 31 - 1 + 1)) = none := if_neg (by decide)
  have hdead : ∀ i, s.manager.slot? (Int32.ofNat (2 ^ 31 - 1 + 1)) = some i → i.live = false := by
    intro i hi
    rw [hnone] at hi
    cases hi
  obtain ⟨e, hthrew, -⟩ := withInstance_not_live hu hdead
  cases hop.symm.trans hthrew
  have hran := (hreply _ hget).1 rfl
  cases hran

end Tox4j.Instances
