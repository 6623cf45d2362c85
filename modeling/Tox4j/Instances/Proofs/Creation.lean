import Tox4j.Adapter.Proofs.Proxy
import Tox4j.Instances.Creation
import Tox4j.Instances.Proofs.Operations

/-!
# When creation is all or nothing

`with_error_handling` drops what it was given together with an error, so a `new_Tox` whose save
data does not load stays alive and nobody owns it. `toxAvNew` goes through the null pointer that
`toxav_new` returns together with an error.
-/

namespace Tox4j.Instances

open Tox4j.Misc Tox4j.Adapter ToxInstance InstanceManager

section

variable {Object Events Mutex : Type} {s : Native Object Events Mutex} {object : Object}
  {events : Events} {mutex : Mutex}

theorem register_eq {number : Int32} {manager : InstanceManager Object Events Mutex} {grows : Bool}
    (h : s.manager.add (ofPointers object events mutex) grows = .ok (.added number, manager)) :
    s.register (some object) events mutex grows = .ok (number, { s with manager }) := by
  simp only [Native.register, make_some, Checked.ok_bind, h]
  rfl

/-- A new object is owned under its number exactly when there is a number for it. -/
theorem register_created (h : s.manager.Ok) (hu : s.manager.locked = false) (object : Object)
    (events : Events) (mutex : Mutex) (grows : Bool) :
    ∃ number manager, Native.register { s with alive := object :: s.alive } (some object) events
        mutex grows = .ok (number, { manager, alive := object :: s.alive }) ∧
      (s.Created { manager, alive := object :: s.alive } number ↔ s.manager.HasNumber) := by
  have hi := valid_ofPointers object events mutex
  rcases add_cases h hu hi rfl grows with ⟨hfree, hadd⟩ | ⟨ns, n, hfree, hadd⟩
  · refine ⟨_, _, register_eq hadd, ?_⟩
    constructor
    · intro hcreated
      obtain ⟨_, i, -, hpos, hslot, hlive, -, hunused⟩ := hcreated
      right
      by_contra hfull
      rw [slot_eq_ok, push] at hslot
      obtain ⟨hlt, -⟩ := List.getElem?_eq_some_iff.mp hslot
      rw [List.length_append, List.length_singleton] at hlt
      by_cases hold : index (Int32.ofNat (s.manager.instances.length + 1)) <
          s.manager.instances.length
      · rw [List.getElem?_append_left hold] at hslot
        rw [hunused i (slot_eq_ok.mpr hslot)] at hlive
        cases hlive
      · have hmax := (Int32.ofNat (s.manager.instances.length + 1)).toInt_lt
        unfold index at hold hlt
        omega
    · intro hnumber
      have hlen : s.manager.instances.length < 2 ^ 31 - 1 := by
        rcases hnumber with hnumber | hnumber
        · exact absurd hfree hnumber
        · exact hnumber
      obtain ⟨hpos, hget⟩ := slot?_eq_some.mp
        (slot?_push_new (m := s.manager) (j := ofPointers object events mutex) hlen)
      refine ⟨object, _, rfl, hpos, slot_eq_ok.mpr hget, rfl, rfl, ?_⟩
      intro i hslot
      exact absurd rfl (ne_new hlen (slot?_eq_some.mpr ⟨hpos, slot_eq_ok.mp hslot⟩))
  · refine ⟨_, _, register_eq hadd, ?_⟩
    have hdead := h.free n (by simp [hfree])
    refine iff_of_true ?_ (.inl (by simp [hfree]))
    have hnew : (s.manager.reuse ns n (ofPointers object events mutex)).slot? n = some _ :=
      slot?_reuse_self hdead
    refine ⟨object, _, rfl, (slot?_eq_some.mp hdead).1, slot_of_slot? hnew, rfl, rfl, ?_⟩
    intro i hslot
    rw [slot_of_slot? hdead] at hslot
    cases hslot
    rfl

end

section

variable {Tox Events Mutex : Type} {lg : Toxcore Tox}

/-- Options are rejected for their proxy, if at all. -/
theorem toxNewOptions_ne_ok {options : Option NewToxOptions} {e : ErrNew}
    (h : toxNewOptions lg options = .error e) : e ≠ .ok := by
  cases options with
  | none => cases h
  | some options =>
    by_cases hproxy : options.proxyType = .none
    · rw [toxNewOptions_noProxy hproxy] at h
      cases h
    · rcases checkProxy_cases hproxy with ⟨e', hcheck, hrefuses⟩ | ⟨hcheck, address, haddress, -⟩
      · rw [toxNewOptions_refused hcheck] at h
        cases h
        exact hrefuses.ne_ok
      · rw [toxNewOptions_proxy hproxy haddress hcheck] at h
        cases h

/-- The save data can be loaded into a new instance. -/
def Loads (lg : Toxcore Tox) (tox : Tox) (saveData : Option (List UInt8)) : Prop :=
  ∀ data, saveData = some data → data ≠ [] →
    (lg.load tox (data.take (data.length % 2 ^ 32))).1 ∉ [-1, 1]

theorem loadSaveData_ok_iff (lg : Toxcore Tox) (tox : Tox) (saveData : Option (List UInt8)) :
    (loadSaveData lg tox saveData (saveData.elim 0 List.length)).2 = .ok ↔
      Loads lg tox saveData := by
  cases saveData with
  | none => simp [loadSaveData, Loads]
  | some data =>
    cases data with
    | nil => simp [loadSaveData, Loads]
    | cons b data =>
      have hloads : Loads lg tox (some (b :: data)) ↔
          (lg.load tox ((b :: data).take ((b :: data).length % 2 ^ 32))).1 ∉ [-1, 1] := by
        simp only [Loads, Option.some.injEq, forall_eq', ne_eq, reduceCtorEq, not_false_eq_true,
          true_implies]
      rw [hloads]
      show (if (lg.load tox ((b :: data).take ((b :: data).length % 2 ^ 32))).1 = -1 then
          ErrNew.loadBadFormat
        else if (lg.load tox ((b :: data).take ((b :: data).length % 2 ^ 32))).1 = 1 then
          .loadEncrypted else .ok) = .ok ↔ _
      generalize (lg.load tox ((b :: data).take ((b :: data).length % 2 ^ 32))).1 = result
      by_cases hbad : result = -1
      · simp [hbad]
      · by_cases hencrypted : result = 1
        · simp [hencrypted]
        · simp [hbad, hencrypted]

/-- No instance is made, or one that the save data is loaded into. -/
theorem newToxNew_cases (lg : Toxcore Tox) (options : Option NewToxOptions)
    (saveData : Option (List UInt8)) (outOfMemory : Bool) :
    (∃ e, e ≠ .ok ∧ newToxNew lg options saveData (saveData.elim 0 List.length) outOfMemory =
        (none, e) ∧
      ∀ opts tox, toxNewOptions lg options = .ok opts → lg.toxNew opts ≠ some tox) ∨
    ∃ opts tox tox' e, toxNewOptions lg options = .ok opts ∧ lg.toxNew opts = some tox ∧
      newToxNew lg options saveData (saveData.elim 0 List.length) outOfMemory =
        (some tox', e) ∧
      (e = .ok ↔ Loads lg (registerCustomPacketHandlers lg tox) saveData) := by
  cases hoptions : toxNewOptions lg options with
  | error e =>
    left
    exact ⟨e, toxNewOptions_ne_ok hoptions, by simp only [newToxNew, hoptions], by simp⟩
  | ok opts =>
    cases hnew : lg.toxNew opts with
    | none =>
      left
      refine ⟨if outOfMemory then .malloc else .portAlloc, ?_, ?_, ?_⟩
      · cases outOfMemory <;> decide
      · simp only [newToxNew, hoptions, hnew]
      · intro opts' tox heq
        cases heq
        simp [hnew]
    | some tox =>
      right
      refine ⟨opts, tox, _, _, rfl, hnew, by simp only [newToxNew, hoptions, hnew]; rfl, ?_⟩
      exact loadSaveData_ok_iff lg _ saveData

variable {s : Native Tox Events Mutex}

theorem newErrorFunc_failure {e : ErrNew} (h : e ≠ .ok) : newErrorFunc e = .failure e.name := by
  cases e with
  | ok => exact absurd rfl h
  | null | malloc | portAlloc | proxyBadHost | proxyBadPort | loadEncrypted | loadBadFormat => rfl

/-- On an error, `toxNew` throws, and drops the instance it was given with the error. -/
theorem toxNew_failed {args : NewArgs} {value : Option Tox} {e : ErrNew}
    (hallocated : args.optionsAllocated = true) (hresult : args.result lg = (value, e))
    (he : e ≠ .ok) (events : Events) (mutex : Mutex) (grows : Bool) :
    toxNew lg s args events mutex grows = .ok ⟨0, some (.tox "core" "New" e.name),
      { s with alive := value.toList ++ s.alive }⟩ := by
  simp only [toxNew, hallocated, hresult, withErrorHandling, newErrorFunc_failure he]
  rfl

theorem toxNew_made {args : NewArgs} {tox : Tox} (hallocated : args.optionsAllocated = true)
    (hresult : args.result lg = (some tox, .ok)) (events : Events) (mutex : Mutex) (grows : Bool) :
    toxNew lg s args events mutex grows = do
      let (number, s') ← Native.register { s with alive := tox :: s.alive } (some tox) events mutex
        grows
      return ⟨number, none, s'⟩ := by
  simp only [toxNew, hallocated, hresult, withErrorHandling, newErrorFunc]
  rfl

/-- `toxNew` creates all or nothing exactly when the save data can be loaded, if it comes to
    that. -/
theorem toxNew_allOrNothing_iff (h : s.manager.Ok) (hu : s.manager.locked = false)
    (args : NewArgs) (events : Events) (mutex : Mutex) (grows : Bool) :
    ToxNewAllOrNothing lg s args events mutex grows ↔ ToxNewFine lg s args := by
  cases hallocated : args.optionsAllocated with
  | false =>
    refine iff_of_true ⟨⟨0, some (.tox "core" "New" "MALLOC"), s⟩, ?_, .inr ?_⟩ ?_
    · simp only [toxNew, hallocated]
      rfl
    · exact ⟨_, rfl, by simp [NewArgs.reported, hallocated, ErrNew.name], rfl, rfl⟩
    · intro htrue
      rw [hallocated] at htrue
      cases htrue
  | true =>
    have hreported : args.reported lg = (args.result lg).2 := by
      simp only [NewArgs.reported, hallocated, if_true]
    rcases newToxNew_cases lg (some args.options) args.saveData args.outOfMemory with
        ⟨e, he, hresult, hnone⟩ | ⟨opts, tox, tox', e, hopts, hnew, hresult, hloads⟩
    · have hfailed := toxNew_failed (s := s) hallocated hresult he events mutex grows
      refine iff_of_true ⟨_, hfailed, .inr ⟨_, rfl, ?_, rfl, rfl⟩⟩ ?_
      · rw [hreported, NewArgs.result, hresult]
      · intro _ opts tox hopts hnew
        exact absurd hnew (hnone opts tox hopts)
    · have hfine : ToxNewFine lg s args ↔ e = .ok ∧ s.manager.HasNumber := by
        rw [hloads]
        constructor
        · intro hfine
          exact hfine hallocated opts tox hopts hnew
        · intro hboth _ opts' tox'' hopts' hnew'
          rw [hopts] at hopts'
          cases hopts'
          rw [hnew] at hnew'
          cases hnew'
          exact hboth
      rw [hfine]
      by_cases he : e = .ok
      · subst he
        obtain ⟨number, manager, hregister, hcreated⟩ :=
          register_created h hu tox' events mutex grows
        have hmade : toxNew lg s args events mutex grows =
            .ok ⟨number, none, { manager, alive := tox' :: s.alive }⟩ := by
          rw [toxNew_made hallocated hresult, hregister]
          rfl
        simp only [ToxNewAllOrNothing, hmade, Except.ok.injEq, exists_eq_left', AllOrNothing,
          true_and, hcreated]
        simp
      · have hfailed := toxNew_failed (s := s) hallocated hresult he events mutex grows
        refine iff_of_false ?_ fun hboth => he hboth.1
        intro hall
        obtain ⟨r, hr, hall⟩ := hall
        rw [hfailed] at hr
        cases hr
        rcases hall with ⟨hnone, -⟩ | ⟨_, -, -, -, halive⟩
        · cases hnone
        · exact absurd halive (List.cons_ne_self _ _)

end

section

variable {Tox ToxAv Events Mutex : Type} [DecidableEq Tox] {s : AvNative Tox ToxAv Events Mutex}
  {n : Int32} {tox : Tox} {created : Option ToxAv}

/-- When `toxav_new` returns null, its pointer is written through. -/
theorem toxAvNew_null (hrun : s.core.withInstance n = .ok (.ran (some tox), s.core))
    (hnull : (newToxAvNew s (some tox) created).1.1 = none) (events : Events) (mutex : Mutex)
    (grows : Bool) : toxAvNew s n created events mutex grows =
      .error "toxav_callback_call (nullptr, ...)" := by
  simp only [toxAvNew, hrun, Checked.ok_bind, hnull]
  rfl

theorem toxAvNew_made {av : ToxAv} (hrun : s.core.withInstance n = .ok (.ran (some tox), s.core))
    (hav : s.hasAv tox = false) (events : Events) (mutex : Mutex) (grows : Bool) :
    toxAvNew s n (some av) events mutex grows = do
      let (number, av') ← Native.register { s.av with alive := av :: s.av.alive } (some av) events
        mutex grows
      return ⟨number, none,
        { s with hasAv := Function.update s.hasAv tox true, av := av' }⟩ := by
  simp only [toxAvNew, hrun, Checked.ok_bind, newToxAvNew, hav]
  rfl

/-- `toxAvNew` creates all or nothing exactly when `toxav_new` creates a session, if it is
    called. -/
theorem toxAvNew_allOrNothing_iff (hcore : s.core.Ok) (hcu : s.core.locked = false)
    (hav : s.av.manager.Ok) (hau : s.av.manager.locked = false) (n : Int32)
    (created : Option ToxAv) (events : Events) (mutex : Mutex) (grows : Bool) :
    ToxAvNewAllOrNothing s n created events mutex grows ↔ ToxAvNewFine s n created := by
  by_cases hlive : ∃ i, s.core.slot? n = some i ∧ i.live = true
  · obtain ⟨i, hi, hlive⟩ := hlive
    have hslot := slot_of_slot? hi
    obtain ⟨tox, htox⟩ := Option.isSome_iff_exists.mp ((hcore.valid_of_slot? hi).live hlive).1
    have hrun : s.core.withInstance n = .ok (.ran (some tox), s.core) := by
      rw [withInstance_live hcore hcu hi hlive, htox]
    have hfine : ToxAvNewFine s n created ↔
        s.hasAv tox = false ∧ created.isSome = true ∧ s.av.manager.HasNumber := by
      constructor
      · intro hfine
        exact hfine i tox (slot?_eq_some.mp hi).1 hslot hlive htox
      · intro hall i' tox' _ hslot' _ htox'
        rw [hslot] at hslot'
        cases hslot'
        rw [htox] at htox'
        cases htox'
        exact hall
    rw [hfine]
    have hnull : (newToxAvNew s (some tox) created).1.1 = none →
        ¬ ToxAvNewAllOrNothing s n created events mutex grows := by
      intro hnull hall
      obtain ⟨r, hr, -⟩ := hall
      rw [toxAvNew_null hrun hnull] at hr
      cases hr
    cases hhas : s.hasAv tox with
    | true =>
      refine iff_of_false (hnull ?_) (by simp)
      simp only [newToxAvNew, hhas, if_true]
    | false =>
      cases created with
      | none =>
        refine iff_of_false (hnull ?_) (by simp)
        simp only [newToxAvNew, hhas]
        rfl
      | some av =>
        obtain ⟨number, manager, hregister, hcreated⟩ :=
          register_created hav hau av events mutex grows
        have hmade : toxAvNew s n (some av) events mutex grows = .ok ⟨number, none,
            { s with
              hasAv := Function.update s.hasAv tox true
              av := { manager, alive := av :: s.av.alive } }⟩ := by
          rw [toxAvNew_made hrun hhas, hregister]
          rfl
        simp only [ToxAvNewAllOrNothing, hmade, Except.ok.injEq, exists_eq_left', AllOrNothing,
          true_and, hcreated]
        simp
  · have hdead : ∀ i, s.core.slot? n = some i → i.live = false := by
      intro i hi
      by_contra htrue
      exact hlive ⟨i, hi, by simpa using htrue⟩
    obtain ⟨exception, hthrew, -⟩ := withInstance_not_live hcu hdead
    have hthrown : toxAvNew s n created events mutex grows =
        .ok ⟨0, some (.other exception), s⟩ := by
      simp only [toxAvNew, hthrew, Checked.ok_bind]
      rfl
    refine iff_of_true ⟨_, hthrown, rfl, .inr ⟨_, rfl, .inl ⟨_, _, hthrew, rfl⟩, rfl, rfl⟩⟩ ?_
    intro i tox hpos hslot hilive htox
    have hlive' := hdead i (slot?_eq_some.mpr ⟨hpos, slot_eq_ok.mp hslot⟩)
    rw [hilive] at hlive'
    cases hlive'

end

/-- `toxNew` and `toxAvNew` create all or nothing exactly when the save data can be loaded and when
    `toxav_new` creates a session, if it comes to that. -/
theorem creation_allOrNothing_iff {Tox LegacyTox ToxAv Events Mutex : Type} [DecidableEq Tox]
    (lg : Toxcore LegacyTox) {s : Native LegacyTox Events Mutex}
    {av : AvNative Tox ToxAv Events Mutex} (hs : s.manager.Ok) (hu : s.manager.locked = false)
    (hcore : av.core.Ok) (hcu : av.core.locked = false) (hav : av.av.manager.Ok)
    (hau : av.av.manager.locked = false) (args : NewArgs) (n : Int32) (created : Option ToxAv)
    (events : Events) (mutex : Mutex) (grows : Bool) :
    (ToxNewAllOrNothing lg s args events mutex grows ↔ ToxNewFine lg s args) ∧
      (ToxAvNewAllOrNothing av n created events mutex grows ↔ ToxAvNewFine av n created) :=
  ⟨toxNew_allOrNothing_iff hs hu args events mutex grows,
    toxAvNew_allOrNothing_iff hcore hcu hav hau n created events mutex grows⟩

/-- Without a proxy. -/
def plainOptions : NewToxOptions :=
  { ipv6Enabled := true, udpEnabled := true, proxyType := .none, proxyAddress := none,
    proxyPort := 0 }

/-- A core with the live instance 1, and a session on it if `hasAv` says so. -/
def liveCore (hasAv : Bool) : AvNative ℕ ℕ ℕ ℕ :=
  { core := { instances := [ofPointers 1 1 1] }, hasAv := fun _ => hasAv }

theorem liveCore_ok (hasAv : Bool) : (liveCore hasAv).core.Ok where
  valid := by simp [liveCore, valid_ofPointers]
  nodup := List.nodup_nil
  free := by simp [liveCore]

/-- A fresh instance, and the first session on another one. -/
theorem creation_allOrNothing_fresh :
    ToxNewAllOrNothing FriendTable.core {} { saveData := none, options := plainOptions } 0 0 true ∧
      ToxAvNewAllOrNothing (liveCore false) 1 (some 5) 0 0 true := by
  have h := creation_allOrNothing_iff FriendTable.core (s := {}) ok_empty rfl
    (liveCore_ok false) rfl ok_empty rfl { saveData := none, options := plainOptions } 1 (some 5)
    0 0 true
  refine ⟨h.1.mpr ?_, h.2.mpr ?_⟩
  · intro _ opts tox _ _
    exact ⟨by simp, .inr (by decide)⟩
  · intro i tox _ _ _ _
    exact ⟨rfl, rfl, .inr (by decide)⟩

/-- A legacy core that loads no save data. -/
def refusing : Toxcore FriendTable := { FriendTable.core with load := fun tox _ => (-1, tox) }

/-- An instance is left over whose save data does not load, and a second session on a core ends in
    a null pointer. -/
theorem creation_not_allOrNothing :
    ¬ ToxNewAllOrNothing refusing {} { saveData := some [1], options := plainOptions } 0 0 true ∧
      ¬ ToxAvNewAllOrNothing (liveCore true) 1 (some 5) 0 0 true := by
  constructor
  · intro h
    obtain ⟨r, hr, h⟩ := h
    have hthrown : toxNew refusing {} { saveData := some [1], options := plainOptions } 0 0 true =
        .ok ⟨0, some (.tox "core" "New" "LOAD_BAD_FORMAT"), { alive := [{}] }⟩ := by
      rfl
    rw [hthrown] at hr
    cases hr
    rcases h with ⟨hnone, -⟩ | ⟨_, -, -, -, halive⟩
    · cases hnone
    · cases halive
  · intro h
    obtain ⟨r, hr, -⟩ := h
    have hnull : toxAvNew (liveCore true) 1 (some 5) 0 0 true =
        .error "toxav_callback_call (nullptr, ...)" := by
      rfl
    rw [hnull] at hr
    cases hr

end Tox4j.Instances
