import Tox4j.Instances.Proofs.Handles
import Tox4j.Java.Lifetimes

/-!
# A core outlives its sessions in orderly programs

The native objects that exist are those of the Java objects that were neither closed nor
finalized, so what an operation destroys can be read off the Java objects.
-/

namespace Tox4j.Java

open Tox4j.Misc Tox4j.Instances

namespace Program

section

variable {s s' : Program} {a c i : ℕ}

/-! ## Reachability -/

@[simp] theorem av_setField (av : AvField) : (s.setField c av).av = s.av := rfl

@[simp] theorem held_setField (c i : ℕ) (av : AvField) :
    ((s.setField c av).cores i).held = (s.cores i).held := by
  by_cases heq : i = c
  · subst heq
    simp [setField, setCore]
  · simp [setField, setCore, heq]

theorem field_setField_self (av : AvField) : ((s.setField c av).cores c).av = av := by
  simp [setField, setCore]

theorem field_setField_ne (hne : i ≠ c) (av : AvField) :
    ((s.setField c av).cores i).av = (s.cores i).av := by
  simp [setField, setCore, hne]

/-- Reachability depends on the Java objects, and on how many sessions there are. -/
theorem CoreReachable.of_eq (hheld : ∀ i, (s'.cores i).held = (s.cores i).held)
    (havs : s'.avs = s.avs) (hlen : s'.av.handles.length = s.av.handles.length)
    (h : s'.CoreReachable c) : s.CoreReachable c := by
  unfold CoreReachable at h ⊢
  rwa [hheld, havs, hlen] at h

/-! ## The invariant -/

/-- The invariant. -/
structure Ok (s : Program) : Prop where
  core : s.core.Ok
  av : s.av.Ok
  toxes : ∀ c, (s.toxes c).isSome ↔ s.core.isLive c
  toxAvs : ∀ a, (s.toxAvs a).isSome ↔ s.av.isLive a
  pointer : ∀ a av, s.toxAvs a = some av → av.tox = (s.avs a).tox
  /-- The field of a core leads to a session of its own, which can be reached with it. -/
  field : ∀ c a, (s.cores c).av = .session a → (s.avs a).tox = c ∧
    a < s.av.handles.length ∧ (s.CoreReachable c → s.av.Usable a)
  reachable : ∀ c, s.CoreReachable c → s.core.Usable c
  held : ∀ a, (s.avs a).held = true → s.av.Usable a
  /-- A core is not closed or finalized before its sessions are. -/
  outlive : ∀ a, s.av.isLive a → s.core.isLive (s.avs a).tox

theorem ok_init : Ok {} where
  core := Handles.ok_empty
  av := Handles.ok_empty
  toxes c := by simp [Handles.isLive]
  toxAvs a := by simp [Handles.isLive]
  pointer a av h := by cases h
  field c a h := by cases h
  reachable c h := by simp [CoreReachable] at h
  held a h := by cases h
  outlive a h := by simp [Handles.isLive] at h

theorem Ok.usable_of_reachable (hok : s.Ok) (h : s.AvReachable a) : s.av.Usable a := by
  rcases h with hheld | ⟨hcore, hfield⟩
  · exact hok.held a hheld
  · exact (hok.field _ a hfield).2.2 hcore

/-- The field of a core changes. -/
theorem Ok.setField {av : AvField} (hok : s.Ok)
    (hav : ∀ a, av = .session a → (s.avs a).tox = c ∧ a < s.av.handles.length ∧
      (s.CoreReachable c → s.av.Usable a)) : (s.setField c av).Ok := by
  have hreach : ∀ i, (s.setField c av).CoreReachable i → s.CoreReachable i := fun i =>
    CoreReachable.of_eq (fun i => held_setField c i av) rfl rfl
  refine ⟨hok.core, hok.av, hok.toxes, hok.toxAvs, hok.pointer, fun i a hfield => ?_,
    fun i hi => hok.reachable i (hreach i hi), hok.held, hok.outlive⟩
  by_cases heq : i = c
  · subst heq
    rw [field_setField_self] at hfield
    obtain ⟨htox, hlt, husable⟩ := hav a hfield
    exact ⟨htox, hlt, fun hi => husable (hreach i hi)⟩
  · rw [field_setField_ne heq] at hfield
    obtain ⟨htox, hlt, husable⟩ := hok.field i a hfield
    exact ⟨htox, hlt, fun hi => husable (hreach i hi)⟩

/-! ## Closing and finalizing -/

/-- A core that has no open session is closed or finalized. -/
theorem Ok.deleteTox {core : Handles} (hok : s.Ok) (hcore : core.Ok)
    (hlive : ∀ i, core.isLive i ↔ s.core.isLive i ∧ i ≠ c)
    (husable : ∀ i, s.CoreReachable i → core.Usable i)
    (hclosed : s.core.isLive c → ∀ a, ¬ s.OpenSession c a) :
    ∃ s', deleteTox { s with core }
        (if s.core.isLive c then .destroyed (some c) else .done) = .ok s' ∧ s'.Ok := by
  have hok' : Ok { s with core, toxes := Function.update s.toxes c none } := by
    refine ⟨hcore, hok.av, fun i => ?_, hok.toxAvs, hok.pointer, hok.field, husable, hok.held,
      fun a ha => (hlive _).mpr ⟨hok.outlive a ha, ?_⟩⟩
    · rw [hlive]
      by_cases heq : i = c
      · subst heq
        simp
      · simp [heq, hok.toxes i]
    · intro heq
      have hc := hok.outlive a ha
      rw [heq] at hc
      exact hclosed hc a ⟨ha, heq⟩
  by_cases hc : s.core.isLive c
  · refine ⟨_, ?_, hok'⟩
    have hsome := (hok.toxes c).mpr hc
    simp [hc, Program.deleteTox, newToxKill, hsome]
  · -- it is destroyed already
    have hnone : s.toxes c = none := by
      simpa using mt (hok.toxes c).mp hc
    rw [← hnone, Function.update_eq_self] at hok'
    refine ⟨_, ?_, hok'⟩
    simp [hc, Program.deleteTox]

/-- A session is closed or finalized: the pointer to its core is valid. -/
theorem Ok.deleteToxAv {av : Handles} (hok : s.Ok) (hav : av.Ok)
    (hlen : av.handles.length = s.av.handles.length)
    (hlive : ∀ i, av.isLive i ↔ s.av.isLive i ∧ i ≠ a)
    (husable : ∀ i, s.AvReachable i → av.Usable i) :
    ∃ toxes toxAvs, deleteToxAv { s with av }
        (if s.av.isLive a then .destroyed (some a) else .done) =
          .ok { s with av, toxes, toxAvs } ∧
      Ok { s with av, toxes, toxAvs } := by
  have hok' : ∀ toxes : ℕ → Option NewTox, (∀ c, (toxes c).isSome = (s.toxes c).isSome) →
      Ok { s with av, toxes, toxAvs := Function.update s.toxAvs a none } := by
    intro toxes htoxes
    have hreach : ∀ i, CoreReachable
        { s with av, toxes, toxAvs := Function.update s.toxAvs a none } i → s.CoreReachable i :=
      fun i => CoreReachable.of_eq (fun _ => rfl) rfl hlen
    refine ⟨hok.core, hav, fun c => ?_, fun i => ?_, fun i av' hi => ?_, fun c i hfield => ?_,
      fun c hc => hok.reachable c (hreach c hc), fun i hi => husable i (.inl hi),
      fun i hi => hok.outlive i ((hlive i).mp hi).1⟩
    · rw [htoxes]
      exact hok.toxes c
    · rw [hlive]
      by_cases heq : i = a
      · subst heq
        simp
      · simp [heq, hok.toxAvs i]
    · by_cases heq : i = a
      · subst heq
        simp at hi
      · simp only [Function.update_of_ne heq] at hi
        exact hok.pointer i av' hi
    · obtain ⟨htox, hlt, -⟩ := hok.field c i hfield
      refine ⟨htox, by simpa [hlen] using hlt, fun hc => husable i (.inr ?_)⟩
      rw [htox]
      exact ⟨hreach c hc, hfield⟩
  by_cases ha : s.av.isLive a
  · obtain ⟨session, hsession⟩ := Option.isSome_iff_exists.mp ((hok.toxAvs a).mpr ha)
    have hcore := (hok.toxes _).mpr (hok.outlive a ha)
    rw [← hok.pointer a session hsession] at hcore
    obtain ⟨newTox, htox⟩ := Option.isSome_iff_exists.mp hcore
    refine ⟨Function.update s.toxes session.tox (some { newTox with hasAv := false }), _, ?_,
      hok' _ fun c => ?_⟩
    · simp [ha, Program.deleteToxAv, newToxAvKill, hsession, htox]
    · by_cases heq : c = session.tox
      · subst heq
        simp [htox]
      · simp [heq]
  · have hnone : s.toxAvs a = none := by
      simpa using mt (hok.toxAvs a).mp ha
    have hsame := hok' s.toxes fun _ => rfl
    rw [← hnone, Function.update_eq_self] at hsame
    refine ⟨s.toxes, s.toxAvs, ?_, hsame⟩
    simp [ha, Program.deleteToxAv]

theorem thrown_ite {p : Prop} [Decidable p] (tox : Option ℕ) :
    thrown (if p then .destroyed tox else .done) = none := by
  split <;> rfl

/-- `toxKill` for a core without an open session. -/
theorem Ok.toxKill (hok : s.Ok) (hc : s.CoreReachable c)
    (hclosed : s.core.isLive c → ∀ a, ¬ s.OpenSession c a) :
    ∃ s', s.toxKill c = .ok (none, s') ∧ s'.Ok := by
  obtain ⟨core, hrun, hcore, -, hlive, husable⟩ :=
    Handles.kill_effect hok.core (hok.reachable c hc)
  obtain ⟨s', hdelete, hok'⟩ := hok.deleteTox hcore hlive
    (fun i hi => (husable i).mpr (hok.reachable i hi)) hclosed
  refine ⟨s', ?_, hok'⟩
  simp only [Program.toxKill, hrun, Checked.ok_bind, hdelete, thrown_ite]
  rfl

/-- `toxAvKill`: afterwards the session is not open, and the cores are as before. -/
theorem Ok.toxAvKill (hok : s.Ok) (ha : s.av.Usable a) :
    ∃ s', s.toxAvKill a = .ok (none, s') ∧ s'.Ok ∧ s'.core = s.core ∧ s'.cores = s.cores ∧
      ∀ c i, s'.OpenSession c i → s.OpenSession c i ∧ i ≠ a := by
  obtain ⟨av, hrun, hav, hlen, hlive, husable⟩ := Handles.kill_effect hok.av ha
  obtain ⟨toxes, toxAvs, hdelete, hok'⟩ := hok.deleteToxAv hav hlen hlive
    fun i hi => (husable i).mpr (hok.usable_of_reachable hi)
  refine ⟨_, ?_, hok', rfl, rfl, fun c i hi => ?_⟩
  · simp only [Program.toxAvKill, hrun, Checked.ok_bind, hdelete, thrown_ite]
    rfl
  · obtain ⟨hi, htox⟩ := hi
    obtain ⟨hi, hne⟩ := (hlive i).mp hi
    exact ⟨⟨hi, htox⟩, hne⟩

/-- Closing a session also resets the field of its core. -/
theorem Ok.closeAv (hok : s.Ok) (ha : s.av.Usable a) :
    ∃ s', s.closeAv a = .ok (none, s') ∧ s'.Ok ∧ s'.core = s.core ∧
      (∀ c, (s'.cores c).held = (s.cores c).held) ∧
      ∀ c i, s'.OpenSession c i → s.OpenSession c i ∧ i ≠ a := by
  have hreset : (s.setField (s.avs a).tox .null).Ok := hok.setField (by simp)
  obtain ⟨s', hkill, hok', hcore, hcores, hopen⟩ := hreset.toxAvKill ha
  refine ⟨s', hkill, hok', hcore, fun c => ?_, hopen⟩
  rw [hcores, held_setField]

/-- Closing a session whose constructor threw: the number 0 is refused. -/
theorem Ok.toxAvKillZero (hok : s.Ok) : ∃ e, s.toxAvKillZero = .ok (some e, s) := by
  rcases InstanceManager.kill_cases hok.av.manager hok.av.unlocked 0 with
    ⟨-, e, hkill⟩ | ⟨hslot, -⟩ | ⟨i, hslot, -⟩
  · refine ⟨e, ?_⟩
    simp only [Program.toxAvKillZero, Op.run, hkill, Checked.ok_bind]
    rfl
  · exact absurd (InstanceManager.slot?_eq_some.mp hslot).1 (by decide)
  · exact absurd (InstanceManager.slot?_eq_some.mp hslot).1 (by decide)

/-- Closing a core whose open session is in its field. -/
theorem Ok.closeCore (hok : s.Ok) (hc : (s.cores c).held = true)
    (hclosed : s.core.isLive c → ∀ a, s.OpenSession c a → (s.cores c).av = .session a) :
    ∃ e s', s.closeCore c = .ok (e, s') ∧ s'.Ok := by
  cases hav : (s.cores c).av with
  | null =>
    obtain ⟨s', hkill, hok'⟩ := hok.toxKill (.inl hc) fun hlive a ha => by
      have hfield := hclosed hlive a ha
      rw [hav] at hfield
      cases hfield
    exact ⟨none, s', by simp [Program.closeCore, hav, hkill], hok'⟩
  | incomplete =>
    have hreset : (s.setField c .null).Ok := hok.setField (by simp)
    obtain ⟨e, hkill⟩ := hreset.toxAvKillZero
    exact ⟨some e, _, by simp [Program.closeCore, hav, hkill], hreset⟩
  | session a =>
    obtain ⟨s₁, hclose, hok₁, hcore, hheld, hopen⟩ :=
      hok.closeAv ((hok.field c a hav).2.2 (.inl hc))
    have hc₁ : s₁.CoreReachable c := by
      left
      rw [hheld, hc]
    obtain ⟨s', hkill, hok'⟩ := hok₁.toxKill hc₁ fun hlive i hi => by
      obtain ⟨hi, hne⟩ := hopen c i hi
      rw [hcore] at hlive
      have hfield := hclosed hlive i hi
      rw [hav] at hfield
      exact hne (AvField.session.inj hfield).symm
    exact ⟨none, s', by simp [Program.closeCore, hav, hclose, hkill], hok'⟩

/-- The finalizer of a core without an open session. -/
theorem Ok.coreFinalize (hok : s.Ok) (hc : s.core.Usable c) (hreach : ¬ s.CoreReachable c)
    (hclosed : s.core.isLive c → ∀ a, ¬ s.OpenSession c a) :
    ∃ s', s.coreFinalize c = .ok (none, s') ∧ s'.Ok := by
  obtain ⟨core, hrun, hcore, -, hlive, husable⟩ := Handles.finalize_effect hok.core hc
  have hreachable : ∀ i, s.CoreReachable i → core.Usable i := by
    intro i hi
    refine (husable i).mpr ⟨hok.reachable i hi, ?_⟩
    rintro rfl
    exact hreach hi
  obtain ⟨s', hdelete, hok'⟩ := hok.deleteTox hcore hlive hreachable hclosed
  refine ⟨s', ?_, hok'⟩
  simp only [Program.coreFinalize, hrun, Checked.ok_bind, hdelete, thrown_ite]
  rfl

/-- The finalizer of a session, in any order with that of its core. -/
theorem Ok.avFinalize (hok : s.Ok) (ha : s.av.Usable a) (hreach : ¬ s.AvReachable a) :
    ∃ s', s.avFinalize a = .ok (none, s') ∧ s'.Ok := by
  obtain ⟨av, hrun, hav, hlen, hlive, husable⟩ := Handles.finalize_effect hok.av ha
  have hreachable : ∀ i, s.AvReachable i → av.Usable i := by
    intro i hi
    refine (husable i).mpr ⟨hok.usable_of_reachable hi, ?_⟩
    rintro rfl
    exact hreach hi
  obtain ⟨toxes, toxAvs, hdelete, hok'⟩ := hok.deleteToxAv hav hlen hlive hreachable
  refine ⟨_, ?_, hok'⟩
  simp only [Program.avFinalize, hrun, Checked.ok_bind, hdelete, thrown_ite]
  rfl

/-! ## New objects -/

theorem Ok.newToxCoreImpl (hok : s.Ok) (hbound : s.core.outstanding < 2 ^ 31 - 1)
    (created grows : Bool) : ∃ s', s.newToxCoreImpl created grows = .ok s' ∧ s'.Ok := by
  cases created with
  | false => exact ⟨s, rfl, hok⟩
  | true =>
    obtain ⟨number, core, hrun, hcore, -, hlive, husable⟩ :=
      Handles.add_effect hok.core hbound grows
    refine ⟨_, by simp only [Program.newToxCoreImpl, hrun, Checked.ok_bind]; rfl, ?_⟩
    have hreach : ∀ i, i ≠ s.core.handles.length →
        ({ s with
            core
            toxes := Function.update s.toxes s.core.handles.length (some {}) }.setCore
          s.core.handles.length { held := true }).CoreReachable i → s.CoreReachable i := by
      intro i hne hi
      simpa [CoreReachable, setCore, hne] using hi
    refine ⟨hcore, hok.av, fun i => ?_, hok.toxAvs, hok.pointer, fun i a hfield => ?_,
      fun i hi => ?_, hok.held, fun a ha => (hlive _).mpr (.inl (hok.outlive a ha))⟩
    · simp only [setCore, hlive]
      by_cases heq : i = s.core.handles.length <;> simp [heq, hok.toxes i]
    · by_cases heq : i = s.core.handles.length
      · simp [setCore, heq] at hfield
      · simp only [setCore, Function.update_of_ne heq] at hfield
        obtain ⟨htox, hlt, hav⟩ := hok.field i a hfield
        exact ⟨htox, hlt, fun hi => hav (hreach i heq hi)⟩
    · by_cases heq : i = s.core.handles.length
      · exact (husable i).mpr (.inr heq)
      · exact (husable i).mpr (.inl (hok.reachable i (hreach i heq hi)))

/-- A new session on a core that can be reached and is open. -/
theorem Ok.openSession {av : Handles} {toxes : ℕ → Option NewTox} (hok : s.Ok)
    (hc : (s.cores c).held = true) (hcore : s.core.isLive c) (hav : av.Ok)
    (hlen : av.handles.length = s.av.handles.length + 1)
    (hlive : ∀ i, av.isLive i ↔ s.av.isLive i ∨ i = s.av.handles.length)
    (husable : ∀ i, av.Usable i ↔ s.av.Usable i ∨ i = s.av.handles.length)
    (htoxes : ∀ i, (toxes i).isSome = (s.toxes i).isSome) :
    (setAv { s with
        av, toxes
        toxAvs := Function.update s.toxAvs s.av.handles.length (some { tox := c }) }
      s.av.handles.length { tox := c, held := true }).Ok := by
  have hreach : ∀ i, (setAv { s with
        av, toxes
        toxAvs := Function.update s.toxAvs s.av.handles.length (some { tox := c }) }
      s.av.handles.length { tox := c, held := true }).CoreReachable i → s.CoreReachable i := by
    rintro i (hheld | ⟨a, hlt, hheld, htox⟩)
    · exact .inl hheld
    · by_cases heq : a = s.av.handles.length
      · simp only [setAv, heq, Function.update_self] at htox
        rw [← htox]
        exact .inl hc
      · simp only [setAv, Function.update_of_ne heq] at hlt hheld htox
        exact .inr ⟨a, by omega, hheld, htox⟩
  refine ⟨hok.core, hav, fun i => ?_, fun i => ?_, fun i av' hi => ?_, fun i a hfield => ?_,
    fun i hi => hok.reachable i (hreach i hi), fun i hi => (husable i).mpr ?_, fun i hi => ?_⟩
  · simp only [setAv, htoxes]
    exact hok.toxes i
  · simp only [setAv, hlive]
    by_cases heq : i = s.av.handles.length <;> simp [heq, hok.toxAvs i]
  · by_cases heq : i = s.av.handles.length
    · simp only [setAv, heq, Function.update_self, Option.some.injEq] at hi ⊢
      rw [← hi]
    · simp only [setAv, Function.update_of_ne heq] at hi ⊢
      exact hok.pointer i av' hi
  · obtain ⟨htox, hlt, hused⟩ := hok.field i a hfield
    have hne : a ≠ s.av.handles.length := by omega
    simp only [setAv, Function.update_of_ne hne]
    exact ⟨htox, by omega, fun hi => (husable a).mpr (.inl (hused (hreach i hi)))⟩
  · by_cases heq : i = s.av.handles.length
    · exact .inr heq
    · simp only [setAv, Function.update_of_ne heq] at hi
      exact .inl (hok.held i hi)
  · by_cases heq : i = s.av.handles.length
    · simpa [setAv, heq] using hcore
    · simp only [setAv, Function.update_of_ne heq] at hi ⊢
      exact hok.outlive i (((hlive i).mp hi).resolve_right heq)

/-- `toxAvNew` on an open core, unless it goes through a null pointer. -/
theorem Ok.toxAvNew (hok : s.Ok) (hc : (s.cores c).held = true) (hcore : s.core.isLive c)
    (hbound : s.av.outstanding < 2 ^ 31 - 1) (created grows : Bool) :
    (∃ s', s.toxAvNew c created grows = .ok (none, s') ∧
        (s'.setAv s.av.handles.length { tox := c, held := true }).Ok ∧
        s'.av.Usable s.av.handles.length) ∨
      ∃ e, s.toxAvNew c created grows = .error e ∧ e ≠ toxDeleted := by
  have hwith := Handles.withInstance_effect hok.core hcore
  obtain ⟨newTox, htox⟩ := Option.isSome_iff_exists.mp ((hok.toxes c).mpr hcore)
  by_cases hhas : newTox.hasAv
  · right
    refine ⟨"toxav_callback_call(nullptr), TOXAV_ERR_NEW_MULTIPLE", ?_, by decide⟩
    simp only [Program.toxAvNew, hwith, Checked.ok_bind, newToxAvNew, htox, hhas, if_true]
    rfl
  cases created with
  | false =>
    right
    refine ⟨"toxav_callback_call(nullptr), TOXAV_ERR_NEW_MALLOC", ?_, by decide⟩
    simp only [Program.toxAvNew, hwith, Checked.ok_bind, newToxAvNew, htox, hhas, if_false,
      Bool.false_eq_true, Bool.not_false, if_true]
    rfl
  | true =>
    left
    obtain ⟨number, av, hrun, hav, hlen, hlive, husable⟩ :=
      Handles.add_effect hok.av hbound grows
    have htoxes : ∀ i, (Function.update s.toxes c (some { newTox with hasAv := true }) i).isSome =
        (s.toxes i).isSome := by
      intro i
      by_cases heq : i = c
      · subst heq
        simp [htox]
      · simp [heq]
    have hnew := hok.openSession hc hcore hav hlen hlive husable htoxes
    refine ⟨_, ?_, hnew, (husable _).mpr (.inr rfl)⟩
    simp only [Program.toxAvNew, hwith, Checked.ok_bind, newToxAvNew, htox, hhas, if_false,
      Bool.false_eq_true, Bool.not_true, hrun]
    rfl

/-- A new session. -/
theorem Ok.newToxAvImpl (hok : s.Ok) (hc : (s.cores c).held = true) (hcore : s.core.isLive c)
    (hbound : s.av.outstanding < 2 ^ 31 - 1) (created grows : Bool) :
    (∃ s', s.newToxAvImpl c created grows = .ok (none, s') ∧ s'.Ok) ∨
      ∃ e, s.newToxAvImpl c created grows = .error e ∧ e ≠ toxDeleted := by
  have hincomplete : (s.setField c .incomplete).Ok := hok.setField (by simp)
  have hheld : ((s.setField c .incomplete).cores c).held = true := by
    rw [held_setField, hc]
  rcases hincomplete.toxAvNew hheld hcore hbound created grows with
    ⟨s', hrun, hok', husable⟩ | ⟨e, hrun, hne⟩
  · left
    refine ⟨_, by simp only [Program.newToxAvImpl, hrun, Checked.ok_bind]; rfl,
      hok'.setField fun a ha => ?_⟩
    cases ha
    refine ⟨?_, husable.lt_length, fun _ => husable⟩
    simp [setAv]
  · right
    refine ⟨e, ?_, hne⟩
    simp only [Program.newToxAvImpl, hrun]
    rfl

/-! ## Every step -/

/-- The program drops its references to a core. -/
theorem Ok.dropCore (hok : s.Ok) :
    (s.setCore c { s.cores c with held := false }).Ok := by
  have hreach : ∀ i, (s.setCore c { s.cores c with held := false }).CoreReachable i →
      s.CoreReachable i := by
    rintro i (hheld | hav)
    · left
      by_cases heq : i = c
      · simp [setCore, heq] at hheld
      · simpa [setCore, heq] using hheld
    · exact .inr hav
  refine ⟨hok.core, hok.av, hok.toxes, hok.toxAvs, hok.pointer, fun i a hfield => ?_,
    fun i hi => hok.reachable i (hreach i hi), hok.held, hok.outlive⟩
  have hsame : (s.cores i).av = .session a := by
    by_cases heq : i = c
    · simpa [setCore, heq] using hfield
    · simpa [setCore, heq] using hfield
  obtain ⟨htox, hlt, husable⟩ := hok.field i a hsame
  exact ⟨htox, hlt, fun hi => husable (hreach i hi)⟩

/-- The program drops its references to a session. -/
theorem Ok.dropAv (hok : s.Ok) : (s.setAv a { s.avs a with held := false }).Ok := by
  have htox : ∀ i, ((s.setAv a { s.avs a with held := false }).avs i).tox = (s.avs i).tox := by
    intro i
    by_cases heq : i = a <;> simp [setAv, heq]
  have hheld : ∀ i, ((s.setAv a { s.avs a with held := false }).avs i).held = true →
      (s.avs i).held = true := by
    intro i hi
    by_cases heq : i = a
    · simp [setAv, heq] at hi
    · simpa [setAv, heq] using hi
  have hreach : ∀ i, (s.setAv a { s.avs a with held := false }).CoreReachable i →
      s.CoreReachable i := by
    rintro i (hcore | ⟨j, hlt, hj, hji⟩)
    · exact .inl hcore
    · exact .inr ⟨j, hlt, hheld j hj, (htox j).symm.trans hji⟩
  refine ⟨hok.core, hok.av, hok.toxes, hok.toxAvs, fun i av hi => ?_, fun i j hfield => ?_,
    fun i hi => hok.reachable i (hreach i hi), fun i hi => hok.held i (hheld i hi),
    fun i hi => ?_⟩
  · rw [htox]
    exact hok.pointer i av hi
  · obtain ⟨hj, hlt, husable⟩ := hok.field i j hfield
    exact ⟨(htox j).trans hj, hlt, fun hi => husable (hreach i hi)⟩
  · rw [htox]
    exact hok.outlive i hi

/-- An orderly step keeps the invariant, and touches no `new_Tox` that was deleted. -/
theorem Ok.step (hok : s.Ok) (op : JavaOp) (hallowed : s.Allowed op) (horderly : s.Orderly op) :
    (∃ s', s.run op = .ok s' ∧ s'.Ok) ∨ ∃ e, s.run op = .error e ∧ e ≠ toxDeleted := by
  cases op with
  | newCore created grows => exact .inl (hok.newToxCoreImpl horderly created grows)
  | newAv c created grows =>
    obtain ⟨hc, hcore, -⟩ := hallowed
    rcases hok.newToxAvImpl hc hcore horderly created grows with ⟨s', hrun, hok'⟩ | ⟨e, hrun, hne⟩
    · exact .inl ⟨s', by simp [run, hrun], hok'⟩
    · exact .inr ⟨e, by simp only [run, hrun]; rfl, hne⟩
  | closeCore c =>
    obtain ⟨e, s', hrun, hok'⟩ := hok.closeCore hallowed fun hlive a ha =>
      horderly hlive a (Handles.usable_of_isLive ha.1).lt_length ha
    exact .inl ⟨s', by simp [run, hrun], hok'⟩
  | closeAv a =>
    obtain ⟨s', hrun, hok', -⟩ := hok.closeAv (hok.held a hallowed)
    exact .inl ⟨s', by simp [run, hrun], hok'⟩
  | dropCore c => exact .inl ⟨_, rfl, hok.dropCore⟩
  | dropAv a => exact .inl ⟨_, rfl, hok.dropAv⟩
  | finalizeCore c =>
    obtain ⟨s', hrun, hok'⟩ := hok.coreFinalize hallowed.1 hallowed.2 fun hlive a ha =>
      horderly hlive a (Handles.usable_of_isLive ha.1).lt_length ha
    exact .inl ⟨s', by simp [run, hrun], hok'⟩
  | finalizeAv a =>
    obtain ⟨s', hrun, hok'⟩ := hok.avFinalize hallowed.1 hallowed.2
    exact .inl ⟨s', by simp [run, hrun], hok'⟩

theorem ok_of_run {ops : List JavaOp}
    (h : Run (Guarded (fun s op => s.Allowed op ∧ s.Orderly op) Step) {} ops s) : s.Ok :=
  Run.invariant ok_init (fun s op s' hok hstep => by
    obtain ⟨⟨hallowed, horderly⟩, hrun⟩ := hstep
    rcases hok.step op hallowed horderly with ⟨s'', hrun', hok'⟩ | ⟨e, hrun', -⟩
    · cases hrun.symm.trans hrun'
      exact hok'
    · cases hrun.symm.trans hrun') h

/-- The native objects that exist are those of the objects that are open. -/
theorem Ok.coresOutlive (hok : s.Ok) : s.CoresOutlive := by
  intro a av hav
  have hlive := (hok.toxAvs a).mp (Option.isSome_iff_exists.mpr ⟨av, hav⟩)
  rw [hok.pointer a av hav]
  exact (hok.toxes _).mpr (hok.outlive a hlive)

end

end Program

/-- In every sequence of operations that closes and finalizes in an orderly way, each
    `new_ToxAV` that exists has its `new_Tox`, and no operation touches a deleted `new_Tox`. -/
theorem core_outlives_session {ops : List JavaOp} {s : Program}
    (h : Run (Guarded (fun s op => s.Allowed op ∧ s.Orderly op) Program.Step) {} ops s) :
    s.CoresOutlive ∧
      ∀ op, s.Allowed op → s.Orderly op → s.run op ≠ .error Program.toxDeleted := by
  have hok := Program.ok_of_run h
  refine ⟨hok.coresOutlive, fun op hallowed horderly herror => ?_⟩
  rcases hok.step op hallowed horderly with ⟨s', hrun, -⟩ | ⟨e, hrun, hne⟩
  · rw [hrun] at herror
    cases herror
  · rw [hrun] at herror
    exact hne (Except.error.inj herror)

/-- A session is closed and another one opened; the core is closed with that and finalized
    after the sessions. -/
def secondSession : List JavaOp :=
  [.newCore true true, .newAv 0 true true, .closeAv 0, .newAv 0 true true, .closeCore 0,
    .dropCore 0, .dropAv 0, .dropAv 1, .finalizeAv 1, .finalizeCore 0, .newCore true false,
    .newAv 1 true false]

theorem core_outlives_session_secondSession : ∃ s,
    Run (Guarded (fun s op => s.Allowed op ∧ s.Orderly op) Program.Step) {} secondSession s ∧
    s.toxAvs 2 = some { tox := 1 } ∧ s.CoresOutlive := by
  have hrun : (do
      let s ← Program.runOps (fun s op => s.Allowed op ∧ s.Orderly op) {} secondSession
      return s.toxAvs 2) = (.ok (some { tox := 1 }) : Checked _) := by
    decide +kernel
  simp only [Checked.bind_eq_ok, Checked.pure_eq_ok] at hrun
  obtain ⟨s, hrun, hav⟩ := hrun
  have h := Program.run_of_runOps hrun
  exact ⟨s, h, hav, (core_outlives_session h).1⟩

/-! ## Programs that are not orderly -/

namespace Program

/-- How an operation fails. -/
def failure (s : Program) (op : JavaOp) : Option String :=
  match s.run op with
  | .error e => some e
  | .ok _ => none

theorem run_of_failure {s : Program} {op : JavaOp} {e : String} (h : s.failure op = some e) :
    s.run op = .error e := by
  unfold failure at h
  split at h
  · rename_i hrun
    rw [hrun, Option.some.inj h]
  · cases h

/-- A run after which a session has lost its core, and the next operation fails. -/
theorem loses_core {ops : List JavaOp} {op : JavaOp} {e : String} (a tox : ℕ)
    (h : (do
      let s ← runOps Allowed {} ops
      return (s.toxAvs a, s.toxes tox, decide (s.Allowed op), s.failure op)) =
        (.ok (some { tox }, none, true, some e) : Checked _)) :
    ∃ s, Run (Guarded Allowed Step) {} ops s ∧ ¬ s.CoresOutlive ∧ s.Allowed op ∧
      s.run op = .error e := by
  simp only [Checked.bind_eq_ok, Checked.pure_eq_ok, Prod.mk.injEq, decide_eq_true_eq] at h
  obtain ⟨s, hrun, hav, htox, hallowed, hfail⟩ := h
  refine ⟨s, run_of_runOps hrun, fun houtlive => ?_, hallowed, run_of_failure hfail⟩
  have hsome := houtlive a _ hav
  rw [htox] at hsome
  cases hsome

end Program

/-- The first session is closed once more while the second one is open. -/
def closedAgain : List JavaOp :=
  [.newCore true true, .newAv 0 true true, .closeAv 0, .newAv 0 true true, .closeAv 0,
    .closeCore 0]

/-- A core and its open session cannot be reached any longer, and the core is finalized first. -/
def coreFinalizedFirst : List JavaOp :=
  [.newCore true true, .newAv 0 true true, .dropCore 0, .dropAv 0, .finalizeCore 0]

/-- In both cases the `new_Tox` is deleted before the `new_ToxAV`, which is deleted next. -/
theorem session_outlives_core :
    (∃ s, Run (Guarded Program.Allowed Program.Step) {} closedAgain s ∧ ¬ s.CoresOutlive ∧
      s.Allowed (.closeAv 1) ∧ s.run (.closeAv 1) = .error Program.toxDeleted) ∧
    ∃ s, Run (Guarded Program.Allowed Program.Step) {} coreFinalizedFirst s ∧ ¬ s.CoresOutlive ∧
      s.Allowed (.finalizeAv 0) ∧ s.run (.finalizeAv 0) = .error Program.toxDeleted := by
  constructor
  · exact Program.loses_core 1 0 (by decide +kernel)
  · exact Program.loses_core 0 0 (by decide +kernel)

end Tox4j.Java
