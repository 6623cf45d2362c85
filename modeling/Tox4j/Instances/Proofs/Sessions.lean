import Tox4j.Instances.Proofs.Managers
import Tox4j.Instances.Sessions

/-!
# Core and A/V calls on one Tox

The mutexes keep two threads apart that use one instance of one manager, and `has_av` keeps a Tox
from having two sessions. Nothing keeps a core call and an A/V call on the same Tox apart, so they
are exactly when no thread gets into native code of one manager while another thread is inside
native code of the other.
-/

namespace Tox4j.Instances

open Tox4j.Misc ToxInstance

section

variable {T : Type} [DecidableEq T] {s s' : Threads T} {t : T}

/-- A step gets the thread into native code exactly when it is about to, and moves no other. -/
theorem Moves.works (hm : Moves s t s') :
    (s'.pc t).works = (s.pc t).starts ∧ ∀ t', t' ≠ t → s'.pc t' = s.pc t' := by
  have hpc : ∃ pc, s'.pc = Function.update s.pc t pc ∧ pc.works = (s.pc t).starts := by
    cases hm with
    | @lockManager op hp =>
      refine ⟨_, rfl, ?_⟩
      rw [hp]
      cases op <;> rfl
    | quiet hp hq =>
      refine ⟨_, rfl, ?_⟩
      rw [hp]
      cases hq <;> rfl
    | changes hp hc =>
      refine ⟨_, rfl, ?_⟩
      rw [hp]
      cases hc <;> rfl
    | @destroy k freed hp =>
      refine ⟨_, rfl, ?_⟩
      rw [hp]
      cases freed <;> rfl
    | lockDying hp | unlockDying hp | lockInstance hp | handOver hp | unlockInstance hp
    | unlockManager hp =>
      refine ⟨_, rfl, ?_⟩
      rw [hp]
      rfl
  obtain ⟨pc, heq, hworks⟩ := hpc
  rw [heq]
  constructor
  · rw [Function.update_self]
    exact hworks
  · intro t' hne
    exact Function.update_of_ne hne pc s.pc

theorem Moves.created (hm : Moves s t s') : s'.created = s.created := by
  cases hm <;> rfl

/-- A step destroys the object that the thread is about to destroy, or none. -/
theorem Moves.destroyed_cases (hm : Moves s t s') :
    (∃ k freed, s.pc t = .destroy (obj k) freed ∧ s'.destroyed = s.destroyed ++ [k]) ∨
      (∀ dying freed, s.pc t ≠ .destroy dying freed) ∧ s'.destroyed = s.destroyed := by
  cases hm with
  | destroy hp => exact .inl ⟨_, _, hp, rfl⟩
  | quiet hp hq =>
    refine .inr ⟨?_, rfl⟩
    intro dying freed heq
    rw [hp] at heq
    subst heq
    cases hq
  | changes hp hc =>
    refine .inr ⟨?_, rfl⟩
    intro dying freed heq
    rw [hp] at heq
    subst heq
    cases hc
  | lockManager hp | lockDying hp | unlockDying hp | lockInstance hp | handOver hp
  | unlockInstance hp | unlockManager hp =>
    refine .inr ⟨?_, rfl⟩
    intro dying freed heq
    rw [hp] at heq
    cases heq

end

namespace Threads

section

variable {T : Type} {s : Threads T} {t t' : T} {k : ℕ}

/-- Only `add` creates an object, and no operation destroys one when it is entered. -/
theorem start_same [DecidableEq T] (s : Threads T) (t : T) (entry : Entry)
    (hadd : entry.isAdd = false) :
    (s.start t entry).created = s.created ∧ (s.start t entry).destroyed = s.destroyed := by
  cases entry with
  | add => cases hadd
  | kill => exact ⟨rfl, rfl⟩
  | finalize n | withInstance n =>
    by_cases hzero : n = 0
    · simp [start, hzero]
    · simp [start, hzero, goto]

/-- A thread that enters an operation is not in native code yet. -/
theorem start_works [DecidableEq T] {entry : Entry}
    (hworks : ((s.start t entry).pc t').works = some k) : (s.pc t').works = some k := by
  have hgoto : ∀ (s : Threads T) op, ((s.goto t (.lockManager op)).pc t').works = some k →
      (s.pc t').works = some k := by
    intro s op hworks
    by_cases heq : t' = t
    · subst heq
      rw [goto_pc_self] at hworks
      cases hworks
    · rwa [goto_pc_ne heq] at hworks
  cases entry with
  | add => exact hgoto { s with created := s.created + 1 } _ hworks
  | kill => exact hgoto s _ hworks
  | finalize n | withInstance n =>
    by_cases hzero : n = 0
    · simpa [start, hzero] using hworks
    · simp only [start, hzero, if_false] at hworks
      exact hgoto s _ hworks

theorem Ok.works_cases (h : s.Ok) (hworks : (s.pc t).works = some k) :
    s.pc t = .inFunc (obj k) k ∨ ∃ freed, s.pc t = .destroy (obj k) freed := by
  have hpc := h.slots.pc t
  generalize s.pc t = pc at hpc hworks ⊢
  cases pc with
  | inFunc inst mutex =>
    obtain rfl := hpc
    obtain rfl : mutex = k := Option.some.inj hworks
    exact .inl rfl
  | destroy dying freed =>
    obtain ⟨⟨k', rfl⟩, -⟩ := hpc
    obtain rfl : k' = k := Option.some.inj hworks
    exact .inr ⟨freed, rfl⟩
  | _ => cases hworks

/-- An object that is worked on exists. -/
theorem Ok.works_alive (h : s.Ok) (hworks : (s.pc t).works = some k) :
    k < s.created ∧ k ∉ s.destroyed := by
  rcases h.works_cases hworks with hp | ⟨freed, hp⟩
  · obtain ⟨p, hat, -⟩ := h.objects.use t k (by rw [hp]; rfl)
    exact h.objects.fresh k p hat
  · refine h.objects.fresh k (.thread t) ?_
    rw [At, hp]
    rfl

/-- Only one thread works on an object. -/
theorem Ok.works_unique (h : s.Ok) (hworks : (s.pc t).works = some k)
    (hworks' : (s.pc t').works = some k) : t = t' := by
  rcases h.works_cases hworks with hp | ⟨freed, hp⟩
  · rcases h.works_cases hworks' with hp' | ⟨freed', hp'⟩
    · exact h.locks.eq_of_heldMutex (by rw [hp]; rfl) (by rw [hp']; rfl)
    · exact absurd ⟨_, _, hp, rfl⟩ (h.not_in_use hp' t).1
  · rcases h.works_cases hworks' with hp' | ⟨freed', hp'⟩
    · exact absurd ⟨_, _, hp', rfl⟩ (h.not_in_use hp t').1
    · have hat : s.At k (.thread t) := by
        rw [At, hp]
        rfl
      have hat' : s.At k (.thread t') := by
        rw [At, hp']
        rfl
      exact Place.thread.inj (h.objects.unique k _ _ hat hat')

end

end Threads

namespace Sessions

section

variable {T : Type} [DecidableEq T] {s s' : Sessions T} {turn : Turn T}

/-- The session has been created and not destroyed. -/
def Alive (s : Sessions T) (av : ℕ) : Prop :=
  av < s.managers.av.created ∧ av ∉ s.managers.av.destroyed

/-- The invariant: no Tox has two sessions, and `has_av` is set for those that have one. -/
structure Ok (s : Sessions T) : Prop where
  core : s.managers.core.Ok
  av : s.managers.av.Ok
  one : ∀ a a', s.Alive a → s.Alive a' → s.toxOf a = s.toxOf a' → a = a'
  hasAv : ∀ a, s.Alive a → s.hasAv (s.toxOf a) = true

omit [DecidableEq T] in
theorem Ok.start : ({} : Sessions T).Ok where
  core := Threads.ok_init
  av := Threads.ok_init
  one a _ halive := absurd halive.1 (Nat.not_lt_zero a)
  hasAv a halive := absurd halive.1 (Nat.not_lt_zero a)

omit [DecidableEq T] in
/-- A step that neither creates nor destroys a session. -/
theorem Ok.same (h : s.Ok) (hcore : s'.managers.core.Ok) (hav : s'.managers.av.Ok)
    (hcreated : s'.managers.av.created = s.managers.av.created)
    (hdestroyed : s'.managers.av.destroyed = s.managers.av.destroyed)
    (htoxOf : s'.toxOf = s.toxOf) (hhasAv : s'.hasAv = s.hasAv) : s'.Ok := by
  have halive : ∀ a, s'.Alive a ↔ s.Alive a := by
    intro a
    rw [Alive, Alive, hcreated, hdestroyed]
  refine ⟨hcore, hav, ?_, ?_⟩
  · intro a a' ha ha' heq
    rw [htoxOf] at heq
    exact h.one a a' ((halive a).mp ha) ((halive a').mp ha') heq
  · intro a ha
    rw [htoxOf, hhasAv]
    exact h.hasAv a ((halive a).mp ha)

omit [DecidableEq T] in
/-- A session is created for a Tox that has none. -/
theorem Ok.create (h : s.Ok) {tox : ℕ} (hcore : s'.managers.core.Ok) (hav : s'.managers.av.Ok)
    (hcreated : s'.managers.av.created = s.managers.av.created + 1)
    (hdestroyed : s'.managers.av.destroyed = s.managers.av.destroyed)
    (hnone : s.hasAv tox = false)
    (htoxOf : s'.toxOf = Function.update s.toxOf s.managers.av.created tox)
    (hhasAv : s'.hasAv = Function.update s.hasAv tox true) : s'.Ok := by
  have halive : ∀ a, s'.Alive a → a = s.managers.av.created ∧ s'.toxOf a = tox ∨
      s.Alive a ∧ s'.toxOf a = s.toxOf a ∧ s.toxOf a ≠ tox := by
    intro a ha
    rw [Alive, hcreated, hdestroyed] at ha
    by_cases hnew : a = s.managers.av.created
    · subst hnew
      exact .inl ⟨rfl, by rw [htoxOf, Function.update_self]⟩
    · have hold : s.Alive a := ⟨by omega, ha.2⟩
      refine .inr ⟨hold, by rw [htoxOf, Function.update_of_ne hnew], ?_⟩
      intro heq
      have htrue := h.hasAv a hold
      rw [heq, hnone] at htrue
      cases htrue
  refine ⟨hcore, hav, ?_, ?_⟩
  · intro a a' ha ha' heq
    rcases halive a ha with ⟨rfl, hnew⟩ | ⟨hold, hsame, hne⟩
    · rcases halive a' ha' with ⟨rfl, -⟩ | ⟨-, hsame', hne'⟩
      · rfl
      · exact absurd (hsame'.symm.trans (heq.symm.trans hnew)) hne'
    · rcases halive a' ha' with ⟨rfl, hnew'⟩ | ⟨hold', hsame', -⟩
      · exact absurd (hsame.symm.trans (heq.trans hnew')) hne
      · exact h.one a a' hold hold' (hsame.symm.trans (heq.trans hsame'))
  · intro a ha
    rw [hhasAv]
    rcases halive a ha with ⟨-, hnew⟩ | ⟨hold, hsame, hne⟩
    · rw [hnew, Function.update_self]
    · rw [hsame, Function.update_of_ne hne]
      exact h.hasAv a hold

omit [DecidableEq T] in
/-- A session is destroyed. -/
theorem Ok.destroy (h : s.Ok) {av : ℕ} (hcore : s'.managers.core.Ok) (hav : s'.managers.av.Ok)
    (hcreated : s'.managers.av.created = s.managers.av.created)
    (hdestroyed : s'.managers.av.destroyed = s.managers.av.destroyed ++ [av])
    (halive : s.Alive av) (htoxOf : s'.toxOf = s.toxOf)
    (hhasAv : s'.hasAv = Function.update s.hasAv (s.toxOf av) false) : s'.Ok := by
  have hold : ∀ a, s'.Alive a → s.Alive a ∧ a ≠ av := by
    intro a ha
    rw [Alive, hcreated, hdestroyed, List.mem_append, List.mem_singleton, not_or] at ha
    exact ⟨⟨ha.1, ha.2.1⟩, ha.2.2⟩
  refine ⟨hcore, hav, ?_, ?_⟩
  · intro a a' ha ha' heq
    rw [htoxOf] at heq
    exact h.one a a' (hold a ha).1 (hold a' ha').1 heq
  · intro a ha
    obtain ⟨hbefore, hne⟩ := hold a ha
    rw [htoxOf, hhasAv, Function.update_of_ne]
    · exact h.hasAv a hbefore
    · intro heq
      exact hne (h.one a av hbefore halive heq)

omit [DecidableEq T] in
/-- What `toxAvNew` has found when it adds a session. -/
theorem exists_of_allowed {t : T} {grows : Bool}
    (hallowed : s.allowed (.enterAv t (.add grows)) = true) :
    ∃ tox, (s.managers.core.pc t).works = some tox ∧ s.hasAv tox = false := by
  simp only [allowed] at hallowed
  split at hallowed
  · next inst mutex hp =>
    obtain ⟨tox, htox, hnone⟩ := (Option.any_eq_true _ _).mp hallowed
    refine ⟨tox, ?_, Bool.not_eq_true' _ |>.mp hnone⟩
    rw [hp]
    exact htox
  · cases hallowed

omit [DecidableEq T] in
/-- The Tox of a session does not change. -/
theorem toxOfAfter_of_lt {t : T} {entry : Entry} {av : ℕ} (hlt : av < s.managers.av.created) :
    s.toxOfAfter (.enterAv t entry) av = s.toxOf av := by
  cases entry with
  | add grows =>
    simp only [toxOfAfter]
    cases (s.managers.core.pc t).works with
    | some tox => exact Function.update_of_ne hlt.ne tox s.toxOf
    | none => rfl
  | kill | finalize | withInstance => rfl

theorem Ok.step (h : s.Ok) (hstep : s.Step turn s') : s'.Ok := by
  obtain ⟨hallowed, hmanagers, htoxOf, hhasAv⟩ := hstep
  obtain ⟨hcore, hav⟩ := Managers.ok_step h.core h.av hmanagers
  cases turn with
  | enterCore t entry =>
    obtain ⟨-, -, heq⟩ := hmanagers
    exact h.same hcore hav (by rw [heq]) (by rw [heq]) htoxOf hhasAv
  | enterAv t entry =>
    obtain ⟨-, -, heq⟩ := hmanagers
    cases entry with
    | add grows =>
      obtain ⟨tox, hworks, hnone⟩ := exists_of_allowed hallowed
      simp only [toxOfAfter, hasAvAfter, hworks] at htoxOf hhasAv
      exact h.create hcore hav (by rw [heq]; rfl) (by rw [heq]; rfl) hnone htoxOf hhasAv
    | kill n =>
      exact h.same hcore hav (by rw [heq]; rfl) (by rw [heq]; rfl) htoxOf hhasAv
    | finalize n =>
      obtain ⟨hcreated, hdestroyed⟩ := s.managers.av.start_same t (.finalize n) rfl
      exact h.same hcore hav (by rw [heq]; exact hcreated) (by rw [heq]; exact hdestroyed)
        htoxOf hhasAv
    | withInstance n =>
      obtain ⟨hcreated, hdestroyed⟩ := s.managers.av.start_same t (.withInstance n) rfl
      exact h.same hcore hav (by rw [heq]; exact hcreated) (by rw [heq]; exact hdestroyed)
        htoxOf hhasAv
  | core t =>
    obtain ⟨-, core, -, heq⟩ := hmanagers
    exact h.same hcore hav (by rw [heq]) (by rw [heq]) htoxOf hhasAv
  | av t =>
    obtain ⟨av, hadvance, heq⟩ := hmanagers
    have hmoves := h.av.moves_of_advance hadvance
    have hcreated : s'.managers.av.created = s.managers.av.created := by
      rw [heq]
      exact hmoves.created
    rcases hmoves.destroyed_cases with ⟨k, freed, hp, hdestroyed⟩ | ⟨hp, hdestroyed⟩
    · refine h.destroy hcore hav hcreated (by rw [heq]; exact hdestroyed)
        (h.av.works_alive (by rw [hp]; rfl)) htoxOf ?_
      rw [hhasAv, hasAvAfter, hp]
      rfl
    · refine h.same hcore hav hcreated (by rw [heq]; exact hdestroyed) htoxOf ?_
      rw [hhasAv, hasAvAfter]
      split
      · next dying freed hdestroy => exact absurd hdestroy (hp dying freed)
      · rfl

omit [DecidableEq T] in
/-- Threads that use the same manager are kept apart, so only a core call and an A/V call can be on
    the same Tox. -/
theorem Ok.exclusive_iff_mixed (h : s.Ok) : s.Exclusive ↔ ∀ t t' av,
    (s.managers.core.pc t).works = some (s.toxOf av) → (s.managers.av.pc t').works = some av →
      t = t' := by
  constructor
  · intro hexclusive t t' av hcore hav
    exact hexclusive t t' (s.toxOf av) (.inl hcore) (.inr ⟨av, hav, rfl⟩)
  · intro hmixed t t' tox hworks hworks'
    rcases hworks with hcore | ⟨av, hav, rfl⟩
    · rcases hworks' with hcore' | ⟨av', hav', rfl⟩
      · exact h.core.works_unique hcore hcore'
      · exact hmixed t t' av' hcore hav'
    · rcases hworks' with hcore' | ⟨av', hav', heq⟩
      · exact (hmixed t' t av hcore' hav).symm
      · obtain rfl := h.one av' av (h.av.works_alive hav') (h.av.works_alive hav) heq
        exact h.av.works_unique hav hav'

omit [DecidableEq T] in
theorem exclusive_start : ({} : Sessions T).Exclusive := by
  intro t t' tox hworks
  rcases hworks with hcore | ⟨av, hav, -⟩
  · cases hcore
  · cases hav

/-- One step keeps threads apart exactly when it meets the condition. -/
theorem Ok.exclusive_step_iff (h : s.Ok) (hexclusive : s.Exclusive) (hstep : s.Step turn s') :
    s'.Exclusive ↔ s.Apart turn := by
  rw [(h.step hstep).exclusive_iff_mixed]
  rw [h.exclusive_iff_mixed] at hexclusive
  obtain ⟨-, hmanagers, htoxOf, -⟩ := hstep
  cases turn with
  | enterCore t entry =>
    obtain ⟨-, -, heq⟩ := hmanagers
    refine iff_of_true ?_ trivial
    intro t₁ t₂ av hcore hav
    rw [heq] at hcore hav
    rw [htoxOf] at hcore
    exact hexclusive t₁ t₂ av (Threads.start_works hcore) hav
  | enterAv t entry =>
    obtain ⟨-, -, heq⟩ := hmanagers
    refine iff_of_true ?_ trivial
    intro t₁ t₂ av hcore hav
    rw [heq] at hcore hav
    have hold := Threads.start_works hav
    rw [htoxOf, toxOfAfter_of_lt (h.av.works_alive hold).1] at hcore
    exact hexclusive t₁ t₂ av hcore hold
  | core t =>
    obtain ⟨-, core, hadvance, heq⟩ := hmanagers
    obtain ⟨hself, hothers⟩ := (h.core.moves_of_advance hadvance).works
    rw [heq, htoxOf]
    constructor
    · intro hmixed tox hstarts t' av hne hav htox
      exact hne (hmixed t t' av (by rw [hself, hstarts, ← htox]; rfl) hav).symm
    · intro hapart t₁ t₂ av hcore hav
      by_cases hmoved : t₁ = t
      · subst hmoved
        rw [hself] at hcore
        by_contra hne
        exact hapart _ hcore t₂ av (Ne.symm hne) hav rfl
      · rw [hothers t₁ hmoved] at hcore
        exact hexclusive t₁ t₂ av hcore hav
  | av t =>
    obtain ⟨avs, hadvance, heq⟩ := hmanagers
    obtain ⟨hself, hothers⟩ := (h.av.moves_of_advance hadvance).works
    rw [heq, htoxOf]
    constructor
    · intro hmixed av hstarts t' hne hcore
      exact hne (hmixed t' t av hcore (hself.trans hstarts))
    · intro hapart t₁ t₂ av hcore hav
      by_cases hmoved : t₂ = t
      · subst hmoved
        rw [hself] at hav
        by_contra hne
        exact hapart av hav t₁ hne hcore
      · rw [hothers t₂ hmoved] at hav
        exact hexclusive t₁ t₂ av hcore hav

/-- The runs in which no two threads are ever inside native code that works on one Tox are those in
    which every thread stays out of native code of one manager while another thread is inside native
    code of the other manager that works on the same Tox. -/
theorem tox_exclusive_iff (turns : List (Turn T)) (s : Sessions T) :
    Run StepExclusive {} turns s ↔ Run (Guarded Apart Step) {} turns s := by
  constructor
  · intro h
    have hstate : s.Ok ∧ s.Exclusive ∧ Run (Guarded Apart Step) {} turns s := by
      induction h with
      | nil => exact ⟨.start, exclusive_start, .nil⟩
      | snoc _ hstep ih =>
        obtain ⟨hok, hexclusive, hrun⟩ := ih
        have hapart := (hok.exclusive_step_iff hexclusive hstep.1).mp hstep.2
        exact ⟨hok.step hstep.1, hstep.2, .snoc hrun ⟨hapart, hstep.1⟩⟩
    exact hstate.2.2
  · intro h
    have hstate : s.Ok ∧ s.Exclusive ∧ Run StepExclusive {} turns s := by
      induction h with
      | nil => exact ⟨.start, exclusive_start, .nil⟩
      | snoc _ hstep ih =>
        obtain ⟨hok, hexclusive, hrun⟩ := ih
        have hnext := (hok.exclusive_step_iff hexclusive hstep.2).mpr hstep.1
        exact ⟨hok.step hstep.2, hnext, .snoc hrun ⟨hstep.2, hnext⟩⟩
    exact hstate.2.2

end

/-- A session is created, and then one thread runs the core while another runs its A/V session. -/
def iterateBoth : List (Turn Bool) :=
  [.enterCore false (.add false), .core false, .core false, .core false,
    .enterCore false (.withInstance 1), .core false, .core false, .core false, .core false,
    .enterAv false (.add false), .av false, .av false, .av false,
    .enterAv true (.withInstance 1), .av true, .av true, .av true, .av true]

theorem tox_not_exclusive : ∃ s, Run Sessions.Step {} iterateBoth s ∧ ¬ s.Exclusive := by
  have hrun : (do
      let s ← iterateBoth.foldlM exec {}
      return ((s.managers.core.pc false).works, (s.managers.av.pc true).works, s.toxOf 0)) =
        (.ok (some 0, some 0, 0) : Checked _) := by
    decide +kernel
  simp only [Checked.bind_eq_ok, Checked.pure_eq_ok, Prod.mk.injEq] at hrun
  obtain ⟨s, hrun, hcore, hav, htox⟩ := hrun
  refine ⟨s, (Run.of_foldlM hrun).mono fun _ _ _ => step_of_exec, ?_⟩
  intro hexclusive
  cases hexclusive false true 0 (.inl hcore) (.inr ⟨0, hav, htox⟩)

end Sessions

end Tox4j.Instances
