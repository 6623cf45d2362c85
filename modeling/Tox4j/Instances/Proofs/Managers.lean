import Tox4j.Instances.Managers
import Tox4j.Instances.Proofs.LockSafety
import Tox4j.Misc.LockOrder

/-!
# The two managers do not deadlock

The mutexes are always locked in the order: core manager, core instance, A/V manager, A/V
instance.
-/

namespace Tox4j.Instances

open Tox4j.Misc

/-- A mutex of one of the managers. -/
inductive AnyMutex where
  | core (mutex : SharedMutex)
  | av (mutex : SharedMutex)

/-- The order in which the mutexes are locked. -/
def AnyMutex.rank : AnyMutex → ℕ
  | .core .manager => 0
  | .core (.inst _) => 1
  | .av .manager => 2
  | .av (.inst _) => 3

namespace Threads

variable {T : Type} {s : Threads T} {t : T}

/-- The place in the code of a thread that holds a mutex. -/
theorem Locks.holderOf (h : s.Locks) {mutex : SharedMutex} (hheld : s.holderOf mutex = some t) :
    (mutex = .manager ∧ (s.pc t).holdsManager = true) ∨
      ∃ k, mutex = .inst k ∧ (s.pc t).heldMutex = some k := by
  cases mutex with
  | manager => exact .inl ⟨rfl, (h.holder t).mp hheld⟩
  | inst k => exact .inr ⟨k, rfl, (h.mutexes t k).mp hheld⟩

theorem Locks.not_idle (h : s.Locks) {mutex : SharedMutex}
    (hheld : s.holderOf mutex = some t) : s.pc t ≠ .idle := by
  intro hidle
  rcases h.holderOf hheld with ⟨-, hM⟩ | ⟨k, -, hk⟩
  · rw [hidle] at hM
    cases hM
  · rw [hidle] at hk
    cases hk

/-- Within one manager, what a thread holds when it waits is the manager's mutex, and it waits
    for the mutex of an instance. -/
theorem Locks.waits_after (h : s.Locks) {mutex mutex' : SharedMutex}
    (hheld : s.holderOf mutex = some t) (hwaits : (s.pc t).waits = some mutex') :
    mutex = .manager ∧ ∃ k, mutex' = .inst k := by
  have hhold := h.holderOf hheld
  generalize s.pc t = pc at hhold hwaits
  cases pc with
  | lockManager op => rcases hhold with ⟨-, hM⟩ | ⟨k, -, hk⟩ <;> contradiction
  | lockDying i k freed | lockInstance i k =>
    rcases hhold with ⟨rfl, -⟩ | ⟨k', -, hk'⟩
    · exact ⟨rfl, k, (Option.some.inj hwaits).symm⟩
    · cases hk'
  | _ => cases hwaits

end Threads

namespace Managers

section

variable {T : Type} [DecidableEq T] {s : Managers T}

/-- A step keeps the invariants of both managers. -/
theorem ok_step {s' : Managers T} {turn : Turn T} (hcore : s.core.Ok) (hav : s.av.Ok)
    (hstep : s.Step turn s') : s'.core.Ok ∧ s'.av.Ok := by
  cases turn with
  | enterCore t entry =>
    obtain ⟨hidle, -, rfl⟩ := hstep
    exact ⟨hcore.start hidle entry, hav⟩
  | enterAv t entry =>
    obtain ⟨hidle, -, rfl⟩ := hstep
    exact ⟨hcore, hav.start hidle entry⟩
  | core t =>
    obtain ⟨-, core, hadvance, rfl⟩ := hstep
    exact ⟨hcore.moves (hcore.moves_of_advance hadvance), hav⟩
  | av t =>
    obtain ⟨av, hadvance, rfl⟩ := hstep
    exact ⟨hcore, hav.moves (hav.moves_of_advance hadvance)⟩

/-- Both managers satisfy their invariant. -/
theorem ok_of_reachable {turns : List (Turn T)} (h : Reachable turns s) :
    s.core.Ok ∧ s.av.Ok := by
  induction h with
  | nil => exact ⟨Threads.ok_init, Threads.ok_init⟩
  | snoc _ hstep ih => exact ok_step ih.1 ih.2 hstep

/-- Who holds and who waits for the mutexes of both managers. A thread that is in an A/V
    operation goes on with that first. -/
def lockGraph (s : Managers T) : LockGraph T AnyMutex where
  busy := s.Busy
  holder
    | .core mutex => s.core.holderOf mutex
    | .av mutex => s.av.holderOf mutex
  waits t :=
    if s.av.pc t = .idle then (s.core.pc t).waits.map .core else (s.av.pc t).waits.map .av

omit [DecidableEq T] in
/-- The mutexes are locked in the order of their ranks. -/
theorem lockGraph_ordered (hcore : s.core.Locks) (hav : s.av.Locks) :
    s.lockGraph.Ordered AnyMutex.rank 3 where
  bounded mutex := by
    rcases mutex with (_ | _) | (_ | _) <;> simp [AnyMutex.rank]
  busy_of_holds mutex t hheld := by
    cases mutex with
    | core mutex => exact .inl (hcore.not_idle hheld)
    | av mutex => exact .inr (hav.not_idle hheld)
  climbs mutex mutex' t hheld hwaits := by
    change (if s.av.pc t = .idle then (s.core.pc t).waits.map AnyMutex.core
      else (s.av.pc t).waits.map AnyMutex.av) = some mutex' at hwaits
    split at hwaits
    · rename_i hidle
      obtain ⟨waited, hwaited, rfl⟩ := Option.map_eq_some_iff.mp hwaits
      cases mutex with
      | core mutex =>
        obtain ⟨rfl, k, rfl⟩ := hcore.waits_after hheld hwaited
        exact Nat.zero_lt_one
      | av mutex => exact absurd hidle (hav.not_idle hheld)
    · obtain ⟨waited, hwaited, rfl⟩ := Option.map_eq_some_iff.mp hwaits
      cases mutex with
      | core mutex => cases mutex <;> cases waited <;> simp [AnyMutex.rank]
      | av mutex =>
        obtain ⟨rfl, k, rfl⟩ := hav.waits_after hheld hwaited
        exact Nat.lt_succ_self 2

/-- A busy thread whose next mutex is free can go on. -/
theorem canAdvance_of_runnable (hcore : s.core.Ok) (hav : s.av.Ok) {t : T} (hbusy : s.Busy t)
    (hrun : s.lockGraph.Runnable t) : s.CanAdvance t := by
  refine ⟨hbusy, ?_⟩
  by_cases hidle : s.av.pc t = .idle
  · have hne := hbusy.resolve_right (not_not_intro hidle)
    rcases advance_spec hcore.slots hcore.locks t with
      ⟨hidle', -⟩ | ⟨⟨mutex, hwaits, hheld⟩, -⟩ | ⟨core, hadvance, -⟩
    · exact absurd hidle' hne
    · refine absurd (hrun (.core mutex) ?_) hheld
      simp [lockGraph, hidle, hwaits]
    · exact ⟨_, .inl ⟨hidle, core, hadvance, rfl⟩⟩
  · rcases advance_spec hav.slots hav.locks t with
      ⟨hidle', -⟩ | ⟨⟨mutex, hwaits, hheld⟩, -⟩ | ⟨av, hadvance, -⟩
    · exact absurd hidle' hidle
    · refine absurd (hrun (.av mutex) ?_) hheld
      simp [lockGraph, hidle, hwaits]
    · exact ⟨_, .inr ⟨av, hadvance, rfl⟩⟩

end

end Managers

/-- For any number of threads and every interleaving: when some operation is unfinished, some
    thread can go on with its operation. -/
theorem deadlock_free {T : Type} [DecidableEq T] {turns : List (Turn T)} {s : Managers T}
    (h : Managers.Reachable turns s) {t : T} (hbusy : s.Busy t) : ∃ t', s.CanAdvance t' := by
  obtain ⟨hcore, hav⟩ := Managers.ok_of_reachable h
  obtain ⟨t', hbusy', hrun⟩ :=
    (Managers.lockGraph_ordered hcore.locks hav.locks).exists_runnable hbusy
  exact ⟨t', Managers.canAdvance_of_runnable hcore hav hbusy' hrun⟩

/-- While one thread is in `toxAvNew`, another one closes the core instance. -/
def closeDuringToxAvNew : List (Turn Bool) :=
  [.enterCore false (.add false), .core false, .core false, .core false,
    .enterCore false (.withInstance 1), .core false, .core false, .core false, .core false,
    .enterCore true (.kill 1), .core true, .core true, .core true, .core true,
    .enterAv false (.add false), .av false]

theorem deadlock_free_closeDuringToxAvNew : ∃ s, Managers.Reachable closeDuringToxAvNew s ∧
    s.core.pc true = .lockDying (obj 0) 0 none ∧ s.InCoreFunc false ∧ s.av.holder = some false ∧
    ∃ t', s.CanAdvance t' := by
  have hrun : (do
      let s ← closeDuringToxAvNew.foldlM Managers.exec {}
      return (s.core.pc true, (s.core.pc false).isInFunc, s.av.holder)) =
        (.ok (.lockDying (obj 0) 0 none, true, some false) : Checked _) := by
    decide +kernel
  simp only [Checked.bind_eq_ok, Checked.pure_eq_ok, Prod.mk.injEq] at hrun
  obtain ⟨s, hrun, htrue, hfunc, hholder⟩ := hrun
  have h : Managers.Reachable closeDuringToxAvNew s :=
    (Run.of_foldlM hrun).mono fun _ _ _ => Managers.step_of_exec
  exact ⟨s, h, htrue, hfunc, hholder, deadlock_free h (t := true) (.inl (by simp [htrue]))⟩

end Tox4j.Instances
