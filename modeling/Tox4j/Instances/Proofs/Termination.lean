import Mathlib.Data.Fintype.Basic
import Tox4j.Instances.Proofs.Managers
import Tox4j.Misc.Potential

/-!
# Every operation of the managers returns

An operation is a bounded number of steps of its thread, whatever the other threads do in between,
and some thread can always take one. So the operations that were entered can all be finished.
-/

namespace Tox4j.Instances

open Tox4j.Misc

/-- The steps a thread still takes, at most, until its operation has returned. -/
def Pc.stepsLeft : Pc → ℕ
  | .idle => 0
  | .unlockManager _ | .unlockInstance _ _ => 1
  | .insert _ _ | .finalizeFree _ _ | .destroy _ none | .inFunc _ _ => 2
  | .destroy _ (some _) | .unlockDying _ _ none | .handOver _ _
  | .lockManager (.add _ _ _ _) => 3
  | .unlockDying _ _ (some _) | .lockDying _ _ none | .lockInstance _ _ => 4
  | .lockDying _ _ (some _) | .killTest _ | .withCheck _ => 5
  | .killMove _ | .finalizeMove _ | .lockManager (.withInstance _) => 6
  | .killCheck _ | .finalizeLive _ => 7
  | .finalizeCheck _ | .lockManager (.kill _) => 8
  | .lockManager (.finalize _) => 9

/-- The steps of a whole operation. -/
def Entry.steps : Entry → ℕ
  | .add _ => 3
  | .kill _ => 8
  | .finalize _ => 9
  | .withInstance _ => 6

theorem Pc.stepsLeft_eq_zero {pc : Pc} : pc.stepsLeft = 0 ↔ pc = .idle := by
  cases pc with
  | lockManager op => cases op <;> simp [Pc.stepsLeft]
  | lockDying i mutex freed => cases freed <;> simp [Pc.stepsLeft]
  | unlockDying i mutex freed => cases freed <;> simp [Pc.stepsLeft]
  | destroy i freed => cases freed <;> simp [Pc.stepsLeft]
  | _ => simp [Pc.stepsLeft]

namespace Threads

variable {T : Type} [DecidableEq T] {s s' : Threads T} {t : T}

/-- A step of a thread brings its operation closer to the end, and no other one. -/
theorem moves_stepsLeft (h : Moves s t s') :
    (s'.pc t).stepsLeft < (s.pc t).stepsLeft ∧ ∀ t', t' ≠ t → s'.pc t' = s.pc t' := by
  cases h with
  | @lockManager op hp hfree =>
    refine ⟨?_, fun t' hne => goto_pc_ne hne _⟩
    rw [goto_pc_self, hp]
    cases op <;> simp [Pc.stepsLeft, Op.firstPc]
  | quiet hp hq =>
    refine ⟨?_, fun t' hne => goto_pc_ne hne _⟩
    rw [goto_pc_self, hp]
    cases hq <;> simp [Pc.stepsLeft]
  | changes hp hc =>
    refine ⟨?_, fun t' hne => goto_pc_ne hne _⟩
    rw [goto_pc_self, hp]
    cases hc <;> simp [Pc.stepsLeft]
  | @lockDying k freed hp hfree =>
    refine ⟨?_, fun t' hne => goto_pc_ne hne _⟩
    rw [goto_pc_self, hp]
    cases freed <;> simp [Pc.stepsLeft]
  | @unlockDying k freed hp =>
    refine ⟨?_, fun t' hne => goto_pc_ne hne _⟩
    rw [releaseMutex, goto_pc_self, hp]
    cases freed <;> simp [Pc.stepsLeft]
  | @destroy k freed hp =>
    refine ⟨?_, fun t' hne => goto_pc_ne hne _⟩
    rw [goto_pc_self, hp]
    cases freed <;> simp [Pc.stepsLeft, Pc.afterDestroy]
  | lockInstance hp hfree =>
    refine ⟨?_, fun t' hne => goto_pc_ne hne _⟩
    rw [goto_pc_self, hp]
    simp [Pc.stepsLeft]
  | handOver hp =>
    refine ⟨?_, fun t' hne => goto_pc_ne hne _⟩
    rw [release, goto_pc_self, hp]
    simp [Pc.stepsLeft]
  | unlockInstance hp =>
    refine ⟨?_, fun t' hne => goto_pc_ne hne _⟩
    rw [releaseMutex, goto_pc_self, hp]
    simp [Pc.stepsLeft]
  | unlockManager hp =>
    refine ⟨?_, fun t' hne => goto_pc_ne hne _⟩
    rw [release, goto_pc_self, hp]
    simp [Pc.stepsLeft]

/-- An operation that is entered has all of its steps before it, or returns at once. -/
theorem stepsLeft_start (hidle : s.pc t = .idle) (entry : Entry) :
    ((s.start t entry).pc t).stepsLeft ≤ entry.steps ∧
      ∀ t', t' ≠ t → (s.start t entry).pc t' = s.pc t' := by
  cases entry with
  | add grows =>
    refine ⟨?_, fun t' hne => goto_pc_ne hne _⟩
    rw [start, goto_pc_self]
    exact le_rfl
  | kill n =>
    refine ⟨?_, fun t' hne => goto_pc_ne hne _⟩
    rw [start, goto_pc_self]
    exact le_rfl
  | finalize n =>
    by_cases hzero : n = 0
    · simp [start, hzero, hidle, Pc.stepsLeft]
    · refine ⟨?_, fun t' hne => ?_⟩
      · rw [start, if_neg hzero, goto_pc_self]
        exact le_rfl
      · rw [start, if_neg hzero, goto_pc_ne hne]
  | withInstance n =>
    by_cases hzero : n = 0
    · simp [start, hzero, hidle, Pc.stepsLeft]
    · refine ⟨?_, fun t' hne => ?_⟩
      · rw [start, if_neg hzero, goto_pc_self]
        exact le_rfl
      · rw [start, if_neg hzero, goto_pc_ne hne]

end Threads

/-- The turns in which a thread goes on with an operation. -/
def Turn.goesOn {T : Type} [DecidableEq T] (t : T) : Turn T → ℕ
  | .core t' | .av t' => if t' = t then 1 else 0
  | .enterCore _ _ | .enterAv _ _ => 0

/-- The steps of the operation a thread enters. -/
def Turn.entered {T : Type} [DecidableEq T] (t : T) : Turn T → ℕ
  | .enterCore t' entry | .enterAv t' entry => if t' = t then entry.steps else 0
  | .core _ | .av _ => 0

namespace Managers

section

variable {T : Type} [DecidableEq T] {s s' : Managers T} {turn : Turn T}

omit [DecidableEq T] in
/-- The steps a thread still takes in its operations. -/
def stepsLeft (s : Managers T) (t : T) : ℕ :=
  (s.core.pc t).stepsLeft + (s.av.pc t).stepsLeft

/-- What a turn does to the steps that are left to a thread. -/
theorem stepsLeft_step (hcore : s.core.Ok) (hav : s.av.Ok) (hstep : s.Step turn s') (t : T) :
    s'.stepsLeft t + turn.goesOn t ≤ s.stepsLeft t + turn.entered t := by
  cases turn with
  | enterCore t' entry =>
    obtain ⟨hidle, -, rfl⟩ := hstep
    obtain ⟨hle, hothers⟩ := Threads.stepsLeft_start hidle entry
    by_cases heq : t' = t
    · subst heq
      have hzero : (s.core.pc t').stepsLeft = 0 := Pc.stepsLeft_eq_zero.mpr hidle
      simp only [stepsLeft, Turn.goesOn, Turn.entered, if_true]
      omega
    · simp only [stepsLeft, Turn.goesOn, Turn.entered, if_neg heq, hothers t (Ne.symm heq)]
      omega
  | enterAv t' entry =>
    obtain ⟨hidle, -, rfl⟩ := hstep
    obtain ⟨hle, hothers⟩ := Threads.stepsLeft_start hidle entry
    by_cases heq : t' = t
    · subst heq
      have hzero : (s.av.pc t').stepsLeft = 0 := Pc.stepsLeft_eq_zero.mpr hidle
      simp only [stepsLeft, Turn.goesOn, Turn.entered, if_true]
      omega
    · simp only [stepsLeft, Turn.goesOn, Turn.entered, if_neg heq, hothers t (Ne.symm heq)]
      omega
  | core t' =>
    obtain ⟨-, core, hadvance, rfl⟩ := hstep
    obtain ⟨hlt, hothers⟩ := Threads.moves_stepsLeft (hcore.moves_of_advance hadvance)
    by_cases heq : t' = t
    · subst heq
      simp only [stepsLeft, Turn.goesOn, Turn.entered, if_true]
      omega
    · simp only [stepsLeft, Turn.goesOn, Turn.entered, if_neg heq, hothers t (Ne.symm heq)]
      omega
  | av t' =>
    obtain ⟨av, hadvance, rfl⟩ := hstep
    obtain ⟨hlt, hothers⟩ := Threads.moves_stepsLeft (hav.moves_of_advance hadvance)
    by_cases heq : t' = t
    · subst heq
      simp only [stepsLeft, Turn.goesOn, Turn.entered, if_true]
      omega
    · simp only [stepsLeft, Turn.goesOn, Turn.entered, if_neg heq, hothers t (Ne.symm heq)]
      omega

/-- Nobody enters an operation. -/
def GoOn (s : Managers T) (t : T) (s' : Managers T) : Prop :=
  s.Step (.core t) s' ∨ s.Step (.av t) s'

/-- While a thread is busy, some thread can go on, and has less left to do. -/
theorem goes [Fintype T] (h : s.core.Ok ∧ s.av.Ok) : (∀ t, ¬ s.Busy t) ∨
    ∃ ts s', Run GoOn s ts s' ∧ (s'.core.Ok ∧ s'.av.Ok) ∧
      ∑ t, s'.stepsLeft t < ∑ t, s.stepsLeft t := by
  by_cases hbusy : ∀ t, ¬ s.Busy t
  · exact .inl hbusy
  obtain ⟨t, hbusy⟩ := not_forall_not.mp hbusy
  obtain ⟨t, hbusy, hrun⟩ := (lockGraph_ordered h.1.locks h.2.locks).exists_runnable hbusy
  obtain ⟨-, s', hstep⟩ := canAdvance_of_runnable h.1 h.2 hbusy hrun
  right
  refine ⟨[t], s', .single hstep, ?_, ?_⟩
  · rcases hstep with hstep | hstep
    · exact ok_step h.1 h.2 hstep
    · exact ok_step h.1 h.2 hstep
  · have hsteps : ∀ t', s'.stepsLeft t' + (if t = t' then 1 else 0) ≤ s.stepsLeft t' := by
      intro t'
      rcases hstep with hstep | hstep
      · exact stepsLeft_step h.1 h.2 hstep t'
      · exact stepsLeft_step h.1 h.2 hstep t'
    refine Finset.sum_lt_sum (fun t' _ => ?_) ⟨t, Finset.mem_univ t, ?_⟩
    · have hle := hsteps t'
      omega
    · have hle := hsteps t
      rw [if_pos rfl] at hle
      omega

end

end Managers

/-- In every interleaving a thread takes no more steps than its operations have, and from every
    state that is reached all operations can be finished without entering a new one. -/
theorem operations_return {T : Type} [DecidableEq T] [Fintype T] {turns : List (Turn T)}
    {s : Managers T} (h : Managers.Reachable turns s) :
    (∀ t, (turns.map (Turn.goesOn t)).sum + s.stepsLeft t ≤ (turns.map (Turn.entered t)).sum) ∧
      ∃ ts s', Run Managers.GoOn s ts s' ∧ ∀ t, ¬ s'.Busy t := by
  have hok := Managers.ok_of_reachable h
  constructor
  · intro t
    have hle := Run.potential_le (fun s : Managers T => s.core.Ok ∧ s.av.Ok)
      (fun s => s.stepsLeft t) (fun _ => 0) (Turn.goesOn t) (Turn.entered t)
      (fun _ _ _ hok hs => Managers.ok_step hok.1 hok.2 hs)
      (fun _ _ _ hok hs => Managers.stepsLeft_step hok.1 hok.2 hs t)
      ⟨Threads.ok_init, Threads.ok_init⟩ h
    have hzero : ({} : Managers T).stepsLeft t = 0 := rfl
    omega
  · obtain ⟨ts, s', hrun, -, hidle⟩ := Run.exists_final
      (fun s : Managers T => s.core.Ok ∧ s.av.Ok) (fun s => ∀ t, ¬ s.Busy t)
      (fun s => ∑ t, s.stepsLeft t) (fun _ hok => Managers.goes hok) hok
    exact ⟨ts, s', hrun, hidle⟩

theorem operations_return_closeDuringToxAvNew : ∃ s, Managers.Reachable closeDuringToxAvNew s ∧
    s.core.pc true = .lockDying (obj 0) 0 none ∧
      ∃ ts s', Run Managers.GoOn s ts s' ∧ ∀ t, ¬ s'.Busy t := by
  have hrun : (do
      let s ← closeDuringToxAvNew.foldlM Managers.exec {}
      return s.core.pc true) = (.ok (.lockDying (obj 0) 0 none) : Checked _) := by
    decide +kernel
  simp only [Checked.bind_eq_ok, Checked.pure_eq_ok] at hrun
  obtain ⟨s, hrun, htrue⟩ := hrun
  have h : Managers.Reachable closeDuringToxAvNew s :=
    (Run.of_foldlM hrun).mono fun _ _ _ => Managers.step_of_exec
  exact ⟨s, h, htrue, (operations_return h).2⟩

end Tox4j.Instances
