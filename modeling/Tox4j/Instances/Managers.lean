import Tox4j.Instances.LockSteps

/-!
# Threads that use both managers

The core and the A/V manager have separate mutexes. A thread runs one operation at a time,
except that `toxAvNew` is a core `with_instance` whose function calls `AvInstanceManager::add`:
it enters the A/V manager while it is inside the function of the core manager.
-/

namespace Tox4j.Instances

open Tox4j.Misc

/-- The core and the A/V manager with the threads that use them. -/
structure Managers (T : Type) where
  core : Threads T := {}
  av : Threads T := {}

/-- What a thread does next. -/
inductive Turn (T : Type) where
  /-- It enters an operation of the core manager. -/
  | enterCore (t : T) (entry : Entry)
  /-- It enters an operation of the A/V manager. -/
  | enterAv (t : T) (entry : Entry)
  /-- It goes on with its operation of the core manager. -/
  | core (t : T)
  /-- It goes on with its operation of the A/V manager. -/
  | av (t : T)

/-- The thread is inside the function of `with_instance`. -/
def Pc.isInFunc : Pc → Bool
  | .inFunc .. => true
  | _ => false

/-- The operation is `add`. -/
def Entry.isAdd : Entry → Bool
  | .add _ => true
  | _ => false

namespace Managers

variable {T : Type} [DecidableEq T]

/-- The thread is inside the function of a core `with_instance`. -/
def InCoreFunc (s : Managers T) (t : T) : Prop := (s.core.pc t).isInFunc

/-- A step. The function of a core `with_instance` does not return before the `add` it called. -/
def Step (s : Managers T) (turn : Turn T) (s' : Managers T) : Prop :=
  match turn with
  | .enterCore t entry => s.core.pc t = .idle ∧ s.av.pc t = .idle ∧
      s' = { s with core := s.core.start t entry }
  | .enterAv t entry => s.av.pc t = .idle ∧
      (s.core.pc t = .idle ∨ s.InCoreFunc t ∧ entry.isAdd) ∧
      s' = { s with av := s.av.start t entry }
  | .core t => s.av.pc t = .idle ∧
      ∃ core, s.core.advance t = .ok (some core) ∧ s' = { s with core }
  | .av t => ∃ av, s.av.advance t = .ok (some av) ∧ s' = { s with av }

/-- The interleavings of the steps of all threads, from two empty managers on. -/
abbrev Reachable (turns : List (Turn T)) (s : Managers T) : Prop :=
  Run Step {} turns s

/-- The thread has an unfinished operation. -/
def Busy (s : Managers T) (t : T) : Prop := s.core.pc t ≠ .idle ∨ s.av.pc t ≠ .idle

/-- The thread can go on with its operation. -/
def CanAdvance (s : Managers T) (t : T) : Prop :=
  s.Busy t ∧ ∃ s', s.Step (.core t) s' ∨ s.Step (.av t) s'

/-- Executes a step, if the thread can take it. -/
def exec (s : Managers T) : Turn T → Checked (Managers T)
  | .enterCore t entry => do
    Checked.assert (s.core.pc t = .idle ∧ s.av.pc t = .idle) "in an operation"
    return { s with core := s.core.start t entry }
  | .enterAv t entry => do
    Checked.assert (s.av.pc t = .idle ∧ s.core.pc t = .idle ∨
      s.av.pc t = .idle ∧ (s.core.pc t).isInFunc ∧ entry.isAdd) "in an operation"
    return { s with av := s.av.start t entry }
  | .core t => do
    Checked.assert (s.av.pc t = .idle) "in an operation"
    match ← s.core.advance t with
    | none => .error "blocked"
    | some core => return { s with core }
  | .av t => do
    match ← s.av.advance t with
    | none => .error "blocked"
    | some av => return { s with av }

theorem step_of_exec {s s' : Managers T} {turn : Turn T} (h : s.exec turn = .ok s') :
    s.Step turn s' := by
  cases turn with
  | enterCore t entry =>
    simp only [exec, Checked.bind_eq_ok, Checked.assert_eq_ok, decide_eq_true_eq,
      Checked.pure_eq_ok] at h
    obtain ⟨_, ⟨hcore, hav⟩, rfl⟩ := h
    exact ⟨hcore, hav, rfl⟩
  | enterAv t entry =>
    simp only [exec, Checked.bind_eq_ok, Checked.assert_eq_ok, decide_eq_true_eq,
      Checked.pure_eq_ok] at h
    obtain ⟨_, ⟨hav, hcore⟩ | ⟨hav, hfunc, hadd⟩, rfl⟩ := h
    · exact ⟨hav, .inl hcore, rfl⟩
    · exact ⟨hav, .inr ⟨hfunc, hadd⟩, rfl⟩
  | core t =>
    simp only [exec, Checked.bind_eq_ok, Checked.assert_eq_ok, decide_eq_true_eq] at h
    obtain ⟨_, hav, next, hadvance, h⟩ := h
    cases next with
    | none => cases h
    | some core =>
      cases h
      exact ⟨hav, core, hadvance, rfl⟩
  | av t =>
    simp only [exec, Checked.bind_eq_ok] at h
    obtain ⟨next, hadvance, h⟩ := h
    cases next with
    | none => cases h
    | some av =>
      cases h
      exact ⟨av, hadvance, rfl⟩

end Managers

end Tox4j.Instances
