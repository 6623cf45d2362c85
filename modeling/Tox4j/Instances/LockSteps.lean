import Mathlib.Logic.Function.Basic
import Tox4j.Instances.Proofs.Operations

/-!
# The steps of threads that share an instance manager

Each thread runs `add`, `kill`, `finalize` or `with_instance` as a sequence of steps: locking a
mutex, a part of the operation, running the function, destroying an instance, unlocking. The
threads take steps in any order. The parts are those the sequential operations are made of.

A native object, its events and its mutex are created together; the `k`-th object, its events
and its mutex are all known as `k`.
-/

namespace Tox4j.Instances

open Tox4j.Misc ToxInstance InstanceManager

/-- Where a thread is in the code, with the local variables it still needs; near the end of an
    operation, also with how it ends. -/
inductive Pc where
  /-- Not in any of the operations. -/
  | idle
  /-- About to lock the manager's mutex. -/
  | lockManager (op : Op ℕ ℕ ℕ)
  | insert (inst : ToxInstance ℕ ℕ ℕ) (grows : Bool)
  | killCheck (instanceNumber : Int32)
  | killMove (instanceNumber : Int32)
  | killTest (dying : ToxInstance ℕ ℕ ℕ)
  | finalizeCheck (instanceNumber : Int32)
  | finalizeLive (instanceNumber : Int32)
  | finalizeMove (instanceNumber : Int32)
  /-- About to lock the mutex of an instance that was taken out of the vector; `finalize` goes on
      with the number. -/
  | lockDying (dying : ToxInstance ℕ ℕ ℕ) (mutex : ℕ) (freed : Option Int32)
  | unlockDying (dying : ToxInstance ℕ ℕ ℕ) (mutex : ℕ) (freed : Option Int32)
  /-- About to destroy the instance. -/
  | destroy (dying : ToxInstance ℕ ℕ ℕ) (freed : Option Int32)
  | finalizeFree (instanceNumber : Int32) (reply : Reply ℕ)
  | withCheck (instanceNumber : Int32)
  /-- About to lock the mutex of the instance the function will run on. -/
  | lockInstance (inst : ToxInstance ℕ ℕ ℕ) (mutex : ℕ)
  /-- About to unlock the manager and to call the function. -/
  | handOver (inst : ToxInstance ℕ ℕ ℕ) (mutex : ℕ)
  /-- Inside the function. -/
  | inFunc (inst : ToxInstance ℕ ℕ ℕ) (mutex : ℕ)
  | unlockInstance (inst : ToxInstance ℕ ℕ ℕ) (mutex : ℕ)
  | unlockManager (reply : Reply ℕ)
  deriving DecidableEq

/-- The first thing an operation does under the manager's mutex. -/
def Op.firstPc : Op ℕ ℕ ℕ → Pc
  | .add tox events mutex grows => .insert (ofPointers tox events mutex) grows
  | .kill instanceNumber => .killCheck instanceNumber
  | .finalize instanceNumber => .finalizeCheck instanceNumber
  | .withInstance instanceNumber => .withCheck instanceNumber

/-- A manager and the threads that use it. -/
structure Threads (T : Type) where
  manager : InstanceManager ℕ ℕ ℕ := {}
  /-- The thread that holds the manager's mutex. -/
  holder : Option T := none
  /-- The thread that holds the mutex of an instance. -/
  mutexes : ℕ → Option T := fun _ => none
  pc : T → Pc := fun _ => .idle
  /-- The number of native objects created so far. -/
  created : ℕ := 0
  /-- The native objects destroyed so far. -/
  destroyed : List ℕ := []

/-- The operations a thread can enter. -/
inductive Entry where
  | add (grows : Bool)
  | kill (instanceNumber : Int32)
  | finalize (instanceNumber : Int32)
  | withInstance (instanceNumber : Int32)
  deriving DecidableEq, Repr

namespace Threads

variable {T : Type} [DecidableEq T]

def goto (s : Threads T) (t : T) (pc : Pc) : Threads T :=
  { s with pc := Function.update s.pc t pc }

/-- A thread enters an operation. The native object of `add` exists before the manager is
    locked; `finalize` and `with_instance` return at once for the number 0. -/
def start (s : Threads T) (t : T) : Entry → Threads T
  | .add grows =>
    { s with created := s.created + 1 }.goto t
      (.lockManager (.add s.created s.created s.created grows))
  | .kill instanceNumber => s.goto t (.lockManager (.kill instanceNumber))
  | .finalize instanceNumber =>
    if instanceNumber = 0 then s else s.goto t (.lockManager (.finalize instanceNumber))
  | .withInstance instanceNumber =>
    if instanceNumber = 0 then s else s.goto t (.lockManager (.withInstance instanceNumber))

/-- Locks the manager, if it is free. -/
def acquire (s : Threads T) (t : T) (pc : Pc) : Option (Threads T) :=
  if s.holder = none then
    some ({ s with holder := some t, manager := s.manager.lock }.goto t pc)
  else none

def release (s : Threads T) (t : T) (pc : Pc) : Threads T :=
  { s with holder := none, manager := s.manager.unlock }.goto t pc

/-- Locks the mutex of an instance, if it is free. -/
def acquireMutex (s : Threads T) (t : T) (mutex : ℕ) (pc : Pc) : Option (Threads T) :=
  if s.mutexes mutex = none then
    some ({ s with mutexes := Function.update s.mutexes mutex (some t) }.goto t pc)
  else none

def releaseMutex (s : Threads T) (t : T) (mutex : ℕ) (pc : Pc) : Threads T :=
  { s with mutexes := Function.update s.mutexes mutex none }.goto t pc

/-- The next step of a thread; `none` when it has to wait or is in no operation. -/
def advance (s : Threads T) (t : T) : Checked (Option (Threads T)) :=
  match s.pc t with
  | .idle => .ok none
  | .lockManager op => .ok (s.acquire t op.firstPc)
  | .insert inst grows => do
    let (instanceNumber, manager) ← s.manager.insert inst grows
    return some ({ s with manager }.goto t (.unlockManager (.added instanceNumber)))
  | .killCheck instanceNumber => do
    match ← s.manager.killCheck instanceNumber with
    | some exception => return some (s.goto t (.unlockManager (.threw exception)))
    | none => return some (s.goto t (.killMove instanceNumber))
  | .killMove instanceNumber => do
    let (dying, manager) ← s.manager.remove instanceNumber
    return some ({ s with manager }.goto t (.killTest dying))
  | .killTest dying => do
    match ← InstanceManager.killTest dying with
    | none => return some (s.goto t (.unlockManager .done))
    | some mutex => return some (s.goto t (.lockDying dying mutex none))
  | .finalizeCheck instanceNumber => do
    match ← s.manager.finalizeCheck instanceNumber with
    | some exception => return some (s.goto t (.unlockManager (.threw exception)))
    | none => return some (s.goto t (.finalizeLive instanceNumber))
  | .finalizeLive instanceNumber => do
    let inst ← s.manager.get instanceNumber
    return some (s.goto t
      (if inst.isLive then .finalizeMove instanceNumber else .finalizeFree instanceNumber .done))
  | .finalizeMove instanceNumber => do
    let (dying, manager) ← s.manager.finalizeRemove instanceNumber
    match dying.mutex with
    | none => .error "*dying.mutex"
    | some mutex =>
      return some ({ s with manager }.goto t (.lockDying dying mutex (some instanceNumber)))
  | .lockDying dying mutex freed => .ok (s.acquireMutex t mutex (.unlockDying dying mutex freed))
  | .unlockDying dying mutex freed => .ok (some (s.releaseMutex t mutex (.destroy dying freed)))
  | .destroy dying freed =>
    -- first the mutex, then the events, then the native object
    .ok (some ({ s with destroyed := s.destroyed ++ dying.tox.toList }.goto t
      (match freed with
        | none => .unlockManager (.destroyed dying.tox)
        | some instanceNumber => .finalizeFree instanceNumber (.destroyed dying.tox))))
  | .finalizeFree instanceNumber reply => do
    let manager ← s.manager.finalizeFree instanceNumber
    return some ({ s with manager }.goto t (.unlockManager reply))
  | .withCheck instanceNumber => do
    match ← s.manager.withCheck instanceNumber with
    | .error exception => return some (s.goto t (.unlockManager (.threw exception)))
    | .ok inst =>
      match inst.mutex with
      | none => .error "mutex != nullptr"
      | some mutex => return some (s.goto t (.lockInstance inst mutex))
  | .lockInstance inst mutex => .ok (s.acquireMutex t mutex (.handOver inst mutex))
  | .handOver inst mutex => do
    Checked.assert inst.events.isSome "events != nullptr"
    return some (s.release t (.inFunc inst mutex))
  | .inFunc inst mutex => .ok (some (s.goto t (.unlockInstance inst mutex)))
  | .unlockInstance _ mutex => .ok (some (s.releaseMutex t mutex .idle))
  | .unlockManager _ => .ok (some (s.release t .idle))

/-- A thread enters an operation or takes its next step. -/
def Step (s : Threads T) (l : T × Option Entry) (s' : Threads T) : Prop :=
  match l with
  | (t, some entry) => s.pc t = .idle ∧ s' = s.start t entry
  | (t, none) => s.advance t = .ok (some s')

/-- The interleavings of the steps of all threads, from an empty manager on. -/
abbrev Reachable (ls : List (T × Option Entry)) (s : Threads T) : Prop :=
  Run Step {} ls s

/-- Executes a step, if the thread can take it. -/
def exec (s : Threads T) : T × Option Entry → Checked (Threads T)
  | (t, some entry) => do
    Checked.assert (s.pc t = .idle) "in an operation"
    return s.start t entry
  | (t, none) => do
    match ← s.advance t with
    | none => .error "blocked"
    | some s => return s

theorem step_of_exec {s s' : Threads T} {l : T × Option Entry} (hstep : s.exec l = .ok s') :
    s.Step l s' := by
  obtain ⟨t, entry | _⟩ := l
  · simp only [exec, Checked.bind_eq_ok] at hstep
    obtain ⟨next, hadvance, hstep⟩ := hstep
    cases next with
    | none => cases hstep
    | some s'' =>
      cases hstep
      exact hadvance
  · simp only [exec, Checked.bind_eq_ok, Checked.assert_eq_ok, decide_eq_true_eq,
      Checked.pure_eq_ok] at hstep
    obtain ⟨_, hidle, rfl⟩ := hstep
    exact ⟨hidle, rfl⟩

theorem reachable_of_exec {ls : List (T × Option Entry)} {s : Threads T}
    (h : ls.foldlM exec {} = .ok s) : Reachable ls s :=
  (Run.of_foldlM h).mono fun _ _ _ hstep => step_of_exec hstep

/-- The thread is inside the function for a native object. -/
def InsideFunc (s : Threads T) (t : T) (tox : ℕ) : Prop :=
  ∃ inst mutex, s.pc t = .inFunc inst mutex ∧ inst.tox = some tox

/-- The thread waits for the mutex of a native object, to run the function or to destroy it. -/
def WaitsForMutex (s : Threads T) (t : T) (tox : ℕ) : Prop :=
  ∃ inst mutex,
    (s.pc t = .lockInstance inst mutex ∨ ∃ freed, s.pc t = .lockDying inst mutex freed) ∧
      inst.tox = some tox

end Threads

end Tox4j.Instances
