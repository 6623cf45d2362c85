import Tox4j.Instances.LockSteps
import Tox4j.Misc.AtomicObject

/-!
# The manager as an atomic object

What an instance manager is to its users: every operation happens at once. The steps of
`LockSteps` are compared with this; what can be seen of them is which operations the threads enter,
when these return, and with which replies.
-/

namespace Tox4j.Instances

open Tox4j.Misc

/-- The native object that an operation destroyed. -/
def Reply.destroyedTox : Reply ℕ → List ℕ
  | .destroyed tox => tox.toList
  | .added _ | .threw _ | .ran _ | .done => []

/-- A manager between two operations, and the native objects destroyed so far. -/
structure NativeObjects where
  manager : InstanceManager ℕ ℕ ℕ := {}
  destroyed : List ℕ := []

/-- A whole operation, as `Op.run` has it. -/
def NativeObjects.Effect (o : NativeObjects) (op : Op ℕ ℕ ℕ × Reply ℕ) (o' : NativeObjects) :
    Prop :=
  op.1.run o.manager = .ok (op.2, o'.manager) ∧ o'.destroyed = o.destroyed ++ op.2.destroyedTox

/-- The reply of an operation that returns before it locks the manager: the number is that of an
    object whose constructor has thrown. -/
def Op.earlyReply : Op ℕ ℕ ℕ → Option (Reply ℕ)
  | .finalize instanceNumber => if instanceNumber = 0 then some .done else none
  | .withInstance instanceNumber =>
    if instanceNumber = 0 then
      some (.threw (throwIllegalStateException instanceNumber
        "Function called on incomplete object"))
    else none
  | .add .. | .kill _ => none

/-- The reply of an operation that returns in the next step. -/
def Pc.lastReply : Pc → Option (Reply ℕ)
  | .unlockInstance inst _ => some (.ran inst.tox)
  | .unlockManager reply => some reply
  | _ => none

/-- A manager whose operations happen at once. -/
abbrev AtomicManager (T : Type) := AtomicObject NativeObjects T (Op ℕ ℕ ℕ) (Reply ℕ)

namespace Threads

variable {T : Type} [DecidableEq T]

/-- The operation a thread enters. -/
def op (s : Threads T) : Entry → Op ℕ ℕ ℕ
  | .add grows => .add s.created s.created s.created grows
  | .kill instanceNumber => .kill instanceNumber
  | .finalize instanceNumber => .finalize instanceNumber
  | .withInstance instanceNumber => .withInstance instanceNumber

/-- What is seen of a step: an operation that is entered, or one that returns, or both. -/
def visible (s : Threads T) : T × Option Entry → List (Visible T (Op ℕ ℕ ℕ) (Reply ℕ))
  | (t, some entry) => .call t (s.op entry) :: (s.op entry).earlyReply.toList.map (.ret t)
  | (t, none) => (s.pc t).lastReply.toList.map (.ret t)

/-- A step, and what is seen of it. -/
def VisibleStep (s : Threads T)
    (l : (T × Option Entry) × List (Visible T (Op ℕ ℕ ℕ) (Reply ℕ))) (s' : Threads T) : Prop :=
  Step s l.1 s' ∧ l.2 = s.visible l.1

/-- Executes a step, and adds what is seen of it. -/
def execVisible (s : Threads T × List (Visible T (Op ℕ ℕ ℕ) (Reply ℕ))) (l : T × Option Entry) :
    Checked (Threads T × List (Visible T (Op ℕ ℕ ℕ) (Reply ℕ))) := do
  let s' ← s.1.exec l
  return (s', s.2 ++ s.1.visible l)

theorem run_of_execVisible {ls : List (T × Option Entry)} {s : Threads T}
    {seen : List (Visible T (Op ℕ ℕ ℕ) (Reply ℕ))}
    (h : ls.foldlM execVisible ({}, []) = .ok (s, seen)) :
    ∃ vs, Run VisibleStep {} vs s ∧ vs.flatMap Prod.snd = seen := by
  refine @Run.invariant _ _ _ _ _ _ (fun p : Threads T × List (Visible T (Op ℕ ℕ ℕ) (Reply ℕ)) =>
    ∃ vs, Run VisibleStep {} vs p.1 ∧ vs.flatMap Prod.snd = p.2) ⟨[], .nil, rfl⟩ ?_
    (Run.of_foldlM h)
  rintro ⟨s, seen⟩ l ⟨s', seen'⟩ ⟨vs, hrun, hseen⟩ hstep
  simp only [execVisible, Checked.bind_eq_ok, Checked.pure_eq_ok, Prod.mk.injEq] at hstep
  obtain ⟨next, hexec, rfl, rfl⟩ := hstep
  refine ⟨vs ++ [(l, s.visible l)], .snoc hrun ⟨step_of_exec hexec, rfl⟩, ?_⟩
  rw [List.flatMap_append, hseen, List.flatMap_singleton]

/-- Nobody is inside the manager: it is what the atomic manager is, and so are the objects that were
    destroyed. A thread is idle when its operation has returned, and a function runs on the object
    its `with_instance` found. -/
structure Shows (s : Threads T) (a : AtomicManager T) : Prop where
  manager : s.holder = none → s.manager = a.state.manager
  destroyed : s.holder = none → s.destroyed = a.state.destroyed
  idle : ∀ t, s.pc t = .idle ↔ a.phase t = .idle
  runs : ∀ t tox, s.InsideFunc t tox → a.phase t = .answered (.ran (some tox))

/-- A run of the atomic manager that has the calls and the replies seen so far, and shows in the
    state that was reached. -/
structure Linearization (seen : List (Visible T (Op ℕ ℕ ℕ) (Reply ℕ))) (s : Threads T)
    (ls : List (AtomicLabel T (Op ℕ ℕ ℕ) (Reply ℕ))) (a : AtomicManager T) : Prop where
  run : Run (AtomicObject.Step NativeObjects.Effect) { state := {} } ls a
  seen : ls.flatMap AtomicLabel.visible = seen
  shows : s.Shows a
  /-- The operations that took effect, with their replies, are a run of the sequential manager. -/
  sequential : Run NativeObjects.Effect {} (ls.flatMap AtomicLabel.committed) a.state
  /-- An operation of a thread takes effect once, between its call and its return, and returns the
      reply it had then. -/
  threads : ∀ t, Run (AtomicObject.ThreadStep t) .idle (ls.filter fun l => l.thread = t) (a.phase t)

def Linearizable (seen : List (Visible T (Op ℕ ℕ ℕ) (Reply ℕ))) (s : Threads T) : Prop :=
  ∃ ls a, s.Linearization seen ls a

end Threads

end Tox4j.Instances
