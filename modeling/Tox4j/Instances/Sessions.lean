import Tox4j.Instances.Managers

/-!
# A/V sessions on core objects

The two managers do not know of each other, but an A/V session works on the Tox it was created
from. A Tox has at most one session at a time: `new_toxav_new` looks at `has_av`, and `toxAvNew`
goes through a null pointer when that is set, so there is no step for it then.
-/

namespace Tox4j.Instances

open Tox4j.Misc

namespace Pc

/-- The native object that is worked on here, by the function or by the destructor. -/
def works : Pc → Option ℕ
  | .inFunc inst _ => inst.tox
  | .destroy dying _ => dying.tox
  | _ => none

/-- The native object that is worked on after the next step. -/
def starts : Pc → Option ℕ
  | .handOver inst _ => inst.tox
  | .unlockDying dying _ _ => dying.tox
  | _ => none

end Pc

/-- Both managers, the Tox of each A/V session, and `has_av` of each Tox. -/
structure Sessions (T : Type) where
  managers : Managers T := {}
  toxOf : ℕ → ℕ := fun _ => 0
  hasAv : ℕ → Bool := fun _ => false

namespace Sessions

variable {T : Type} [DecidableEq T]

/-- A session is added by `toxAvNew` only, from inside the function of a core `with_instance`, for a
    Tox that has none. -/
def allowed (s : Sessions T) : Turn T → Bool
  | .enterAv t (.add _) =>
    match s.managers.core.pc t with
    | .inFunc inst _ => inst.tox.any fun tox => !s.hasAv tox
    | _ => false
  | _ => true

/-- The new session is that of the Tox the function works on. -/
def toxOfAfter (s : Sessions T) : Turn T → ℕ → ℕ
  | .enterAv t (.add _) =>
    match (s.managers.core.pc t).works with
    | some tox => Function.update s.toxOf s.managers.av.created tox
    | none => s.toxOf
  | _ => s.toxOf

/-- `new_toxav_new` sets `has_av`, and `new_toxav_kill` clears it. -/
def hasAvAfter (s : Sessions T) : Turn T → ℕ → Bool
  | .enterAv t (.add _) =>
    match (s.managers.core.pc t).works with
    | some tox => Function.update s.hasAv tox true
    | none => s.hasAv
  | .av t =>
    match s.managers.av.pc t with
    | .destroy dying _ =>
      match dying.tox with
      | some av => Function.update s.hasAv (s.toxOf av) false
      | none => s.hasAv
    | _ => s.hasAv
  | _ => s.hasAv

def Step (s : Sessions T) (turn : Turn T) (s' : Sessions T) : Prop :=
  s.allowed turn = true ∧ s.managers.Step turn s'.managers ∧
    s'.toxOf = s.toxOfAfter turn ∧ s'.hasAv = s.hasAvAfter turn

/-- The thread is inside native code that works on the Tox: a function or the destructor of the
    core instance, or of a session that was created from it. -/
def WorksOn (s : Sessions T) (t : T) (tox : ℕ) : Prop :=
  (s.managers.core.pc t).works = some tox ∨
    ∃ av, (s.managers.av.pc t).works = some av ∧ s.toxOf av = tox

/-- Two threads are never inside native code that works on one Tox. -/
def Exclusive (s : Sessions T) : Prop :=
  ∀ t t' tox, s.WorksOn t tox → s.WorksOn t' tox → t = t'

/-- A thread gets into native code of one manager only while no other thread is inside native code
    of the other manager that works on the same Tox. -/
def Apart (s : Sessions T) : Turn T → Prop
  | .core t => ∀ tox, (s.managers.core.pc t).starts = some tox →
      ∀ t' av, t' ≠ t → (s.managers.av.pc t').works = some av → s.toxOf av ≠ tox
  | .av t => ∀ av, (s.managers.av.pc t).starts = some av →
      ∀ t', t' ≠ t → (s.managers.core.pc t').works ≠ some (s.toxOf av)
  | .enterCore .. | .enterAv .. => True

/-- A step after which no two threads are inside native code that works on one Tox. -/
def StepExclusive (s : Sessions T) (turn : Turn T) (s' : Sessions T) : Prop :=
  s.Step turn s' ∧ s'.Exclusive

/-- Executes a step, if the thread can take it. -/
def exec (s : Sessions T) (turn : Turn T) : Checked (Sessions T) := do
  Checked.assert (s.allowed turn) "not in toxAvNew"
  let managers ← s.managers.exec turn
  return { managers, toxOf := s.toxOfAfter turn, hasAv := s.hasAvAfter turn }

theorem step_of_exec {s s' : Sessions T} {turn : Turn T} (h : s.exec turn = .ok s') :
    s.Step turn s' := by
  simp only [exec, Checked.bind_eq_ok, Checked.assert_eq_ok, Checked.pure_eq_ok] at h
  obtain ⟨_, hallowed, managers, hexec, rfl⟩ := h
  exact ⟨hallowed, Managers.step_of_exec hexec, rfl, rfl⟩

end Sessions

end Tox4j.Instances
