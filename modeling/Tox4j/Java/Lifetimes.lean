import Mathlib.Logic.Function.Basic
import Tox4j.Instances.Handles

/-!
# `ToxCoreImpl`, `ToxAvImpl` and the native objects behind them

A `ToxAvImpl` holds its `ToxCoreImpl`, and the field `av` of that leads back to it. Each of the
two classes has an instance manager of its own, and a `new_ToxAV` has a pointer to the
`new_Tox` it was created on.

A Java object, its handle and its native object are known by the same number: the order of
creation.
-/

namespace Tox4j.Java

open Tox4j.Misc Tox4j.Instances

/-- `new_Tox`, as far as A/V is concerned. -/
structure NewTox where
  hasAv : Bool := false
  deriving DecidableEq, Repr

/-- `new_ToxAV`: its `tox` pointer. -/
structure NewToxAv where
  tox : ℕ
  deriving DecidableEq, Repr

/-- The field `ToxCoreImpl.av`. -/
inductive AvField where
  | null
  /-- The constructor of this `ToxAvImpl` did not return; its number is 0. -/
  | incomplete
  | session (a : ℕ)
  deriving DecidableEq, Repr

/-- A `ToxCoreImpl`. It is `held` as long as the program has a reference to it. -/
structure ToxCoreImpl where
  av : AvField := .null
  held : Bool := false
  deriving DecidableEq, Repr

/-- A `ToxAvImpl`. -/
structure ToxAvImpl where
  tox : ℕ := 0
  held : Bool := false
  deriving DecidableEq, Repr

/-- All Java objects, both managers, and the native objects that exist. -/
structure Program where
  core : Handles := {}
  av : Handles := {}
  toxes : ℕ → Option NewTox := fun _ => none
  toxAvs : ℕ → Option NewToxAv := fun _ => none
  cores : ℕ → ToxCoreImpl := fun _ => {}
  avs : ℕ → ToxAvImpl := fun _ => {}

namespace Program

def setCore (s : Program) (c : ℕ) (obj : ToxCoreImpl) : Program :=
  { s with cores := Function.update s.cores c obj }

def setAv (s : Program) (a : ℕ) (obj : ToxAvImpl) : Program :=
  { s with avs := Function.update s.avs a obj }

def setField (s : Program) (c : ℕ) (av : AvField) : Program :=
  s.setCore c { s.cores c with av }

/-- Reading or writing `av->tox` after that was deleted. -/
def toxDeleted : String := "av->tox is deleted"

/-- `new_tox_kill`. -/
def newToxKill (s : Program) (tox : ℕ) : Checked Program := do
  Checked.assert (s.toxes tox).isSome "tox is deleted"
  return { s with toxes := Function.update s.toxes tox none }

/-- `new_toxav_new`, on behalf of the `a`-th session. `created` tells whether the legacy
    `toxav_new` returns an object; `toxAvNew` goes through the pointer without a check. -/
def newToxAvNew (s : Program) (tox : ℕ) (a : ℕ) (created : Bool) : Checked Program :=
  match s.toxes tox with
  | none => .error toxDeleted
  | some newTox =>
    if newTox.hasAv then .error "toxav_callback_call(nullptr), TOXAV_ERR_NEW_MULTIPLE"
    else if !created then .error "toxav_callback_call(nullptr), TOXAV_ERR_NEW_MALLOC"
    else .ok { s with
      toxes := Function.update s.toxes tox (some { newTox with hasAv := true })
      toxAvs := Function.update s.toxAvs a (some { tox }) }

/-- `new_toxav_kill`. -/
def newToxAvKill (s : Program) (a : ℕ) : Checked Program :=
  match s.toxAvs a with
  | none => .error "av is deleted"
  | some av =>
    match s.toxes av.tox with
    | none => .error toxDeleted
    | some newTox => .ok { s with
        toxes := Function.update s.toxes av.tox (some { newTox with hasAv := false })
        toxAvs := Function.update s.toxAvs a none }

/-- The deleter of the core manager runs on the object an operation destroys. -/
def deleteTox (s : Program) : Reply ℕ → Checked Program
  | .destroyed (some tox) => s.newToxKill tox
  | _ => .ok s

/-- The deleter of the A/V manager. -/
def deleteToxAv (s : Program) : Reply ℕ → Checked Program
  | .destroyed (some a) => s.newToxAvKill a
  | _ => .ok s

/-- The exception an operation throws. -/
def thrown : Reply ℕ → Option Throwable
  | .threw e => some e
  | _ => none

/-- `toxKill`, for the number of the `c`-th core. -/
def toxKill (s : Program) (c : ℕ) : Checked (Option Throwable × Program) := do
  let (reply, core) ← s.core.run (.kill c)
  let s ← { s with core }.deleteTox reply
  return (thrown reply, s)

/-- `ToxCoreImpl.finalize`. -/
def coreFinalize (s : Program) (c : ℕ) : Checked (Option Throwable × Program) := do
  let (reply, core) ← s.core.run (.finalize c)
  let s ← { s with core }.deleteTox reply
  return (thrown reply, s)

/-- `toxAvKill`, for the number of the `a`-th session. -/
def toxAvKill (s : Program) (a : ℕ) : Checked (Option Throwable × Program) := do
  let (reply, av) ← s.av.run (.kill a)
  let s ← { s with av }.deleteToxAv reply
  return (thrown reply, s)

/-- `toxAvKill(0)`. -/
def toxAvKillZero (s : Program) : Checked (Option Throwable × Program) := do
  let (reply, manager) ← (Op.kill 0).run s.av.manager
  return (thrown reply, { s with av := { s.av with manager } })

/-- `ToxAvImpl.finalize`. -/
def avFinalize (s : Program) (a : ℕ) : Checked (Option Throwable × Program) := do
  let (reply, av) ← s.av.run (.finalize a)
  let s ← { s with av }.deleteToxAv reply
  return (thrown reply, s)

/-- `toxAvNew`: a `with_instance` of the core manager, whose function adds to the A/V manager. -/
def toxAvNew (s : Program) (c : ℕ) (created grows : Bool) :
    Checked (Option Throwable × Program) := do
  let (reply, core) ← s.core.run (.withInstance c)
  let s := { s with core }
  match reply with
  | .ran (some tox) =>
    let s ← s.newToxAvNew tox s.av.handles.length created
    let (_, av) ← s.av.run (.add grows)
    return (none, { s with av })
  | reply => return (thrown reply, s)

/-- The constructor of `ToxCoreImpl`. When `toxNew` throws, nothing refers to the new object,
    and its finalizer does nothing for the number 0. -/
def newToxCoreImpl (s : Program) (created grows : Bool) : Checked Program :=
  if !created then .ok s
  else do
    let c := s.core.handles.length
    let (_, core) ← s.core.run (.add grows)
    return { s with core, toxes := Function.update s.toxes c (some {}) }.setCore c { held := true }

/-- The constructor of `ToxAvImpl`. -/
def newToxAvImpl (s : Program) (c : ℕ) (created grows : Bool) :
    Checked (Option Throwable × Program) := do
  let a := s.av.handles.length
  let s := s.setField c .incomplete
  match ← s.toxAvNew c created grows with
  | (some e, s) => return (some e, s)
  | (none, s) => return (none, (s.setAv a { tox := c, held := true }).setField c (.session a))

/-- `ToxAvImpl.close`. -/
def closeAv (s : Program) (a : ℕ) : Checked (Option Throwable × Program) :=
  (s.setField (s.avs a).tox .null).toxAvKill a

/-- `ToxCoreImpl.close`. -/
def closeCore (s : Program) (c : ℕ) : Checked (Option Throwable × Program) := do
  let (e, s) ←
    match (s.cores c).av with
    | .null => pure (none, s)
    | .incomplete => (s.setField c .null).toxAvKillZero
    | .session a => s.closeAv a
  match e with
  | some e => return (some e, s)
  | none => s.toxKill c

end Program

/-- What the program and the garbage collector do. -/
inductive JavaOp where
  | newCore (created grows : Bool)
  | newAv (c : ℕ) (created grows : Bool)
  | closeCore (c : ℕ)
  | closeAv (a : ℕ)
  /-- The program drops its references to a core. -/
  | dropCore (c : ℕ)
  /-- The program drops its references to a session. -/
  | dropAv (a : ℕ)
  | finalizeCore (c : ℕ)
  | finalizeAv (a : ℕ)
  deriving DecidableEq, Repr

namespace Program

/-- An operation. The finalizers print exceptions and go on. -/
def run (s : Program) : JavaOp → Checked Program
  | .newCore created grows => s.newToxCoreImpl created grows
  | .newAv c created grows => Prod.snd <$> s.newToxAvImpl c created grows
  | .closeCore c => Prod.snd <$> s.closeCore c
  | .closeAv a => Prod.snd <$> s.closeAv a
  | .dropCore c => .ok (s.setCore c { s.cores c with held := false })
  | .dropAv a => .ok (s.setAv a { s.avs a with held := false })
  | .finalizeCore c => Prod.snd <$> s.coreFinalize c
  | .finalizeAv a => Prod.snd <$> s.avFinalize a

def Step (s : Program) (op : JavaOp) (s' : Program) : Prop := s.run op = .ok s'

/-- The core can be reached from the program, maybe through one of its sessions. -/
def CoreReachable (s : Program) (c : ℕ) : Prop :=
  (s.cores c).held = true ∨
    ∃ a < s.av.handles.length, (s.avs a).held = true ∧ (s.avs a).tox = c

/-- The session can be reached from the program, maybe through the core. -/
def AvReachable (s : Program) (a : ℕ) : Prop :=
  (s.avs a).held = true ∨
    s.CoreReachable (s.avs a).tox ∧ (s.cores (s.avs a).tox).av = .session a

/-- The sessions of a core that were neither closed nor finalized. -/
def OpenSession (s : Program) (c a : ℕ) : Prop :=
  s.av.isLive a = true ∧ (s.avs a).tox = c

/-- What a program can do with the objects it holds, and the garbage collector with those that
    cannot be reached: each is finalized once. Sessions are only opened on a core that was not
    closed and has no open session. -/
def Allowed (s : Program) : JavaOp → Prop
  | .newCore _ _ => True
  | .newAv c _ _ => (s.cores c).held = true ∧ s.core.isLive c = true ∧
      ∀ a < s.av.handles.length, ¬ s.OpenSession c a
  | .closeCore c | .dropCore c => (s.cores c).held = true
  | .closeAv a | .dropAv a => (s.avs a).held = true
  | .finalizeCore c => s.core.Usable c ∧ ¬ s.CoreReachable c
  | .finalizeAv a => s.av.Usable a ∧ ¬ s.AvReachable a

/-- When a core that was not closed before is closed, `av` leads to its open session, if there
    is one; when it is finalized, none is open. There are numbers for new objects. -/
def Orderly (s : Program) : JavaOp → Prop
  | .newCore _ _ => s.core.outstanding < 2 ^ 31 - 1
  | .newAv _ _ _ => s.av.outstanding < 2 ^ 31 - 1
  | .closeCore c => s.core.isLive c = true →
      ∀ a < s.av.handles.length, s.OpenSession c a → (s.cores c).av = .session a
  | .finalizeCore c => s.core.isLive c = true →
      ∀ a < s.av.handles.length, ¬ s.OpenSession c a
  | _ => True

/-- Every `new_ToxAV` that exists was created on a `new_Tox` that still exists. -/
def CoresOutlive (s : Program) : Prop :=
  ∀ a av, s.toxAvs a = some av → (s.toxes av.tox).isSome = true

instance (s : Program) (c : ℕ) : Decidable (s.CoreReachable c) :=
  inferInstanceAs (Decidable (_ ∨ _))

instance (s : Program) (a : ℕ) : Decidable (s.AvReachable a) :=
  inferInstanceAs (Decidable (_ ∨ _))

instance (s : Program) (c a : ℕ) : Decidable (s.OpenSession c a) :=
  inferInstanceAs (Decidable (_ ∧ _))

instance (s : Program) : (op : JavaOp) → Decidable (s.Allowed op)
  | .newCore _ _ => inferInstanceAs (Decidable True)
  | .newAv _ _ _ => inferInstanceAs (Decidable (_ ∧ _))
  | .closeCore _ | .dropCore _ | .closeAv _ | .dropAv _ => inferInstanceAs (Decidable (_ = _))
  | .finalizeCore _ | .finalizeAv _ => inferInstanceAs (Decidable (_ ∧ _))

instance (s : Program) : (op : JavaOp) → Decidable (s.Orderly op)
  | .newCore _ _ | .newAv _ _ _ => inferInstanceAs (Decidable (_ < _))
  | .closeCore _ | .finalizeCore _ => inferInstanceAs (Decidable (_ → _))
  | .closeAv _ | .dropCore _ | .dropAv _ | .finalizeAv _ => inferInstanceAs (Decidable True)

/-- Executes operations as long as each meets the condition. -/
def runOps (ok : Program → JavaOp → Prop) [∀ s op, Decidable (ok s op)] (s : Program)
    (ops : List JavaOp) : Checked Program :=
  ops.foldlM (fun s op => do
    Checked.assert (ok s op) "not allowed"
    s.run op) s

theorem run_of_runOps {ok : Program → JavaOp → Prop} [∀ s op, Decidable (ok s op)]
    {s s' : Program} {ops : List JavaOp} (h : s.runOps ok ops = .ok s') :
    Run (Guarded ok Step) s ops s' :=
  (Run.of_foldlM h).mono fun _ _ _ hstep => by
    simp only [Checked.bind_eq_ok, Checked.assert_eq_ok, decide_eq_true_eq] at hstep
    obtain ⟨_, hok, hrun⟩ := hstep
    exact ⟨hok, hrun⟩

end Program

end Tox4j.Java
