import Tox4j.Instances.Proofs.Operations

/-!
# Java objects and their numbers

Every Java object holds the number one call of `add` returned to it. The objects are known by
the order of their creation, and so are the native objects: the `h`-th handle was created for
the `h`-th native object. The finalizer runs at most once and after all other uses.
-/

namespace Tox4j.Instances

open Tox4j.Misc ToxInstance

/-- What is known of a Java object. -/
structure Handle where
  number : Int32
  killed : Bool := false
  finalized : Bool := false
  deriving DecidableEq, Repr

/-- A manager and all Java objects created so far. -/
structure Handles where
  manager : InstanceManager ℕ ℕ ℕ := {}
  handles : List Handle := []

/-- A use of the manager through a Java object. -/
inductive Use where
  | add (grows : Bool)
  | kill (h : ℕ)
  | finalize (h : ℕ)
  | withInstance (h : ℕ)
  deriving DecidableEq, Repr

namespace Handles

/-- An operation with the number of a handle, which is changed by it. -/
def call (s : Handles) (h : ℕ) (op : Int32 → Op ℕ ℕ ℕ) (change : Handle → Handle) :
    Checked (Reply ℕ × Handles) :=
  match s.handles[h]? with
  | none => .error "no such object"
  | some handle => do
    let (reply, manager) ← (op handle.number).run s.manager
    return (reply, { manager, handles := s.handles.set h (change handle) })

/-- A use: how the operation ends, and the state afterwards. -/
def run (s : Handles) : Use → Checked (Reply ℕ × Handles)
  | .add grows => do
    let native := s.handles.length
    let (reply, manager) ← (Op.add native native native grows).run s.manager
    match reply with
    | .added number => return (reply, { manager, handles := s.handles ++ [{ number }] })
    | _ => return (reply, { s with manager })
  | .kill h => s.call h .kill fun handle => { handle with killed := true }
  | .finalize h => s.call h .finalize fun handle => { handle with finalized := true }
  | .withInstance h => s.call h .withInstance id

def Step (s : Handles) (u : Use) (s' : Handles) : Prop :=
  ∃ reply, s.run u = .ok (reply, s')

/-- The objects whose finalizer has not run yet. -/
def outstanding (s : Handles) : ℕ := s.handles.countP fun handle => !handle.finalized

/-- The object exists and was not finalized. -/
def Usable (s : Handles) (h : ℕ) : Prop :=
  ∃ handle, s.handles[h]? = some handle ∧ handle.finalized = false

/-- The object was neither killed nor finalized. -/
def isLive (s : Handles) (h : ℕ) : Bool :=
  s.handles[h]?.any fun handle => !handle.killed && !handle.finalized

/-- Objects are not used after their finalizer has run. -/
def Allowed (s : Handles) : Use → Prop
  | .add _ => True
  | .kill h | .finalize h | .withInstance h => s.Usable h

/-- Moreover objects are only created while there are numbers for them: a `jint` has
    `2 ^ 31 - 1` positive values. -/
def Numbered (s : Handles) (u : Use) : Prop :=
  s.Allowed u ∧ ∀ grows, u = .add grows → s.outstanding < 2 ^ 31 - 1

/-- What a use may do: run the function on the handle's own object unless it was killed, and
    destroy no other object. -/
def OwnReply (s : Handles) (reply : Reply ℕ) : Use → Prop
  | .add _ => ∃ number, reply = .added number
  | .withInstance h => ∀ handle, s.handles[h]? = some handle →
      (handle.killed = false → reply = .ran (some h)) ∧
        (handle.killed = true → ∃ message, reply = .threw (.toxKilled message))
  | .kill h | .finalize h =>
      (∃ exception, reply = .threw exception) ∨ reply = .done ∨ reply = .destroyed (some h)

/-- Every use that is allowed ends well and concerns the handle's own object only. -/
def Isolated (s : Handles) : Prop :=
  ∀ u, s.Allowed u → ∃ reply s', s.run u = .ok (reply, s') ∧ s.OwnReply reply u

instance (s : Handles) (h : ℕ) : Decidable (s.Usable h) :=
  match hget : s.handles[h]? with
  | none => .isFalse fun ⟨_, hsome, _⟩ => by rw [hget] at hsome; cases hsome
  | some handle =>
    if hfin : handle.finalized = false then .isTrue ⟨handle, hget, hfin⟩
    else .isFalse fun ⟨_, hsome, hfalse⟩ => by
      rw [hget] at hsome
      cases hsome
      exact hfin hfalse

instance (s : Handles) : (u : Use) → Decidable (s.Numbered u)
  | .add _ => decidable_of_iff (s.outstanding < 2 ^ 31 - 1)
      ⟨fun h => ⟨trivial, fun _ _ => h⟩, fun h => h.2 _ rfl⟩
  | .kill h | .finalize h | .withInstance h => decidable_of_iff (s.Usable h)
      ⟨fun h => ⟨h, by simp⟩, fun h => h.1⟩

/-- Executes uses as long as they are allowed and there are numbers. -/
def runUses (s : Handles) (us : List Use) : Checked Handles :=
  us.foldlM (fun s u => do
    Checked.assert (s.Numbered u) "not allowed"
    Prod.snd <$> s.run u) s

theorem run_of_runUses {s s' : Handles} {us : List Use} (h : s.runUses us = .ok s') :
    Run (Guarded Numbered Step) s us s' :=
  (Run.of_foldlM h).mono fun _ _ _ hstep => by
    simp only [Checked.bind_eq_ok, Checked.assert_eq_ok, decide_eq_true_eq, Checked.map_eq_ok,
      Prod.exists] at hstep
    obtain ⟨_, hallowed, reply, _, hrun, rfl⟩ := hstep
    exact ⟨hallowed, reply, hrun⟩

end Handles

end Tox4j.Instances
