import Mathlib.Tactic
import Tox4j.Misc.Checked

/-!
# `ToxInstances.h` and `with_instance.h`: native objects behind Java numbers

An `instance_manager` owns the native objects of one kind (`Tox` or `ToxAV`) in a vector; Java
holds their numbers, which are indexes into the vector plus one. The templates are generic in
the kind, so the model is generic in the types of the native object, its events and its mutex;
an owning pointer is an `Option`, null after it was moved from.

An operation runs under the manager's mutex, which the helpers assert to be locked. Its parts
are functions of their own: the operations here run them one after the other, threads that
take turns run them one at a time.
-/

namespace Tox4j.Instances

open Tox4j.Misc

/-- A Java exception thrown by a native function. -/
inductive Throwable where
  | toxKilled (message : String)
  | illegalState (message : String)
  deriving DecidableEq, Repr

/-- `fullMessage`. -/
def fullMessage (instanceNumber : Int32) (message : String) : String :=
  message ++ ", instance_number = " ++ toString instanceNumber.toInt

/-- `throw_tox_killed_exception`. -/
def throwToxKilledException (instanceNumber : Int32) (message : String) : Throwable :=
  .toxKilled (fullMessage instanceNumber message)

/-- `throw_illegal_state_exception`. -/
def throwIllegalStateException (instanceNumber : Int32) (message : String) : Throwable :=
  .illegalState (fullMessage instanceNumber message)

/-! ## `tox_instance` -/

/-- `tox_instance`: live, or dead with all pointers null. -/
@[ext]
structure ToxInstance (Tox Events Mutex : Type) where
  live : Bool := true
  tox : Option Tox
  events : Option Events
  mutex : Option Mutex
  deriving DecidableEq, Repr

namespace ToxInstance

variable {Tox Events Mutex : Type}

def isLive (self : ToxInstance Tox Events Mutex) : Bool := self.live

def isDead (self : ToxInstance Tox Events Mutex) : Bool := !self.live

/-- `tox_instance::assertValid`. -/
def assertValid (self : ToxInstance Tox Events Mutex) : Checked Unit :=
  if self.isLive then do
    Checked.assert self.tox.isSome "tox != nullptr"
    Checked.assert self.events.isSome "events != nullptr"
    Checked.assert self.mutex.isSome "mutex != nullptr"
  else do
    Checked.assert self.tox.isNone "tox == nullptr"
    Checked.assert self.events.isNone "events == nullptr"
    Checked.assert self.mutex.isNone "mutex == nullptr"

/-- The constructor from three pointers. -/
def make (tox : Option Tox) (events : Option Events) (mutex : Option Mutex) :
    Checked (ToxInstance Tox Events Mutex) := do
  let self : ToxInstance Tox Events Mutex := { tox, events, mutex }
  self.assertValid
  return self

/-- What is left of an instance that was moved from. -/
def movedFrom : ToxInstance Tox Events Mutex :=
  { live := false, tox := none, events := none, mutex := none }

/-- The move constructor: the new instance, and what is left of the old one. -/
def move (rhs : ToxInstance Tox Events Mutex) :
    Checked (ToxInstance Tox Events Mutex × ToxInstance Tox Events Mutex) := do
  let self : ToxInstance Tox Events Mutex :=
    { live := rhs.live, tox := rhs.tox, events := rhs.events, mutex := rhs.mutex }
  self.assertValid
  (movedFrom : ToxInstance Tox Events Mutex).assertValid
  return (self, movedFrom)

/-- Move assignment: both instances afterwards. -/
def moveAssign (self rhs : ToxInstance Tox Events Mutex) :
    Checked (ToxInstance Tox Events Mutex × ToxInstance Tox Events Mutex) := do
  Checked.assert self.isDead "this->isDead()"
  Checked.assert rhs.isLive "rhs.isLive()"
  self.assertValid
  rhs.assertValid
  let self : ToxInstance Tox Events Mutex :=
    { live := true, tox := rhs.tox, events := rhs.events, mutex := rhs.mutex }
  self.assertValid
  (movedFrom : ToxInstance Tox Events Mutex).assertValid
  return (self, movedFrom)

end ToxInstance

/-! ## `instance_manager` -/

/-- `instance_manager`. `locked` tells whether `mutex` is held. -/
@[ext]
structure InstanceManager (Tox Events Mutex : Type) where
  instances : List (ToxInstance Tox Events Mutex) := []
  freelist : List Int32 := []
  locked : Bool := false
  deriving DecidableEq, Repr

/-- What is done to native objects by an operation, and how it ends. -/
inductive Reply (Tox : Type) where
  /-- `add` returned this number. -/
  | added (instanceNumber : Int32)
  /-- The operation threw an exception. -/
  | threw (exception : Throwable)
  /-- The function ran on this object. -/
  | ran (tox : Option Tox)
  /-- This object was destroyed. -/
  | destroyed (tox : Option Tox)
  /-- The operation returned and touched no object. -/
  | done
  deriving DecidableEq, Repr

namespace InstanceManager

variable {Tox Events Mutex : Type}

/-- The index into `instances` for a positive number. -/
def index (instanceNumber : Int32) : ℕ := instanceNumber.toInt.toNat - 1

/-- `instance_manager::isValid`. -/
def isValid (self : InstanceManager Tox Events Mutex) (instanceNumber : Int32) :
    Checked Bool := do
  Checked.assert self.locked "is_locked()"
  return decide (0 < instanceNumber) && decide (instanceNumber.toInt.toNat ≤ self.instances.length)

/-- `instance_manager::isFree`. -/
def isFree (self : InstanceManager Tox Events Mutex) (instanceNumber : Int32) :
    Checked Bool := do
  Checked.assert self.locked "is_locked()"
  return self.freelist.contains instanceNumber

/-- `instance_manager::setFree`. -/
def setFree (self : InstanceManager Tox Events Mutex) (instanceNumber : Int32) :
    Checked (InstanceManager Tox Events Mutex) := do
  Checked.assert self.locked "is_locked()"
  return { self with freelist := self.freelist ++ [instanceNumber] }

/-- `instances[instance_number - 1]`; outside of the vector nothing is promised. -/
def slot (self : InstanceManager Tox Events Mutex) (instanceNumber : Int32) :
    Checked (ToxInstance Tox Events Mutex) :=
  match self.instances[index instanceNumber]? with
  | some inst => .ok inst
  | none => .error "instances[instance_number - 1]"

/-- Changes `instances[instance_number - 1]`. -/
def setSlot (self : InstanceManager Tox Events Mutex) (instanceNumber : Int32)
    (inst : ToxInstance Tox Events Mutex) : InstanceManager Tox Events Mutex :=
  { self with instances := self.instances.set (index instanceNumber) inst }

/-- `instance_manager::operator[]`. -/
def get (self : InstanceManager Tox Events Mutex) (instanceNumber : Int32) :
    Checked (ToxInstance Tox Events Mutex) := do
  Checked.assert self.locked "is_locked()"
  self.slot instanceNumber

/-- `instance_manager::remove`: what is left in the vector was moved from. -/
def remove (self : InstanceManager Tox Events Mutex) (instanceNumber : Int32) :
    Checked (ToxInstance Tox Events Mutex × InstanceManager Tox Events Mutex) := do
  Checked.assert self.locked "is_locked()"
  let inst ← self.slot instanceNumber
  let (dying, rest) ← inst.move
  return (dying, self.setSlot instanceNumber rest)

/-- `instance_manager::empty`. -/
def empty (self : InstanceManager Tox Events Mutex) : Checked Bool := do
  Checked.assert self.locked "is_locked()"
  return self.instances.isEmpty

/-- `instance_manager::size`. -/
def size (self : InstanceManager Tox Events Mutex) : Checked ℕ := do
  Checked.assert self.locked "is_locked()"
  return self.instances.length

/-- `instances.push_back(std::move(instance))`. A vector that has to grow moves its elements. -/
def pushBack (self : InstanceManager Tox Events Mutex) (inst : ToxInstance Tox Events Mutex)
    (grows : Bool) : Checked (InstanceManager Tox Events Mutex) := do
  let instances ←
    if grows then self.instances.mapM fun old => Prod.fst <$> old.move
    else pure self.instances
  let (new, _) ← inst.move
  return { self with instances := instances ++ [new] }

def lock (self : InstanceManager Tox Events Mutex) : InstanceManager Tox Events Mutex :=
  { self with locked := true }

def unlock (self : InstanceManager Tox Events Mutex) : InstanceManager Tox Events Mutex :=
  { self with locked := false }

/-- Runs the body of an operation under the manager's mutex. -/
def withLock {α : Type} (self : InstanceManager Tox Events Mutex)
    (body : InstanceManager Tox Events Mutex → Checked (α × InstanceManager Tox Events Mutex)) :
    Checked (α × InstanceManager Tox Events Mutex) := do
  let (a, self) ← body self.lock
  return (a, self.unlock)

/-- `instance_manager::add` under the lock. -/
def insert (self : InstanceManager Tox Events Mutex) (inst : ToxInstance Tox Events Mutex)
    (grows : Bool) : Checked (Int32 × InstanceManager Tox Events Mutex) :=
  match self.freelist.getLast? with
  | some instanceNumber => do
    -- use the last object that became unreachable
    Checked.assert (1 ≤ instanceNumber) "instance_number >= 1"
    let self := { self with freelist := self.freelist.dropLast }
    let old ← self.slot instanceNumber
    Checked.assert old.isDead "instances[instance_number - 1].isDead()"
    let (new, _) ← old.moveAssign inst
    Checked.assert new.isLive "instances[instance_number - 1].isLive()"
    return (instanceNumber, self.setSlot instanceNumber new)
  | none => do
    let self ← self.pushBack inst grows
    return (Int32.ofNat self.instances.length, self)

/-- `instance_manager::add`. -/
def add (self : InstanceManager Tox Events Mutex) (inst : ToxInstance Tox Events Mutex)
    (grows : Bool) : Checked (Reply Tox × InstanceManager Tox Events Mutex) :=
  self.withLock fun self => do
    let (instanceNumber, self) ← self.insert inst grows
    return (.added instanceNumber, self)

/-- The range checks of `instance_manager::kill`. -/
def killCheck (self : InstanceManager Tox Events Mutex) (instanceNumber : Int32) :
    Checked (Option Throwable) :=
  if instanceNumber < 0 then
    .ok (some (throwIllegalStateException instanceNumber "Tox instance out of range"))
  else do
    let valid ← self.isValid instanceNumber
    return if !valid then
      some (throwToxKilledException instanceNumber "close called on invalid instance") else none

/-- The mutex that is locked before an instance dies; `None` when it was dead already. -/
def killTest (dying : ToxInstance Tox Events Mutex) : Checked (Option Mutex) :=
  if dying.tox.isNone then .ok none
  else do
    Checked.assert dying.isLive "dying.isLive()"
    dying.assertValid
    return dying.mutex

/-- `instance_manager::kill`. -/
def kill (self : InstanceManager Tox Events Mutex) (instanceNumber : Int32) :
    Checked (Reply Tox × InstanceManager Tox Events Mutex) :=
  self.withLock fun self => do
    match ← self.killCheck instanceNumber with
    | some exception => return (.threw exception, self)
    | none =>
      let (dying, self) ← self.remove instanceNumber
      match ← killTest dying with
      | none => return (.done, self)
      | some _ => return (.destroyed dying.tox, self)

/-- The checks of `instance_manager::finalize`. -/
def finalizeCheck (self : InstanceManager Tox Events Mutex) (instanceNumber : Int32) :
    Checked (Option Throwable) := do
  if ← self.empty then
    return some (throwIllegalStateException instanceNumber "Tox instance manager is empty")
  else if !(← self.isValid instanceNumber) then
    return some (throwIllegalStateException instanceNumber
      ("Tox instance out of range (max: " ++ toString ((← self.size) - 1) ++ ")"))
  else if ← self.isFree instanceNumber then
    return some (throwIllegalStateException instanceNumber "Tox instance already on free list")
  else
    return none

/-- Takes a leaked instance out of the vector. -/
def finalizeRemove (self : InstanceManager Tox Events Mutex) (instanceNumber : Int32) :
    Checked (ToxInstance Tox Events Mutex × InstanceManager Tox Events Mutex) := do
  let (dying, self) ← self.remove instanceNumber
  Checked.assert dying.isLive "dying.isLive()"
  dying.assertValid
  return (dying, self)

/-- The end of `instance_manager::finalize`. -/
def finalizeFree (self : InstanceManager Tox Events Mutex) (instanceNumber : Int32) :
    Checked (InstanceManager Tox Events Mutex) := do
  let inst ← self.get instanceNumber
  Checked.assert inst.isDead "(*this)[instanceNumber].isDead()"
  self.setFree instanceNumber

/-- `instance_manager::finalize`. -/
def finalize (self : InstanceManager Tox Events Mutex) (instanceNumber : Int32) :
    Checked (Reply Tox × InstanceManager Tox Events Mutex) :=
  -- the constructor of the Java object threw
  if instanceNumber = 0 then .ok (.done, self)
  else self.withLock fun self => do
    match ← self.finalizeCheck instanceNumber with
    | some exception => return (.threw exception, self)
    | none =>
      let inst ← self.get instanceNumber
      if inst.isLive then
        let (dying, self) ← self.finalizeRemove instanceNumber
        let self ← self.finalizeFree instanceNumber
        return (.destroyed dying.tox, self)
      else
        let self ← self.finalizeFree instanceNumber
        return (.done, self)

/-- The checks of `with_instance`: the instance, or the exception it throws. -/
def withCheck (self : InstanceManager Tox Events Mutex) (instanceNumber : Int32) :
    Checked (Except Throwable (ToxInstance Tox Events Mutex)) := do
  if !(← self.isValid instanceNumber) then
    return .error (throwToxKilledException instanceNumber
      "Tox function invoked on invalid tox instance")
  else
    let inst ← self.get instanceNumber
    if !inst.isLive then
      return .error (throwToxKilledException instanceNumber
        "Tox function invoked on killed tox instance")
    else
      return .ok inst

/-- `tox_instance::with_lock` checks the pointers it goes through. -/
def withLockCheck (inst : ToxInstance Tox Events Mutex) : Checked Unit := do
  Checked.assert inst.mutex.isSome "mutex != nullptr"
  Checked.assert inst.events.isSome "events != nullptr"

/-- `with_instance`, up to what the function itself does. -/
def withInstance (self : InstanceManager Tox Events Mutex) (instanceNumber : Int32) :
    Checked (Reply Tox × InstanceManager Tox Events Mutex) :=
  if instanceNumber = 0 then
    .ok (.threw (throwIllegalStateException instanceNumber "Function called on incomplete object"),
      self)
  else self.withLock fun self => do
    match ← self.withCheck instanceNumber with
    | .error exception => return (.threw exception, self)
    | .ok inst =>
      withLockCheck inst
      return (.ran inst.tox, self)

end InstanceManager

/-- The operations of a manager. `add` is for an instance made from three non-null pointers. -/
inductive Op (Tox Events Mutex : Type) where
  | add (tox : Tox) (events : Events) (mutex : Mutex) (grows : Bool)
  | kill (instanceNumber : Int32)
  | finalize (instanceNumber : Int32)
  | withInstance (instanceNumber : Int32)
  deriving DecidableEq, Repr

/-- An operation of a manager. -/
def Op.run {Tox Events Mutex : Type} (manager : InstanceManager Tox Events Mutex) :
    Op Tox Events Mutex → Checked (Reply Tox × InstanceManager Tox Events Mutex)
  | .add tox events mutex grows => do
    let inst ← ToxInstance.make (some tox) (some events) (some mutex)
    manager.add inst grows
  | .kill instanceNumber => manager.kill instanceNumber
  | .finalize instanceNumber => manager.finalize instanceNumber
  | .withInstance instanceNumber => manager.withInstance instanceNumber

end Tox4j.Instances
