import Tox4j.Adapter.Friends
import Tox4j.Instances.ToxInstances

/-!
# `toxNew` and `toxAvNew`

The native methods that create objects. Besides the managers, the state has the native objects
that exist, so that an object can be seen that no manager owns. Callbacks are registered on an
object through its pointer, which goes wrong when that is null.
-/

namespace Tox4j.Adapter.ErrNew

/-- The name of an enumerator, after `TOX_ERR_NEW_`. -/
def name : ErrNew → String
  | .ok => "OK"
  | .null => "NULL"
  | .malloc => "MALLOC"
  | .portAlloc => "PORT_ALLOC"
  | .proxyBadHost => "PROXY_BAD_HOST"
  | .proxyBadPort => "PROXY_BAD_PORT"
  | .loadEncrypted => "LOAD_ENCRYPTED"
  | .loadBadFormat => "LOAD_BAD_FORMAT"

/-- The value of an enumerator. -/
def number : ErrNew → Int32
  | .ok => 0
  | .null => 1
  | .malloc => 2
  | .portAlloc => 3
  | .proxyBadHost => 4
  | .proxyBadPort => 5
  | .loadEncrypted => 7
  | .loadBadFormat => 8

end Tox4j.Adapter.ErrNew

namespace Tox4j.Instances

open Tox4j.Misc Tox4j.Adapter

/-- What a native method throws. -/
inductive NativeException where
  /-- `throw_tox_exception`: the exception of a method, with a code of its `Code` enum. -/
  | tox (module method code : String)
  | other (exception : Throwable)
  deriving DecidableEq, Repr

/-- `ErrorHandling`. -/
inductive ErrorHandling where
  | success
  | failure (error : String)
  | unhandled
  deriving DecidableEq, Repr

/-- A manager, and the native objects that exist. -/
structure Native (Object Events Mutex : Type) where
  manager : InstanceManager Object Events Mutex := {}
  alive : List Object := []

/-- How a native method returns: with this number, and maybe with a pending exception. -/
structure Returned (σ : Type) where
  number : Int32
  exception : Option NativeException
  state : σ

/-- `with_error_handling`, for the result of the function it calls. On a failure the value is
    dropped. -/
def withErrorHandling {Value Error σ : Type} (module method : String)
    (errorFunc : Error → ErrorHandling) (errorNumber : Error → Int32)
    (successFunc : Value → σ → Checked (Int32 × σ)) (result : Value × Error) (s : σ) :
    Checked (Returned σ) :=
  match errorFunc result.2 with
  | .success => do
    let (number, s) ← successFunc result.1 s
    return ⟨number, none, s⟩
  | .failure error => .ok ⟨0, some (.tox module method error), s⟩
  | .unhandled => .ok ⟨0,
      some (.other (throwIllegalStateException (errorNumber result.2) "Unknown error code")), s⟩

/-- The number that `add` returned. -/
def Reply.number {Object : Type} : Reply Object → Int32
  | .added instanceNumber => instanceNumber
  | _ => 0

section

variable {Object Events Mutex : Type}

/-- Makes an instance from an object and adds it to the manager. -/
def Native.register (s : Native Object Events Mutex) (object : Option Object) (events : Events)
    (mutex : Mutex) (grows : Bool) : Checked (Int32 × Native Object Events Mutex) := do
  let inst ← ToxInstance.make object (some events) (some mutex)
  let (reply, manager) ← s.manager.add inst grows
  return (reply.number, { s with manager })

end

/-- The switch over the error of `tox_new`. -/
def newErrorFunc : ErrNew → ErrorHandling
  | .ok => .success
  | error => .failure error.name

/-- The arguments of `toxNew`. `ToxOptions` has no port out of range. `optionsAllocated` and
    `outOfMemory` tell how the allocations inside end. -/
structure NewArgs where
  saveData : Option (List UInt8)
  options : NewToxOptions
  optionsAllocated : Bool := true
  outOfMemory : Bool := false

namespace NewArgs

variable {Tox : Type} (lg : Toxcore Tox) (args : NewArgs)

/-- What `tox_new` returns and reports. -/
def result : Option Tox × ErrNew :=
  newToxNew lg (some args.options) args.saveData (args.saveData.elim 0 List.length)
    args.outOfMemory

/-- The error that is reported. -/
def reported : ErrNew := if args.optionsAllocated then (args.result lg).2 else .malloc

end NewArgs

/-- `Java_im_tox_tox4j_ToxCoreImpl_toxNew`. -/
def toxNew {Tox Events Mutex : Type} (lg : Toxcore Tox) (s : Native Tox Events Mutex)
    (args : NewArgs) (events : Events) (mutex : Mutex) (grows : Bool) :
    Checked (Returned (Native Tox Events Mutex)) :=
  if !args.optionsAllocated then .ok ⟨0, some (.tox "core" "New" "MALLOC"), s⟩
  else
    let result := args.result lg
    let s := { s with alive := result.1.toList ++ s.alive }
    withErrorHandling "core" "New" newErrorFunc ErrNew.number (fun tox s => do
      Checked.assert tox.isSome "tox != nullptr"
      s.register tox events mutex grows) result s

/-- `TOXAV_ERR_NEW`. -/
inductive ErrAvNew where
  | ok
  | null
  | malloc
  | multiple
  deriving DecidableEq, Repr

/-- The name of an enumerator, after `TOXAV_ERR_NEW_`. -/
def ErrAvNew.name : ErrAvNew → String
  | .ok => "OK"
  | .null => "NULL"
  | .malloc => "MALLOC"
  | .multiple => "MULTIPLE"

/-- The core manager, `has_av` of every `new_Tox`, and the A/V side. -/
structure AvNative (Tox ToxAv Events Mutex : Type) where
  core : InstanceManager Tox Events Mutex := {}
  hasAv : Tox → Bool
  av : Native ToxAv Events Mutex := {}

section

variable {Tox ToxAv Events Mutex : Type} [DecidableEq Tox]

/-- `new_toxav_new`; `created` is what the legacy `toxav_new` returns. The error is MALLOC also
    when a session was created. -/
def newToxAvNew (s : AvNative Tox ToxAv Events Mutex) (tox : Option Tox) (created : Option ToxAv) :
    (Option ToxAv × ErrAvNew) × AvNative Tox ToxAv Events Mutex :=
  match tox with
  | none => ((none, .null), s)
  | some tox =>
    if s.hasAv tox then ((none, .multiple), s)
    else match created with
      | none => ((none, .malloc), s)
      | some av =>
        ((some av, .malloc), { s with
          hasAv := Function.update s.hasAv tox true
          av := { s.av with alive := av :: s.av.alive } })

/-- `Java_im_tox_tox4j_ToxAvImpl_toxAvNew`. What `toxav_new` reports is not looked at. -/
def toxAvNew (s : AvNative Tox ToxAv Events Mutex) (toxInstanceNumber : Int32)
    (created : Option ToxAv) (events : Events) (mutex : Mutex) (grows : Bool) :
    Checked (Returned (AvNative Tox ToxAv Events Mutex)) := do
  let (reply, core) ← s.core.withInstance toxInstanceNumber
  let s := { s with core }
  match reply with
  | .ran tox =>
    let ((av, _), s) := newToxAvNew s tox created
    -- the first write through the pointer
    Checked.assert av.isSome "toxav_callback_call (nullptr, ...)"
    let (number, av) ← s.av.register av events mutex grows
    return ⟨number, none, { s with av }⟩
  | .threw exception => return ⟨0, some (.other exception), s⟩
  | .added _ | .destroyed _ | .done => return ⟨0, none, s⟩

end

section

variable {Object Events Mutex : Type}

/-- There is a number for one more instance. -/
def InstanceManager.HasNumber (manager : InstanceManager Object Events Mutex) : Prop :=
  manager.freelist ≠ [] ∨ manager.instances.length < 2 ^ 31 - 1

/-- An object was created, and the manager owns it under a number that was not in use. -/
def Native.Created (s s' : Native Object Events Mutex) (number : Int32) : Prop :=
  ∃ object i, s'.alive = object :: s.alive ∧ 0 < number ∧ s'.manager.slot number = .ok i ∧
    i.live = true ∧ i.tox = some object ∧
    ∀ i, s.manager.slot number = .ok i → i.live = false

/-- No exception is pending, and an object was created and is owned by the manager under the
    number that was returned; or an exception with what was reported is pending, the manager is as
    it was, and so are the objects that exist. -/
def AllOrNothing (s s' : Native Object Events Mutex) (number : Int32)
    (exception : Option NativeException) (reported : NativeException → Prop) : Prop :=
  exception = none ∧ s.Created s' number ∨
    ∃ e, exception = some e ∧ reported e ∧ s'.manager = s.manager ∧ s'.alive = s.alive

end

/-- `toxNew` returns, and creates all or nothing. -/
def ToxNewAllOrNothing {Tox Events Mutex : Type} (lg : Toxcore Tox) (s : Native Tox Events Mutex)
    (args : NewArgs) (events : Events) (mutex : Mutex) (grows : Bool) : Prop :=
  ∃ r, toxNew lg s args events mutex grows = .ok r ∧
    AllOrNothing s r.state r.number r.exception (· = .tox "core" "New" (args.reported lg).name)

/-- When the legacy core makes an instance, the save data can be loaded into it and there is a
    number for it. -/
def ToxNewFine {Tox Events Mutex : Type} (lg : Toxcore Tox) (s : Native Tox Events Mutex)
    (args : NewArgs) : Prop :=
  args.optionsAllocated = true → ∀ opts tox, toxNewOptions lg (some args.options) = .ok opts →
    lg.toxNew opts = some tox →
      (∀ data, args.saveData = some data → data ≠ [] →
        (lg.load (registerCustomPacketHandlers lg tox) (data.take (data.length % 2 ^ 32))).1 ∉
          [-1, 1]) ∧
      s.manager.HasNumber

section

variable {Tox ToxAv Events Mutex : Type} [DecidableEq Tox]

/-- What is reported to `toxAvNew`: the exception of `with_instance`, or the error of
    `toxav_new`. -/
def AvReported (s : AvNative Tox ToxAv Events Mutex) (toxInstanceNumber : Int32)
    (created : Option ToxAv) (e : NativeException) : Prop :=
  (∃ exception core, s.core.withInstance toxInstanceNumber = .ok (.threw exception, core) ∧
      e = .other exception) ∨
    ∃ tox core, s.core.withInstance toxInstanceNumber = .ok (.ran tox, core) ∧
      e = .tox "av" "New" (newToxAvNew s tox created).1.2.name

/-- `toxAvNew` returns, and creates all or nothing. -/
def ToxAvNewAllOrNothing (s : AvNative Tox ToxAv Events Mutex) (toxInstanceNumber : Int32)
    (created : Option ToxAv) (events : Events) (mutex : Mutex) (grows : Bool) : Prop :=
  ∃ r, toxAvNew s toxInstanceNumber created events mutex grows = .ok r ∧
    r.state.core = s.core ∧
    AllOrNothing s.av r.state.av r.number r.exception (AvReported s toxInstanceNumber created)

/-- When the number is that of a live core, that has no session yet, the legacy library makes one,
    and there is a number for it. -/
def ToxAvNewFine (s : AvNative Tox ToxAv Events Mutex) (toxInstanceNumber : Int32)
    (created : Option ToxAv) : Prop :=
  ∀ i tox, 0 < toxInstanceNumber → s.core.slot toxInstanceNumber = .ok i → i.live = true →
    i.tox = some tox →
      s.hasAv tox = false ∧ created.isSome = true ∧ s.av.manager.HasNumber

end

end Tox4j.Instances
