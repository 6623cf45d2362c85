import Tox4j.Java.Events
import Tox4j.Misc.Mailbox

/-!
# A `ToxCoreImpl` and its listeners over time

A client sets and unsets the callbacks of a `ToxCoreImpl` whenever it likes, and calls `iteration`
every now and then. The native callbacks fill the `CoreEvents` of the instance in the meantime.
-/

namespace Tox4j.Java

open Tox4j.Misc

/-- What happens to a `ToxCoreImpl`. -/
inductive CoreCall (Listener : Type) where
  /-- `callbackFriendName` and its fifteen siblings; `none` is `null`. -/
  | setCallback (kind : EventKind) (listener : Option Listener)
  /-- `AbstractToxCore.callback`. -/
  | callback (handler : Option Listener)
  /-- A native callback. -/
  | event (event : NativeEvent)
  /-- `iteration`, with what `tox_iteration` reports. -/
  | iteration (batch : List NativeEvent)
  deriving DecidableEq, Repr

/-- The events of the instance, the callback fields of the object, and what its listeners have been
    told. -/
structure CoreSession (Listener : Type) where
  events : CoreEvents := {}
  callbacks : EventKind → Option Listener := fun _ => none
  heard : List (Listener × ListenerCall) := []

section

variable {Listener Bytes : Type}

/-- The order in which `AbstractToxCore.callback` sets the callbacks. -/
def handlerOrder : List EventKind :=
  [.connectionStatus, .fileControl, .fileReceive, .fileReceiveChunk, .fileRequestChunk,
    .friendAction, .friendConnectionStatus, .friendMessage, .friendName, .friendRequest,
    .friendStatus, .friendStatusMessage, .friendTyping, .friendLosslessPacket,
    .friendLossyPacket, .readReceipt]

def CoreSession.step (proto : Protobuf Bytes) (s : CoreSession Listener) :
    CoreCall Listener → Except String (CoreSession Listener)
  | .setCallback kind listener =>
      .ok { s with callbacks := Function.update s.callbacks kind listener }
  | .callback handler =>
      .ok { s with
        callbacks := handlerOrder.foldl (fun callbacks kind =>
          Function.update callbacks kind handler) s.callbacks }
  | .event event => .ok { s with events := s.events.add event }
  | .iteration batch => do
      let (calls, events) := iteration proto (fun kind => (s.callbacks kind).isSome) s.events batch
      let calls ← calls
      -- a loop calls the callback it has found not to be null
      return { s with
        events
        heard := s.heard ++ calls.filterMap fun call =>
          (s.callbacks call.kind).map fun listener => (listener, call) }

/-- What happens to an object, one thing after the other. -/
def CoreSession.run (proto : Protobuf Bytes) (s : CoreSession Listener)
    (calls : List (CoreCall Listener)) : Except String (CoreSession Listener) :=
  calls.foldlM (CoreSession.step proto) s

/-- `CoreEvents` stores events until the sixteen loops report them. -/
def coreMailbox : Mailbox NativeEvent EventKind ListenerCall CoreEvents where
  empty := {}
  add := CoreEvents.add
  calls := CoreEvents.calls
  order := replayOrder

def CoreCall.mails : CoreCall Listener → List (Mail NativeEvent EventKind Listener)
  | .setCallback kind listener => [.register kind listener]
  | .callback handler => handlerOrder.map fun kind => .register kind handler
  | .event e => [.event e]
  | .iteration batch => batch.map .event ++ [.collect]

def CoreSession.mailbox (s : CoreSession Listener) :
    Mailbox.State EventKind Listener ListenerCall CoreEvents where
  box := s.events
  listeners := s.callbacks
  heard := s.heard

/-- What the listeners hear of a kind: its events, each told to the listener that the next
    `iteration` finds. -/
def heardOf (kind : EventKind) (calls : List (CoreCall Listener)) :
    List (Listener × ListenerCall) :=
  (reported NativeEvent.kind kind none (calls.flatMap CoreCall.mails)).map
    (Prod.map id NativeEvent.listenerCall)

end

end Tox4j.Java
