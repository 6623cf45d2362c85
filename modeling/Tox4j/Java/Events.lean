import Tox4j.Adapter.CorePrivate
import Tox4j.Misc.Regroup

/-!
# Events of one `tox_iteration`

Every native callback of `lifecycle.cpp` appends a protobuf message to the list of its kind in
`CoreEvents`. `toxIteration` hands the lists to Java as one byte array, and
`ToxCoreImpl.iteration` goes through them one after the other, in an order of its own.

The enumerations of `core.h`, `Core.proto` and `im.tox.tox4j.core.enums` have the same names,
and the conversions keep the name, so one type stands for all three. Protobuf itself is not part
of the repository: it is a parameter. `size_t` is 64 bits wide.
-/

namespace Tox4j.Java

open Tox4j.Adapter Tox4j.Misc

/-- `TOX_CONNECTION`, `Socket`, `ToxConnection`. -/
inductive ToxConnection where
  | none
  | tcp4
  | tcp6
  | udp4
  | udp6
  deriving DecidableEq, Repr

/-- `TOX_STATUS`, `FriendStatus.Kind`, `ToxStatus`. -/
inductive ToxStatus where
  | none
  | away
  | busy
  deriving DecidableEq, Repr

/-- A call of one of the `tox4j_*_cb`. -/
inductive NativeEvent where
  | connectionStatus (connectionStatus : ToxConnection)
  | friendName (friendNumber : UInt32) (name : List UInt8)
  | friendStatusMessage (friendNumber : UInt32) (message : List UInt8)
  | friendStatus (friendNumber : UInt32) (status : ToxStatus)
  | friendConnectionStatus (friendNumber : UInt32) (connectionStatus : ToxConnection)
  | friendTyping (friendNumber : UInt32) (isTyping : Bool)
  | readReceipt (friendNumber : UInt32) (messageId : UInt32)
  | friendRequest (publicKey : List UInt8) (message : List UInt8)
  | friendMessage (friendNumber : UInt32) (message : List UInt8)
  | friendAction (friendNumber : UInt32) (action : List UInt8)
  | fileControl (friendNumber : UInt32) (fileNumber : UInt32) (control : FileControl)
  | fileRequestChunk (friendNumber : UInt32) (fileNumber : UInt32) (position : UInt64)
      (length : UInt64)
  | fileReceive (friendNumber : UInt32) (fileNumber : UInt32) (kind : FileKind)
      (fileSize : UInt64) (filename : List UInt8)
  | fileReceiveChunk (friendNumber : UInt32) (fileNumber : UInt32) (position : UInt64)
      (data : List UInt8)
  | friendLossyPacket (friendNumber : UInt32) (data : List UInt8)
  | friendLosslessPacket (friendNumber : UInt32) (data : List UInt8)
  deriving DecidableEq, Repr

/-- The sixteen callbacks. -/
inductive EventKind where
  | connectionStatus
  | friendName
  | friendStatusMessage
  | friendStatus
  | friendConnectionStatus
  | friendTyping
  | readReceipt
  | friendRequest
  | friendMessage
  | friendAction
  | fileControl
  | fileRequestChunk
  | fileReceive
  | fileReceiveChunk
  | friendLossyPacket
  | friendLosslessPacket
  deriving DecidableEq, Repr

def NativeEvent.kind : NativeEvent → EventKind
  | .connectionStatus .. => .connectionStatus
  | .friendName .. => .friendName
  | .friendStatusMessage .. => .friendStatusMessage
  | .friendStatus .. => .friendStatus
  | .friendConnectionStatus .. => .friendConnectionStatus
  | .friendTyping .. => .friendTyping
  | .readReceipt .. => .readReceipt
  | .friendRequest .. => .friendRequest
  | .friendMessage .. => .friendMessage
  | .friendAction .. => .friendAction
  | .fileControl .. => .fileControl
  | .fileRequestChunk .. => .fileRequestChunk
  | .fileReceive .. => .fileReceive
  | .fileReceiveChunk .. => .fileReceiveChunk
  | .friendLossyPacket .. => .friendLossyPacket
  | .friendLosslessPacket .. => .friendLosslessPacket

/-- The friend an event is about. Whoever sends a friend request is not a friend yet. -/
def NativeEvent.friend : NativeEvent → Option UInt32
  | .connectionStatus .. | .friendRequest .. => none
  | .friendName f .. | .friendStatusMessage f .. | .friendStatus f ..
  | .friendConnectionStatus f .. | .friendTyping f .. | .readReceipt f ..
  | .friendMessage f .. | .friendAction f .. | .fileControl f .. | .fileRequestChunk f ..
  | .fileReceive f .. | .fileReceiveChunk f .. | .friendLossyPacket f ..
  | .friendLosslessPacket f .. => some f

/-! ## `Core.proto` -/

namespace Proto

structure ConnectionStatus where
  connectionStatus : ToxConnection

structure FileControl where
  friendNumber : UInt32
  fileNumber : UInt32
  control : Adapter.FileControl

structure FileReceive where
  friendNumber : UInt32
  fileNumber : UInt32
  kind : FileKind
  fileSize : UInt64
  filename : List UInt8

structure FileReceiveChunk where
  friendNumber : UInt32
  fileNumber : UInt32
  position : UInt64
  data : List UInt8

structure FileRequestChunk where
  friendNumber : UInt32
  fileNumber : UInt32
  position : UInt64
  length : UInt32

structure FriendAction where
  friendNumber : UInt32
  timeDelta : UInt32
  action : List UInt8

structure FriendConnectionStatus where
  friendNumber : UInt32
  connectionStatus : ToxConnection

structure FriendMessage where
  friendNumber : UInt32
  timeDelta : UInt32
  message : List UInt8

structure FriendName where
  friendNumber : UInt32
  name : List UInt8

structure FriendRequest where
  publicKey : List UInt8
  timeDelta : UInt32
  message : List UInt8

structure FriendStatus where
  friendNumber : UInt32
  status : ToxStatus

structure FriendStatusMessage where
  friendNumber : UInt32
  message : List UInt8

structure FriendTyping where
  friendNumber : UInt32
  isTyping : Bool

structure FriendLosslessPacket where
  friendNumber : UInt32
  data : List UInt8

structure FriendLossyPacket where
  friendNumber : UInt32
  data : List UInt8

structure ReadReceipt where
  friendNumber : UInt32
  messageId : UInt32

end Proto

/-- `CoreEvents`: one list for each kind. -/
structure CoreEvents where
  connectionStatus : List Proto.ConnectionStatus := []
  fileControl : List Proto.FileControl := []
  fileReceive : List Proto.FileReceive := []
  fileReceiveChunk : List Proto.FileReceiveChunk := []
  fileRequestChunk : List Proto.FileRequestChunk := []
  friendAction : List Proto.FriendAction := []
  friendConnectionStatus : List Proto.FriendConnectionStatus := []
  friendMessage : List Proto.FriendMessage := []
  friendName : List Proto.FriendName := []
  friendRequest : List Proto.FriendRequest := []
  friendStatus : List Proto.FriendStatus := []
  friendStatusMessage : List Proto.FriendStatusMessage := []
  friendTyping : List Proto.FriendTyping := []
  friendLosslessPacket : List Proto.FriendLosslessPacket := []
  friendLossyPacket : List Proto.FriendLossyPacket := []
  readReceipt : List Proto.ReadReceipt := []

/-- What protobuf does with a `CoreEvents`. -/
structure Protobuf (Bytes : Type) where
  serializeToArray : CoreEvents → Bytes
  /-- `none` is an `InvalidProtocolBufferException`. -/
  parseFrom : Bytes → Option CoreEvents

/-- What was serialised is parsed back as it was. -/
def Protobuf.RoundTrips {Bytes : Type} (proto : Protobuf Bytes) : Prop :=
  ∀ events, proto.parseFrom (proto.serializeToArray events) = some events

/-- `tox4j_*_cb`: the callbacks add their message at the end of their list. -/
def CoreEvents.add (events : CoreEvents) : NativeEvent → CoreEvents
  | .connectionStatus connectionStatus => { events with
      connectionStatus := events.connectionStatus ++ [{ connectionStatus }] }
  | .friendName friendNumber name => { events with
      friendName := events.friendName ++ [{ friendNumber, name }] }
  | .friendStatusMessage friendNumber message => { events with
      friendStatusMessage := events.friendStatusMessage ++ [{ friendNumber, message }] }
  | .friendStatus friendNumber status => { events with
      friendStatus := events.friendStatus ++ [{ friendNumber, status }] }
  | .friendConnectionStatus friendNumber connectionStatus => { events with
      friendConnectionStatus :=
        events.friendConnectionStatus ++ [{ friendNumber, connectionStatus }] }
  | .friendTyping friendNumber isTyping => { events with
      friendTyping := events.friendTyping ++ [{ friendNumber, isTyping }] }
  | .readReceipt friendNumber messageId => { events with
      readReceipt := events.readReceipt ++ [{ friendNumber, messageId }] }
  | .friendRequest publicKey message => { events with
      friendRequest := events.friendRequest ++ [{ publicKey, timeDelta := 0, message }] }
  | .friendMessage friendNumber message => { events with
      friendMessage := events.friendMessage ++ [{ friendNumber, timeDelta := 0, message }] }
  | .friendAction friendNumber action => { events with
      friendAction := events.friendAction ++ [{ friendNumber, timeDelta := 0, action }] }
  | .fileControl friendNumber fileNumber control => { events with
      fileControl := events.fileControl ++ [{ friendNumber, fileNumber, control }] }
  | .fileRequestChunk friendNumber fileNumber position length => { events with
      fileRequestChunk := events.fileRequestChunk ++
        [{ friendNumber, fileNumber, position, length := length.toUInt32 }] }
  | .fileReceive friendNumber fileNumber kind fileSize filename => { events with
      fileReceive :=
        events.fileReceive ++ [{ friendNumber, fileNumber, kind, fileSize, filename }] }
  | .fileReceiveChunk friendNumber fileNumber position data => { events with
      fileReceiveChunk :=
        events.fileReceiveChunk ++ [{ friendNumber, fileNumber, position, data }] }
  | .friendLossyPacket friendNumber data => { events with
      friendLossyPacket := events.friendLossyPacket ++ [{ friendNumber, data }] }
  | .friendLosslessPacket friendNumber data => { events with
      friendLosslessPacket := events.friendLosslessPacket ++ [{ friendNumber, data }] }

/-- `toxIteration`: `batch` is what `tox_iteration` reports. The result is the array for Java
    and the `events` of the instance afterwards. -/
def toxIteration {Bytes : Type} (proto : Protobuf Bytes) (events : CoreEvents)
    (batch : List NativeEvent) : Bytes × CoreEvents :=
  (proto.serializeToArray (batch.foldl CoreEvents.add events), {})

/-- A call of a method of the listener. `int` and `long` are signed in Java. -/
inductive ListenerCall where
  | connectionStatus (connectionStatus : ToxConnection)
  | friendName (friendNumber : Int32) (name : List UInt8)
  | friendStatusMessage (friendNumber : Int32) (message : List UInt8)
  | friendStatus (friendNumber : Int32) (status : ToxStatus)
  | friendConnectionStatus (friendNumber : Int32) (connectionStatus : ToxConnection)
  | friendTyping (friendNumber : Int32) (isTyping : Bool)
  | readReceipt (friendNumber : Int32) (messageId : Int32)
  | friendRequest (publicKey : List UInt8) (timeDelta : Int32) (message : List UInt8)
  | friendMessage (friendNumber : Int32) (timeDelta : Int32) (message : List UInt8)
  | friendAction (friendNumber : Int32) (timeDelta : Int32) (action : List UInt8)
  | fileControl (friendNumber : Int32) (fileNumber : Int32) (control : FileControl)
  | fileRequestChunk (friendNumber : Int32) (fileNumber : Int32) (position : Int64)
      (length : Int32)
  | fileReceive (friendNumber : Int32) (fileNumber : Int32) (kind : FileKind)
      (fileSize : Int64) (filename : List UInt8)
  | fileReceiveChunk (friendNumber : Int32) (fileNumber : Int32) (position : Int64)
      (data : List UInt8)
  | friendLossyPacket (friendNumber : Int32) (data : List UInt8)
  | friendLosslessPacket (friendNumber : Int32) (data : List UInt8)
  deriving DecidableEq, Repr

/-- The body of the loop over the list of one kind. -/
def CoreEvents.calls (events : CoreEvents) : EventKind → List ListenerCall
  | .connectionStatus => events.connectionStatus.map fun msg =>
      .connectionStatus msg.connectionStatus
  | .friendName => events.friendName.map fun msg =>
      .friendName msg.friendNumber.toInt32 msg.name
  | .friendStatusMessage => events.friendStatusMessage.map fun msg =>
      .friendStatusMessage msg.friendNumber.toInt32 msg.message
  | .friendStatus => events.friendStatus.map fun msg =>
      .friendStatus msg.friendNumber.toInt32 msg.status
  | .friendConnectionStatus => events.friendConnectionStatus.map fun msg =>
      .friendConnectionStatus msg.friendNumber.toInt32 msg.connectionStatus
  | .friendTyping => events.friendTyping.map fun msg =>
      .friendTyping msg.friendNumber.toInt32 msg.isTyping
  | .readReceipt => events.readReceipt.map fun msg =>
      .readReceipt msg.friendNumber.toInt32 msg.messageId.toInt32
  | .friendRequest => events.friendRequest.map fun msg =>
      .friendRequest msg.publicKey msg.timeDelta.toInt32 msg.message
  | .friendMessage => events.friendMessage.map fun msg =>
      .friendMessage msg.friendNumber.toInt32 msg.timeDelta.toInt32 msg.message
  | .friendAction => events.friendAction.map fun msg =>
      .friendAction msg.friendNumber.toInt32 msg.timeDelta.toInt32 msg.action
  | .fileControl => events.fileControl.map fun msg =>
      .fileControl msg.friendNumber.toInt32 msg.fileNumber.toInt32 msg.control
  | .fileRequestChunk => events.fileRequestChunk.map fun msg =>
      .fileRequestChunk msg.friendNumber.toInt32 msg.fileNumber.toInt32 msg.position.toInt64
        msg.length.toInt32
  | .fileReceive => events.fileReceive.map fun msg =>
      .fileReceive msg.friendNumber.toInt32 msg.fileNumber.toInt32 msg.kind
        msg.fileSize.toInt64 msg.filename
  | .fileReceiveChunk => events.fileReceiveChunk.map fun msg =>
      .fileReceiveChunk msg.friendNumber.toInt32 msg.fileNumber.toInt32 msg.position.toInt64
        msg.data
  | .friendLossyPacket => events.friendLossyPacket.map fun msg =>
      .friendLossyPacket msg.friendNumber.toInt32 msg.data
  | .friendLosslessPacket => events.friendLosslessPacket.map fun msg =>
      .friendLosslessPacket msg.friendNumber.toInt32 msg.data

/-- The order of the sixteen loops in `ToxCoreImpl.iteration`. -/
def replayOrder : List EventKind :=
  [.connectionStatus, .friendName, .friendStatusMessage, .friendStatus,
    .friendConnectionStatus, .friendTyping, .readReceipt, .friendRequest, .friendMessage,
    .friendAction, .fileControl, .fileRequestChunk, .fileReceive, .fileReceiveChunk,
    .friendLossyPacket, .friendLosslessPacket]

/-- `ToxCoreImpl.iteration`, on the events that were left from before (`toxIteration` leaves
    none) and those of this iteration. `registered` tells which callbacks are not null. -/
def iteration {Bytes : Type} (proto : Protobuf Bytes) (registered : EventKind → Bool)
    (events : CoreEvents) (batch : List NativeEvent) :
    Except String (List ListenerCall) × CoreEvents :=
  let (bytes, events) := toxIteration proto events batch
  match proto.parseFrom bytes with
  | none => (.error "RuntimeException(InvalidProtocolBufferException)", events)
  | some toxEvents =>
    (.ok (replayOrder.flatMap fun kind =>
      if registered kind then toxEvents.calls kind else []), events)

/-- The call that reports an event. -/
def NativeEvent.listenerCall : NativeEvent → ListenerCall
  | .connectionStatus status => .connectionStatus status
  | .friendName f name => .friendName f.toInt32 name
  | .friendStatusMessage f message => .friendStatusMessage f.toInt32 message
  | .friendStatus f status => .friendStatus f.toInt32 status
  | .friendConnectionStatus f status => .friendConnectionStatus f.toInt32 status
  | .friendTyping f isTyping => .friendTyping f.toInt32 isTyping
  | .readReceipt f messageId => .readReceipt f.toInt32 messageId.toInt32
  | .friendRequest publicKey message => .friendRequest publicKey 0 message
  | .friendMessage f message => .friendMessage f.toInt32 0 message
  | .friendAction f action => .friendAction f.toInt32 0 action
  | .fileControl f fileNumber control => .fileControl f.toInt32 fileNumber.toInt32 control
  | .fileRequestChunk f fileNumber position length =>
      .fileRequestChunk f.toInt32 fileNumber.toInt32 position.toInt64 length.toUInt32.toInt32
  | .fileReceive f fileNumber kind fileSize filename =>
      .fileReceive f.toInt32 fileNumber.toInt32 kind fileSize.toInt64 filename
  | .fileReceiveChunk f fileNumber position data =>
      .fileReceiveChunk f.toInt32 fileNumber.toInt32 position.toInt64 data
  | .friendLossyPacket f data => .friendLossyPacket f.toInt32 data
  | .friendLosslessPacket f data => .friendLosslessPacket f.toInt32 data

/-- The callback a call is made on. -/
def ListenerCall.kind : ListenerCall → EventKind
  | .connectionStatus .. => .connectionStatus
  | .friendName .. => .friendName
  | .friendStatusMessage .. => .friendStatusMessage
  | .friendStatus .. => .friendStatus
  | .friendConnectionStatus .. => .friendConnectionStatus
  | .friendTyping .. => .friendTyping
  | .readReceipt .. => .readReceipt
  | .friendRequest .. => .friendRequest
  | .friendMessage .. => .friendMessage
  | .friendAction .. => .friendAction
  | .fileControl .. => .fileControl
  | .fileRequestChunk .. => .fileRequestChunk
  | .fileReceive .. => .fileReceive
  | .fileReceiveChunk .. => .fileReceiveChunk
  | .friendLossyPacket .. => .friendLossyPacket
  | .friendLosslessPacket .. => .friendLosslessPacket

/-- The friend number a listener is called with. -/
def ListenerCall.friend : ListenerCall → Option Int32
  | .connectionStatus .. | .friendRequest .. => none
  | .friendName f .. | .friendStatusMessage f .. | .friendStatus f ..
  | .friendConnectionStatus f .. | .friendTyping f .. | .readReceipt f ..
  | .friendMessage f .. | .friendAction f .. | .fileControl f .. | .fileRequestChunk f ..
  | .fileReceive f .. | .fileReceiveChunk f .. | .friendLossyPacket f ..
  | .friendLosslessPacket f .. => some f

/-- The calls about each friend are those for the events about the friend, in the same order. -/
def SeenInOrder (batch : List NativeEvent) (calls : List ListenerCall) : Prop :=
  ∀ f : UInt32, calls.filter (fun call => call.friend = some f.toInt32) =
    (batch.filter fun event => event.friend = some f).map NativeEvent.listenerCall

/-- With all callbacks registered, `iteration` returns and calls the listeners in order. -/
def DeliversInOrder {Bytes : Type} (proto : Protobuf Bytes) (batch : List NativeEvent) : Prop :=
  ∃ calls, (iteration proto (fun _ => true) {} batch).1 = .ok calls ∧ SeenInOrder batch calls

/-- No event of a friend comes after one of the same friend whose kind is replayed later. -/
def InReplayOrder (batch : List NativeEvent) : Prop :=
  ∀ f : UInt32,
    Grouped replayOrder NativeEvent.kind (batch.filter fun event => event.friend = some f)

end Tox4j.Java
