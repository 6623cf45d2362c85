import Tox4j.Adapter.ReceivedAudio
import Tox4j.Misc.Mailbox

/-!
# Events of one `toxav_iteration`

The six callbacks of `ToxAv/lifecycle.cpp` make protobuf messages of what they are called with, and
`ToxAvImpl.iteration` makes calls of the listeners of these. Frames are copied out of buffers of the
legacy library: a buffer is the list of what can be read from its pointer on.

`TOXAV_CALL_STATE`, `CallState.Kind` and `ToxCallState` have the same names, and one type stands for
all three.
-/

namespace Tox4j.Java

open Tox4j.Adapter Tox4j.Misc

/-- A call of one of the callbacks. -/
inductive AvNativeEvent where
  | call (friendNumber : UInt32) (audioEnabled videoEnabled : Bool)
  | callState (friendNumber : UInt32) (state : CallState)
  | requestAudioFrame (friendNumber : UInt32)
  | requestVideoFrame (friendNumber : UInt32)
  | receiveAudioFrame (friendNumber : UInt32) (pcm : List Int16) (sampleCount : UInt64)
      (channels : UInt8) (samplingRate : UInt32)
  | receiveVideoFrame (friendNumber : UInt32) (width height : UInt16) (y u v : List UInt8)
      (a : Option (List UInt8))
  deriving DecidableEq, Repr

/-- The six callbacks. -/
inductive AvEventKind where
  | call
  | callState
  | requestAudioFrame
  | requestVideoFrame
  | receiveAudioFrame
  | receiveVideoFrame
  deriving DecidableEq, Repr

def AvNativeEvent.kind : AvNativeEvent → AvEventKind
  | .call .. => .call
  | .callState .. => .callState
  | .requestAudioFrame .. => .requestAudioFrame
  | .requestVideoFrame .. => .requestVideoFrame
  | .receiveAudioFrame .. => .receiveAudioFrame
  | .receiveVideoFrame .. => .receiveVideoFrame

/-! ## `Av.proto` -/

namespace AvProto

structure Call where
  friendNumber : Int32
  audioEnabled : Bool
  videoEnabled : Bool

structure CallState where
  friendNumber : UInt32
  state : Adapter.CallState

structure RequestAudioFrame where
  friendNumber : UInt32

structure RequestVideoFrame where
  friendNumber : UInt32

structure ReceiveAudioFrame where
  friendNumber : UInt32
  pcm : List Int32
  channels : UInt32
  samplingRate : UInt32

structure ReceiveVideoFrame where
  friendNumber : UInt32
  width : UInt32
  height : UInt32
  y : List UInt8
  u : List UInt8
  v : List UInt8
  a : Option (List UInt8)

end AvProto

/-- One of the six messages. -/
inductive AvMessage where
  | call (msg : AvProto.Call)
  | callState (msg : AvProto.CallState)
  | requestAudioFrame (msg : AvProto.RequestAudioFrame)
  | requestVideoFrame (msg : AvProto.RequestVideoFrame)
  | receiveAudioFrame (msg : AvProto.ReceiveAudioFrame)
  | receiveVideoFrame (msg : AvProto.ReceiveVideoFrame)

def AvMessage.kind : AvMessage → AvEventKind
  | .call _ => .call
  | .callState _ => .callState
  | .requestAudioFrame _ => .requestAudioFrame
  | .requestVideoFrame _ => .requestVideoFrame
  | .receiveAudioFrame _ => .receiveAudioFrame
  | .receiveVideoFrame _ => .receiveVideoFrame

/-- `AvEvents`: one list for each kind. -/
structure AvEvents where
  call : List AvProto.Call := []
  callState : List AvProto.CallState := []
  requestAudioFrame : List AvProto.RequestAudioFrame := []
  requestVideoFrame : List AvProto.RequestVideoFrame := []
  receiveAudioFrame : List AvProto.ReceiveAudioFrame := []
  receiveVideoFrame : List AvProto.ReceiveVideoFrame := []

/-- What protobuf does with an `AvEvents`. -/
structure AvProtobuf (Bytes : Type) where
  serializeToArray : AvEvents → Bytes
  /-- `none` is an `InvalidProtocolBufferException`. -/
  parseFrom : Bytes → Option AvEvents

/-- What was serialised is parsed back as it was. -/
def AvProtobuf.RoundTrips {Bytes : Type} (proto : AvProtobuf Bytes) : Prop :=
  ∀ events, proto.parseFrom (proto.serializeToArray events) = some events

/-- A protobuf that does not encode anything. -/
def plainAvProtobuf : AvProtobuf AvEvents where
  serializeToArray events := events
  parseFrom := some

/-- `width * height`, which is an `int`: there is no result when it overflows. -/
def pixelCount (width height : UInt16) : Option ℕ :=
  if width.toNat * height.toNat < 2 ^ 31 then some (width.toNat * height.toNat) else none

/-- `set_y` and its siblings. There is no result when they read behind the end of the buffer. -/
def copyPlane (plane : List UInt8) (size : ℕ) : Option (List UInt8) :=
  if size ≤ plane.length then some (plane.take size) else none

/-- `tox4j_receive_video_frame_cb`. -/
def tox4jReceiveVideoFrameCb (friendNumber : UInt32) (width height : UInt16) (y u v : List UInt8)
    (a : Option (List UInt8)) : Option AvProto.ReceiveVideoFrame := do
  let size ← pixelCount width height
  let y ← copyPlane y size
  let u ← copyPlane u size
  let v ← copyPlane v size
  let a ← a.mapM fun a => copyPlane a size
  return { friendNumber, width := width.toUInt32, height := height.toUInt32, y, u, v, a }

/-- The message that a callback makes. There is none when it reads what it must not. -/
def AvNativeEvent.message : AvNativeEvent → Option AvMessage
  | .call friendNumber audioEnabled videoEnabled =>
      some (.call { friendNumber := friendNumber.toInt32, audioEnabled, videoEnabled })
  | .callState friendNumber state => some (.callState { friendNumber, state })
  | .requestAudioFrame friendNumber => some (.requestAudioFrame { friendNumber })
  | .requestVideoFrame friendNumber => some (.requestVideoFrame { friendNumber })
  | .receiveAudioFrame friendNumber pcm sampleCount channels samplingRate =>
      (tox4jReceiveAudioFrameCb friendNumber pcm sampleCount channels samplingRate).map fun event =>
        .receiveAudioFrame {
          friendNumber := event.friendNumber
          pcm := event.pcm.map Int16.toInt32
          channels := event.channels.toUInt32
          samplingRate := event.samplingRate }
  | .receiveVideoFrame friendNumber width height y u v a =>
      (tox4jReceiveVideoFrameCb friendNumber width height y u v a).map .receiveVideoFrame

/-- The callbacks add their message at the end of their list. -/
def AvEvents.add (events : AvEvents) : AvMessage → AvEvents
  | .call msg => { events with call := events.call ++ [msg] }
  | .callState msg => { events with callState := events.callState ++ [msg] }
  | .requestAudioFrame msg =>
      { events with requestAudioFrame := events.requestAudioFrame ++ [msg] }
  | .requestVideoFrame msg =>
      { events with requestVideoFrame := events.requestVideoFrame ++ [msg] }
  | .receiveAudioFrame msg =>
      { events with receiveAudioFrame := events.receiveAudioFrame ++ [msg] }
  | .receiveVideoFrame msg =>
      { events with receiveVideoFrame := events.receiveVideoFrame ++ [msg] }

/-- One callback. -/
def AvEvents.native (events : AvEvents) (event : AvNativeEvent) : Checked AvEvents :=
  match event.message with
  | none => .error "a frame is read behind its end"
  | some msg => .ok (events.add msg)

/-- A call of a method of the listener. `int` and `short` are signed in Java. -/
inductive AvListenerCall where
  | call (friendNumber : Int32) (audioEnabled videoEnabled : Bool)
  | callState (friendNumber : Int32) (state : CallState)
  | requestAudioFrame (friendNumber : Int32)
  | requestVideoFrame (friendNumber : Int32)
  | receiveAudioFrame (friendNumber : Int32) (pcm : List Int16) (channels samplingRate : Int32)
  | receiveVideoFrame (friendNumber width height : Int32) (y u v : List UInt8)
      (a : Option (List UInt8))
  deriving DecidableEq, Repr

/-- The callback a call is made on. -/
def AvListenerCall.kind : AvListenerCall → AvEventKind
  | .call .. => .call
  | .callState .. => .callState
  | .requestAudioFrame .. => .requestAudioFrame
  | .requestVideoFrame .. => .requestVideoFrame
  | .receiveAudioFrame .. => .receiveAudioFrame
  | .receiveVideoFrame .. => .receiveVideoFrame

/-- The body of a loop of `ToxAvImpl.iteration`. -/
def AvMessage.listenerCall : AvMessage → AvListenerCall
  | .call msg => .call msg.friendNumber msg.audioEnabled msg.videoEnabled
  | .callState msg => .callState msg.friendNumber.toInt32 msg.state
  | .requestAudioFrame msg => .requestAudioFrame msg.friendNumber.toInt32
  | .requestVideoFrame msg => .requestVideoFrame msg.friendNumber.toInt32
  | .receiveAudioFrame msg => .receiveAudioFrame msg.friendNumber.toInt32
      (msg.pcm.map Int32.toInt16) msg.channels.toInt32 msg.samplingRate.toInt32
  | .receiveVideoFrame msg => .receiveVideoFrame msg.friendNumber.toInt32 msg.width.toInt32
      msg.height.toInt32 msg.y msg.u msg.v msg.a

/-- The list that a loop goes through. -/
def AvEvents.messages (events : AvEvents) : AvEventKind → List AvMessage
  | .call => events.call.map .call
  | .callState => events.callState.map .callState
  | .requestAudioFrame => events.requestAudioFrame.map .requestAudioFrame
  | .requestVideoFrame => events.requestVideoFrame.map .requestVideoFrame
  | .receiveAudioFrame => events.receiveAudioFrame.map .receiveAudioFrame
  | .receiveVideoFrame => events.receiveVideoFrame.map .receiveVideoFrame

/-- The calls of one loop. -/
def AvEvents.calls (events : AvEvents) (kind : AvEventKind) : List AvListenerCall :=
  (events.messages kind).map AvMessage.listenerCall

/-- The order of the six loops in `ToxAvImpl.iteration`. -/
def avReplayOrder : List AvEventKind :=
  [.call, .callState, .requestAudioFrame, .requestVideoFrame, .receiveAudioFrame,
    .receiveVideoFrame]

/-- `AvEvents` stores messages until the six loops report them. -/
def avMailbox : Mailbox AvMessage AvEventKind AvListenerCall AvEvents where
  empty := {}
  add := AvEvents.add
  calls := AvEvents.calls
  order := avReplayOrder

/-- The call that reports an event: numbers in Java's types, and of each buffer what the frame has
    in it. -/
def AvNativeEvent.listenerCall : AvNativeEvent → AvListenerCall
  | .call f audioEnabled videoEnabled => .call f.toInt32 audioEnabled videoEnabled
  | .callState f state => .callState f.toInt32 state
  | .requestAudioFrame f => .requestAudioFrame f.toInt32
  | .requestVideoFrame f => .requestVideoFrame f.toInt32
  | .receiveAudioFrame f pcm sampleCount channels samplingRate =>
      .receiveAudioFrame f.toInt32 (pcm.take (sampleCount * channels.toUInt64).toNat)
        channels.toUInt32.toInt32 samplingRate.toInt32
  | .receiveVideoFrame f width height y u v a =>
      let size := width.toNat * height.toNat
      .receiveVideoFrame f.toInt32 width.toUInt32.toInt32 height.toUInt32.toInt32 (y.take size)
        (u.take size) (v.take size) (a.map fun plane => plane.take size)

end Tox4j.Java
