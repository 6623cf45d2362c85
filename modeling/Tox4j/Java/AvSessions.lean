import Tox4j.Adapter.Log
import Tox4j.Java.AvEvents
import Tox4j.Jni.SendFrame
import Tox4j.Misc.Since

/-!
# A `ToxAvImpl` on top of its adapter

A Java client calls the methods of a `ToxAvImpl`, sets its callbacks and calls `iteration`. The
native methods check and convert their arguments and call the adapter, the adapter calls the
callbacks of `lifecycle.cpp`, and what these put into the `AvEvents` of the instance waits for the
next `iteration`.
-/

namespace Tox4j.Java

open Tox4j.Adapter Tox4j.Jni Tox4j.Misc

/-- The call of a callback of `lifecycle.cpp` that an output of the adapter is. -/
def nativeOf : AvOutput → Option AvNativeEvent
  | .action (.callEvent f audioEnabled videoEnabled) => some (.call f audioEnabled videoEnabled)
  | .action (.callStateEvent f state) => some (.callState f state)
  | .action _ | .sendAudio .. => none
  | .receiveAudioFrame f pcm sampleCount channels samplingRate =>
      some (.receiveAudioFrame f pcm sampleCount channels samplingRate)
  | .requestVideoFrame f => some (.requestVideoFrame f)
  | .requestAudioFrame f => some (.requestAudioFrame f)

/-- What a client sees or does. -/
inductive ClientEvent (Listener : Type) where
  | told (listener : Listener) (call : AvListenerCall)
  /-- `sendAudioFrame` or `sendVideoFrame` has returned without an exception. -/
  | sent (medium : Medium) (friendNumber : Int32)
  deriving DecidableEq, Repr

/-- The adapter, the events of the instance, the callback fields of the object, and what has
    happened so far: in the adapter, to the events, and to the client. -/
structure JavaAv (Listener : Type) where
  av : Adapter.NewToxAv := {}
  events : AvEvents := {}
  callbacks : AvEventKind → Option Listener := fun _ => none
  log : List (AvApiCall × AvOutput) := []
  mails : List (Mail AvNativeEvent AvEventKind Listener) := []
  history : List (ClientEvent Listener) := []

/-- What happens to a `ToxAvImpl`. -/
inductive JavaAvMove (Listener : Type) where
  /-- `callbackCall` and its five siblings; `none` is `null`. -/
  | setCallback (kind : AvEventKind) (listener : Option Listener)
  /-- `callback`. -/
  | callback (handler : Option Listener)
  /-- `call`, and what the legacy `toxav_call` returns. -/
  | call (friendNumber audioBitRate videoBitRate result callIndex : Int32)
  /-- `answer`, and what the legacy `toxav_answer` returns. -/
  | answer (friendNumber audioBitRate videoBitRate result : Int32)
  | sendAudioFrame (friendNumber : Int32) (pcm : Option (JavaArray Int16))
      (sampleCount channels samplingRate : Int32)
  | sendVideoFrame (friendNumber width height : Int32) (y u v a : Option (JavaArray Int8))
  /-- A callback of the legacy library outside of `toxav_do`. -/
  | native (cb : AvCallback)
  /-- `iteration`, with the callbacks that the legacy library makes inside `toxav_do`. -/
  | iteration (callbacks : List AvCallback)

section

variable {Listener Bytes : Type}

/-- The order in which `callback` sets the callbacks. -/
def avHandlerOrder : List AvEventKind :=
  [.call, .callState, .requestAudioFrame, .requestVideoFrame, .receiveAudioFrame,
    .receiveVideoFrame]

namespace JavaAv

/-- A call of the adapter, with the callbacks that it makes. -/
def adapter (defaultSettings : AvCSettings) (lg : Toxav) (s : JavaAv Listener)
    (call : AvApiCall) : Checked (JavaAv Listener) := do
  let (av, outputs) ← call.run defaultSettings lg s.av
  let batch := outputs.filterMap nativeOf
  let events ← batch.foldlM AvEvents.native s.events
  return { s with
    av
    events
    log := s.log ++ outputs.map (Prod.mk call)
    mails := s.mails ++ batch.map .event }

/-- A call of a listener. -/
def tell (call : Listener × AvListenerCall) : ClientEvent Listener := .told call.1 call.2

/-- The end of `toxAvIteration`, which leaves no events, and the loops of `iteration`. -/
def collect (proto : AvProtobuf Bytes) (s : JavaAv Listener) : Checked (JavaAv Listener) :=
  match proto.parseFrom (proto.serializeToArray s.events) with
  | none => .error "RuntimeException(InvalidProtocolBufferException)"
  | some toxEvents => .ok { s with
      events := {}
      mails := s.mails ++ [.collect]
      history := s.history ++ (avMailbox.replay s.callbacks toxEvents).map tell }

def step (defaultSettings : AvCSettings) (proto : AvProtobuf Bytes) (s : JavaAv Listener)
    (lg : Toxav) : JavaAvMove Listener → Checked (JavaAv Listener)
  | .setCallback kind listener => .ok { s with
      callbacks := Function.update s.callbacks kind listener
      mails := s.mails ++ [.register kind listener] }
  | .callback handler => .ok { s with
      callbacks := avHandlerOrder.foldl (fun callbacks kind =>
        Function.update callbacks kind handler) s.callbacks
      mails := s.mails ++ avHandlerOrder.map fun kind => .register kind handler }
  | .call friendNumber audioBitRate videoBitRate result callIndex =>
      s.adapter defaultSettings lg (.call friendNumber.toUInt32 audioBitRate.toUInt32
        videoBitRate.toUInt32 result callIndex)
  | .answer friendNumber audioBitRate videoBitRate result =>
      s.adapter defaultSettings lg (.answer friendNumber.toUInt32 audioBitRate.toUInt32
        videoBitRate.toUInt32 result)
  | .sendAudioFrame friendNumber pcm sampleCount channels samplingRate => do
      match ← toxAvSendAudioFrame friendNumber pcm sampleCount channels samplingRate with
      | .error .badLength => return s
      | .ok args =>
        let s ← s.adapter defaultSettings lg (.sendAudioFrame args.friendNumber
          { pcm := args.pcm.getD []
            sampleCount := args.sampleCount
            channels := args.channels
            samplingRate := args.samplingRate })
        return { s with history := s.history ++ [.sent .audio friendNumber] }
  | .sendVideoFrame friendNumber width height y u v a =>
      match toxAvSendVideoFrame friendNumber width height y u v a with
      | .error .badLength => .ok s
      | .ok args => do
        let s ← s.adapter defaultSettings lg (.sendVideoFrame args.friendNumber)
        return { s with history := s.history ++ [.sent .video friendNumber] }
  | .native cb => s.adapter defaultSettings lg (.callback cb)
  | .iteration callbacks => do
      -- `new_toxav_iteration`
      let s ← callbacks.foldlM (fun s cb => s.adapter defaultSettings lg (.callback cb)) s
      let s ← s.adapter defaultSettings lg .afterToxavDo
      s.collect proto

/-- A step in which no assertion fails and no frame is read behind its end. -/
def Step (defaultSettings : AvCSettings) (proto : AvProtobuf Bytes) (s : JavaAv Listener)
    (move : Toxav × JavaAvMove Listener) (s' : JavaAv Listener) : Prop :=
  s.step defaultSettings proto move.1 move.2 = .ok s'

/-- What the listeners have been told. -/
def heard (s : JavaAv Listener) : List (Listener × AvListenerCall) :=
  s.history.filterMap fun
    | .told listener call => some (listener, call)
    | .sent .. => none

/-- The calls of the callbacks of `lifecycle.cpp` that the adapter has made. -/
def reports (s : JavaAv Listener) : List AvNativeEvent := s.log.filterMap fun e => nativeOf e.2

/-- The adapter has made a run of its own, the events are what it has reported, and for each kind
    the listeners hear, in order and at most once, what it has reported, each from the callback
    that the next `iteration` finds set. -/
structure Hears (defaultSettings : AvCSettings) (s : JavaAv Listener) : Prop where
  adapter : ∃ ls, Run (AvLoggedStep defaultSettings) {} ls { av := s.av, log := s.log }
  happened : Misc.happened s.mails = s.reports
  heard : ∀ kind, s.heard.filter (fun call => call.2.kind = kind) =
    (reported AvNativeEvent.kind kind none s.mails).map (Prod.map id AvNativeEvent.listenerCall)
  once : ∀ kind, ((s.heard.filter fun call => call.2.kind = kind).map Prod.snd).Sublist
    ((s.reports.filter fun event => event.kind = kind).map AvNativeEvent.listenerCall)

/-- A listener is told to send a frame. -/
def AsksFor (medium : Medium) (friendNumber : UInt32) (event : ClientEvent Listener) : Prop :=
  ∃ listener, event = .told listener (match medium with
    | .audio => .requestAudioFrame friendNumber.toInt32
    | .video => .requestVideoFrame friendNumber.toInt32)

def Sends (medium : Medium) (friendNumber : UInt32) (event : ClientEvent Listener) : Prop :=
  event = .sent medium friendNumber.toInt32

/-- The kind of the requests for frames of a medium. -/
def requestKind : Medium → AvEventKind
  | .audio => .requestAudioFrame
  | .video => .requestVideoFrame

/-- If the move is an iteration, somebody listens to the requests. -/
def listens (medium : Medium) (s : JavaAv Listener) : JavaAvMove Listener → Bool
  | .iteration _ => (s.callbacks (requestKind medium)).isSome
  | _ => true

def Listening (medium : Medium) (s : JavaAv Listener) (move : Toxav × JavaAvMove Listener) :
    Prop :=
  s.listens medium move.2 = true

/-- The state in which frames of one medium are sent, and of no other. -/
def sendingOnly : Medium → CallState
  | .audio => .sendingA
  | .video => .sendingV

/-- There is a call with the friend, and frames of the medium are sent in it. -/
def InCall (medium : Medium) (friendNumber : UInt32) (s : JavaAv Listener) : Prop :=
  ∃ call, s.av.friendToCall[friendNumber]? = some call ∧
    (call.state = .sendingAV ∨ call.state = sendingOnly medium)

end JavaAv

end

end Tox4j.Java
