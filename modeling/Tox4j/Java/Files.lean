import Tox4j.Adapter.Exchange
import Tox4j.Java.Sessions

/-!
# Files between two Java clients

The system of two adapters, with the JNI library and a Java client on either side. What an adapter
reports waits in the `CoreEvents` of its instance until `iteration` tells the listener; the clients
answer what they have been told, in Java's types. Each client has registered a listener for all
events before the first of them.
-/

namespace Tox4j.Java

open Tox4j.Adapter Tox4j.Misc

def toxConnection : Connection → ToxConnection
  | .none => .none
  | .udp4 => .udp4

/-- The native callback for an event of the adapter. -/
def nativeEvent : Event → NativeEvent
  | .connectionStatus status => .connectionStatus (toxConnection status)
  | .fileControl friendNumber fileNumber control => .fileControl friendNumber fileNumber control
  | .fileRequestChunk friendNumber fileNumber position length =>
      .fileRequestChunk friendNumber fileNumber position length
  | .fileReceive friendNumber fileNumber kind fileSize filename =>
      .fileReceive friendNumber fileNumber kind fileSize filename
  | .fileReceiveChunk friendNumber fileNumber position data =>
      .fileReceiveChunk friendNumber fileNumber position data

section

variable (friend : Side → UInt32)

/-- The client callbacks that the adapter makes in a turn of its side. -/
def reports (sys : System) : Turn → Checked (List Event)
  | (s, lg, .send kind content filename cause) => do
    let (_, _, _, actions) ← newToxFileSend lg (sys.tox s) (friend s) kind
      (UInt64.ofNat content.length) filename cause
    return actions.filterMap Action.event?
  | (s, lg, .iterate) => .ok ((afterToxDo lg (sys.tox s)).2.filterMap Action.event?)
  | (s, lg, .answer request data) => do
    let (_, _, actions) ←
      newToxFileSendChunk lg (sys.tox s) (friend s) request.fileNumber (.bytes data)
    return actions.filterMap Action.event?
  | (s, lg, .resume fileNumber) => do
    let (_, _, actions) ← newToxFileControl lg (sys.tox s) (friend s) fileNumber .resume
    return actions.filterMap Action.event?
  | (s, lg, .deliver cause) =>
    match sys.inFlight s with
    | [] => .error "nothing to deliver"
    | packet :: _ => do
      let (_, actions) ← (packet.callback (friend s) cause).run (sys.tox s) lg
      return actions.filterMap Action.event?

end

/-- A call of `fileRequestChunk` of non-zero length, waiting for the client's answer. -/
structure ChunkRequest where
  fileNumber : Int32
  position : Int64
  length : Int32
  deriving DecidableEq, Repr

/-- The request the adapter has made. -/
def ChunkRequest.native (request : ChunkRequest) : Request where
  fileNumber := request.fileNumber.toUInt32
  position := request.position.toUInt64
  length := request.length.toUInt32.toUInt64

def ListenerCall.request : ListenerCall → Option ChunkRequest
  | .fileRequestChunk _ fileNumber position length =>
      if length = 0 then none else some { fileNumber, position, length }
  | _ => none

/-- The file number of a `fileReceive` call. -/
def ListenerCall.offer : ListenerCall → Option Int32
  | .fileReceive _ fileNumber _ _ _ => some fileNumber
  | _ => none

/-- The file number of a `fileReceiveChunk` call, with the chunk. -/
def ListenerCall.chunk : ListenerCall → Option (Int32 × Int64 × List UInt8)
  | .fileReceiveChunk _ fileNumber position data => some (fileNumber, position, data)
  | _ => none

/-- What a client does, or the core under it. -/
inductive JavaMove where
  /-- `fileSend` for a file with this content. -/
  | fileSend (kind : FileKind) (content : List UInt8) (filename : Buffer) (cause : PauseReason)
  /-- `iteration`, after `tox_do` has returned. -/
  | iteration
  /-- `fileSendChunk` with the answer to a request. -/
  | fileSendChunk (request : ChunkRequest) (data : List UInt8)
  /-- `fileControl` with `RESUME`. -/
  | fileControl (fileNumber : Int32)
  /-- The callback for the oldest packet, inside `tox_do`. -/
  | deliver (cause : PauseReason)
  deriving DecidableEq, Repr

/-- What the adapter is called for. -/
def JavaMove.native : JavaMove → Move
  | .fileSend kind content filename cause => .send kind content filename cause
  | .iteration => .iterate
  | .fileSendChunk request data => .answer request.native data
  | .fileControl fileNumber => .resume fileNumber.toUInt32
  | .deliver cause => .deliver cause

abbrev JavaTurn := Side × Legacy × JavaMove

def JavaTurn.native : JavaTurn → Turn
  | (s, lg, move) => (s, lg, move.native)

/-- Two adapters with their clients. -/
structure JavaSystem where
  sys : System := {}
  /-- The `CoreEvents` of the two instances. -/
  events : Side → CoreEvents := fun _ => {}
  /-- What the listeners have been told. -/
  heard : Side → List ListenerCall := fun _ => []
  /-- The requests a client has been told of and has not answered yet. -/
  requests : Side → List ChunkRequest := fun _ => []
  /-- The offers a client has been told of and has not resumed yet. -/
  offers : Side → List Int32 := fun _ => []

namespace JavaSystem

/-- A client takes up what it answers. -/
def taken (js : JavaSystem) (s : Side) : JavaMove → JavaSystem
  | .fileSendChunk request _ =>
      { js with requests := Function.update js.requests s ((js.requests s).erase request) }
  | .fileControl fileNumber =>
      { js with offers := Function.update js.offers s ((js.offers s).erase fileNumber) }
  | .fileSend .. | .iteration | .deliver _ => js

/-- The listener of a side is told. -/
def told (js : JavaSystem) (s : Side) (calls : List ListenerCall) : JavaSystem :=
  { js with
    heard := Function.update js.heard s (js.heard s ++ calls)
    requests := Function.update js.requests s
      (js.requests s ++ calls.filterMap ListenerCall.request)
    offers := Function.update js.offers s (js.offers s ++ calls.filterMap ListenerCall.offer) }

variable {Bytes : Type} (proto : Protobuf Bytes) (friend : Side → UInt32)

/-- What is left of a turn once the adapter has returned: the native callbacks fill `CoreEvents`,
    and `iteration` empties it. -/
def report (js : JavaSystem) (s : Side) (move : JavaMove) (reported : List Event) :
    Checked JavaSystem :=
  match move with
  | .iteration => do
    let (calls, events) :=
      Java.iteration proto (fun _ => true) (js.events s) (reported.map nativeEvent)
    let calls ← calls
    return { js with events := Function.update js.events s events }.told s calls
  | _ =>
    let events := (reported.map nativeEvent).foldl CoreEvents.add (js.events s)
    return { js with events := Function.update js.events s events }

def step (js : JavaSystem) (turn : JavaTurn) : Checked JavaSystem := do
  let reported ← reports friend js.sys turn.native
  let sys ← js.sys.step friend turn.native
  ({ js with sys }.taken turn.1 turn.2.2).report proto turn.1 turn.2.2 reported

end JavaSystem

section

variable (friend : Side → UInt32)

/-- What is assumed: what `Turn.Allowed` says, for what the clients have been told. A file has a
    size that a `long` can hold. -/
def JavaTurn.Allowed (js : JavaSystem) : JavaTurn → Prop
  | (s, lg, .fileSend _ content _ _) =>
      content ≠ [] ∧ content.length < 2 ^ 63 ∧ (lg.newFileSender (friend s) = -1 ∨
        js.sys.files s (lg.newFileSender (friend s)).toUInt32.toUInt8 = none)
  | (s, lg, .iteration) =>
      1 ≤ (lg.fileDataSize (friend s)).toInt ∧ (lg.fileDataSize (friend s)).toInt ≤ 65535
  | (s, _, .fileSendChunk request data) =>
      request ∈ js.requests s ∧ 1 ≤ data.length ∧ (data.length : ℤ) ≤ request.length.toInt ∧
        data <+: ((js.sys.files s request.fileNumber.toUInt32.toUInt8).getD []).drop
          request.position.toInt.toNat
  | (s, _, .fileControl fileNumber) => fileNumber ∈ js.offers s
  | (_, _, .deliver _) => True

instance (js : JavaSystem) : (turn : JavaTurn) → Decidable (turn.Allowed friend js)
  | (_, _, .fileSend _ _ _ _) => inferInstanceAs (Decidable (_ ∧ _ ∧ _))
  | (_, _, .iteration) => inferInstanceAs (Decidable (_ ∧ _))
  | (_, _, .fileSendChunk _ _) => inferInstanceAs (Decidable (_ ∧ _ ∧ _ ∧ _))
  | (_, _, .fileControl _) => inferInstanceAs (Decidable (_ ∈ _))
  | (_, _, .deliver _) => .isTrue trivial

/-- The runs in which every turn is allowed. -/
abbrev JavaSystem.Reachable {Bytes : Type} (proto : Protobuf Bytes) (turns : List JavaTurn)
    (js : JavaSystem) : Prop :=
  Run (Guarded (JavaTurn.Allowed friend) fun js turn js' => js.step proto friend turn = .ok js')
    {} turns js

/-- The turns of a core and two clients that cooperate. -/
structure JavaTurn.Cooperative (size : Side → Int32) (causes : PauseReason → Prop)
    (js : JavaSystem) (turn : JavaTurn) : Prop where
  allowed : turn.Allowed friend js
  core : turn.2.1.Cooperates (friend turn.1) (size turn.1)
  move : turn.2.2.native.Deliverable causes (js.sys.inFlight turn.1)

abbrev JavaSystem.Cooperates {Bytes : Type} (proto : Protobuf Bytes) (size : Side → Int32)
    (causes : PauseReason → Prop) (js : JavaSystem) (turns : List JavaTurn) (js' : JavaSystem) :
    Prop :=
  Run (Guarded (JavaTurn.Cooperative friend size causes) fun js turn js' =>
    js.step proto friend turn = .ok js') js turns js'

/-- Executes turns as long as they are allowed. -/
def JavaSystem.runTurns {Bytes : Type} (proto : Protobuf Bytes) (js : JavaSystem)
    (turns : List JavaTurn) : Checked JavaSystem :=
  turns.foldlM (fun js turn => do
    Checked.assert (turn.Allowed friend js) "not allowed"
    js.step proto friend turn) js

end

/-- The position and data of a chunk of the file the peer sends under a number. -/
def javaChunkOn (n : UInt8) (chunk : Int32 × Int64 × List UInt8) : Option (Int64 × List UInt8) :=
  if chunk.1 = (n.toUInt32 ||| 0x100).toInt32 then some chunk.2 else none

/-- The chunks that the listener on the other side has been told of the file that side `s` sends
    under a number. -/
def JavaSystem.chunksOf (js : JavaSystem) (s : Side) (n : UInt8) : List (Int64 × List UInt8) :=
  ((js.heard s.other).filterMap ListenerCall.chunk).filterMap (javaChunkOn n)

/-- Chunks that follow each other without a gap or an overlap, from `position` on. -/
def JavaConsecutive (position : ℕ) : List (Int64 × List UInt8) → Prop
  | [] => True
  | (start, data) :: chunks =>
      start.toInt = position ∧ JavaConsecutive (position + data.length) chunks

/-- The listeners have been told of everything. -/
def JavaSystem.AllTold (js : JavaSystem) : Prop :=
  ∀ s kind, (js.events s).calls kind = []

/-- Nothing is under way, waits for an iteration or for an answer, or will be asked for. -/
structure JavaSystem.Quiescent (js : JavaSystem) : Prop where
  inFlight : ∀ s, js.sys.inFlight s = []
  told : js.AllTold
  requests : ∀ s, js.requests s = []
  offers : ∀ s, js.offers s = []
  due : ∀ s f n t, (js.sys.tox s).getTransfer f n = some t → ¬ t.Due

/-- The listeners have been told of every byte of every file, and the adapters know of no file any
    more. -/
def JavaSystem.Complete (friend : Side → UInt32) (js : JavaSystem) : Prop :=
  ∀ s n content, js.sys.files s n = some content →
    (js.chunksOf s n).flatMap Prod.snd = content ∧
      (js.sys.tox s).getTransfer (friend s) n.toUInt32 = none ∧
        (js.sys.tox s.other).getTransfer (friend s.other) (n.toUInt32 ||| 0x100) = none

end Tox4j.Java
