import Tox4j.Adapter.Channel
import Tox4j.Misc.Run
import Mathlib.Logic.Function.Basic

/-!
# Two adapters and the core between them

Two `new_Tox`, each with the other as a friend, and the packets on their way between them. The
legacy core delivers the packets of each direction exactly once and in order. A side's moves
are the calls its client makes, the part of `new_tox_iteration` after `tox_do`, and the
callbacks `tox_do` makes for the oldest packet; every interleaving of the moves of the two
sides is a run.

`Allowed` says what is assumed of the core and of the clients; everything else about it, such
as who is connected when, and which calls of the core fail, is arbitrary.
-/

namespace Tox4j.Adapter

open Tox4j.Misc

inductive Side where
  | alice
  | bob
  deriving DecidableEq, Repr

def Side.other : Side → Side
  | .alice => .bob
  | .bob => .alice

/-- What the legacy core transports. -/
inductive Packet where
  | sendRequest (filenumber : UInt8) (fileSize : UInt64) (filename : List UInt8)
  | control (sendReceive : Bool) (filenumber : UInt8) (control : LegacyControl)
  | data (filenumber : UInt8) (data : List UInt8)
  deriving DecidableEq, Repr

/-- What goes out when the adapter calls a sending function of the legacy core. -/
def Action.packet : Action → Option Packet
  | .event _ => none
  | .newSender _ filenumber fileSize filename => some (.sendRequest filenumber fileSize filename)
  | .sendControl _ sendReceive filenumber control => some (.control sendReceive filenumber control)
  | .sendData _ filenumber data => some (.data filenumber data)

/-- The callback of the legacy core for a packet from a friend. -/
def Packet.callback (friendnumber : UInt32) (cause : PauseReason) : Packet → LegacyCallback
  | .sendRequest filenumber fileSize filename =>
      .fileSendRequest friendnumber filenumber fileSize filename cause
  | .control sendReceive filenumber code =>
      .fileControl friendnumber sendReceive.toUInt8 filenumber code
  | .data filenumber bytes => .fileData friendnumber filenumber bytes

/-- A `file_request_chunk` event of non-zero length, waiting for the client's answer. -/
structure Request where
  fileNumber : UInt32
  position : UInt64
  length : UInt64
  deriving DecidableEq, Repr

def Event.request : Event → Option Request
  | .fileRequestChunk _ fileNumber position length =>
      if length = 0 then none else some { fileNumber, position, length }
  | _ => none

/-- The file number of a `file_receive` event. -/
def Event.offer : Event → Option UInt32
  | .fileReceive _ fileNumber _ _ _ => some fileNumber
  | _ => none

/-- The file number of a `file_receive_chunk` event, with the chunk. -/
def Event.chunk : Event → Option (UInt32 × UInt64 × List UInt8)
  | .fileReceiveChunk _ fileNumber position data => some (fileNumber, position, data)
  | _ => none

/-- The client callback among the actions. -/
def Action.event? : Action → Option Event
  | .event e => some e
  | .newSender .. | .sendControl .. | .sendData .. => none

/-- Both adapters and everything between them and their clients. -/
structure System where
  tox : Side → NewTox := fun _ => {}
  /-- The packets on their way to a side, oldest first. -/
  inFlight : Side → List Packet := fun _ => []
  /-- The requests a side's client has not answered yet. -/
  requests : Side → List Request := fun _ => []
  /-- The offers a side's client has not resumed yet. -/
  offers : Side → List UInt32 := fun _ => []
  /-- The `file_receive_chunk` events reported to a side's client so far. -/
  chunks : Side → List (UInt32 × UInt64 × List UInt8) := fun _ => []
  /-- The file a side sends under a number of the legacy core. -/
  files : Side → UInt8 → Option (List UInt8) := fun _ _ => none

namespace System

/-- What a call of a side's adapter leaves behind: its new state, the packets it sent and the
    events its client has to know about. -/
def after (sys : System) (s : Side) (tox : NewTox) (actions : List Action) : System where
  tox := Function.update sys.tox s tox
  inFlight := Function.update sys.inFlight s.other
    (sys.inFlight s.other ++ actions.filterMap Action.packet)
  requests := Function.update sys.requests s
    (sys.requests s ++ (actions.filterMap Action.event?).filterMap Event.request)
  offers := Function.update sys.offers s
    (sys.offers s ++ (actions.filterMap Action.event?).filterMap Event.offer)
  chunks := Function.update sys.chunks s
    (sys.chunks s ++ (actions.filterMap Action.event?).filterMap Event.chunk)
  files := sys.files

/-- From now on `content` is the file behind a number. -/
def store (sys : System) (s : Side) (filenumber : UInt8) (content : List UInt8) : System :=
  { sys with
    files := Function.update sys.files s
      (Function.update (sys.files s) filenumber (some content)) }

/-- The client has answered a request. -/
def answered (sys : System) (s : Side) (request : Request) : System :=
  { sys with requests := Function.update sys.requests s ((sys.requests s).erase request) }

/-- The client has resumed an offer. -/
def resumed (sys : System) (s : Side) (fileNumber : UInt32) : System :=
  { sys with offers := Function.update sys.offers s ((sys.offers s).erase fileNumber) }

/-- The oldest packet has reached a side. -/
def delivered (sys : System) (s : Side) : System :=
  { sys with inFlight := Function.update sys.inFlight s (sys.inFlight s).tail }

end System

/-- What one side does. -/
inductive Move where
  /-- `new_tox_file_send` for a file with this content. -/
  | send (kind : FileKind) (content : List UInt8) (filename : Buffer) (cause : PauseReason)
  /-- `new_tox_iteration`, after `tox_do` has returned. -/
  | iterate
  /-- `new_tox_file_send_chunk` with the answer to a request. -/
  | answer (request : Request) (data : List UInt8)
  /-- `new_tox_file_control` with RESUME. -/
  | resume (fileNumber : UInt32)
  /-- The callback for the oldest packet, inside `tox_do`. -/
  | deliver (cause : PauseReason)
  deriving DecidableEq, Repr

/-- A side, the answers of its legacy core, and what it does. -/
abbrev Turn := Side × Legacy × Move

section

variable (friend : Side → UInt32)

/-- A turn: `friend s` is the friend number under which side `s` knows the other side. -/
def System.step (sys : System) : Turn → Checked System
  | (s, lg, .send kind content filename cause) => do
    let (err, number, tox, actions) ← newToxFileSend lg (sys.tox s) (friend s) kind
      (UInt64.ofNat content.length) filename cause
    let sys := sys.after s tox actions
    return if err = .ok then sys.store s number.toUInt8 content else sys
  | (s, lg, .iterate) =>
    let (tox, actions) := afterToxDo lg (sys.tox s)
    .ok (sys.after s tox actions)
  | (s, lg, .answer request data) => do
    let (_, tox, actions) ←
      newToxFileSendChunk lg (sys.tox s) (friend s) request.fileNumber (.bytes data)
    return (sys.answered s request).after s tox actions
  | (s, lg, .resume fileNumber) => do
    let (_, tox, actions) ← newToxFileControl lg (sys.tox s) (friend s) fileNumber .resume
    return (sys.resumed s fileNumber).after s tox actions
  | (s, lg, .deliver cause) =>
    match sys.inFlight s with
    | [] => .error "nothing to deliver"
    | packet :: _ => do
      let (tox, actions) ← (packet.callback (friend s) cause).run (sys.tox s) lg
      return (sys.delivered s).after s tox actions

/-- What is assumed: files are not empty and their numbers are not reused, the core takes
    between 1 and 65535 bytes at a time, a client answers each request once with bytes of the
    file at the requested position, and resumes each offer once. -/
def Turn.Allowed (sys : System) : Turn → Prop
  | (s, lg, .send _ content _ _) =>
      content ≠ [] ∧ content.length < 2 ^ 64 ∧ (lg.newFileSender (friend s) = -1 ∨
        sys.files s (lg.newFileSender (friend s)).toUInt32.toUInt8 = none)
  | (s, lg, .iterate) =>
      1 ≤ (lg.fileDataSize (friend s)).toInt ∧ (lg.fileDataSize (friend s)).toInt ≤ 65535
  | (s, _, .answer request data) =>
      request ∈ sys.requests s ∧ 1 ≤ data.length ∧ data.length ≤ request.length.toNat ∧
        data <+: ((sys.files s request.fileNumber.toUInt8).getD []).drop request.position.toNat
  | (s, _, .resume fileNumber) => fileNumber ∈ sys.offers s
  | (_, _, .deliver _) => True

instance (sys : System) : (turn : Turn) → Decidable (turn.Allowed friend sys)
  | (_, _, .send _ _ _ _) => inferInstanceAs (Decidable (_ ∧ _ ∧ _))
  | (_, _, .iterate) => inferInstanceAs (Decidable (_ ∧ _))
  | (_, _, .answer _ _) => inferInstanceAs (Decidable (_ ∧ _ ∧ _ ∧ _))
  | (_, _, .resume _) => inferInstanceAs (Decidable (_ ∈ _))
  | (_, _, .deliver _) => .isTrue trivial

/-- The runs of the system in which every turn is allowed. -/
abbrev System.Reachable (turns : List Turn) (sys : System) : Prop :=
  Run (Guarded (Turn.Allowed friend) fun sys turn sys' => sys.step friend turn = .ok sys')
    {} turns sys

/-- Executes turns as long as they are allowed. -/
def System.runTurns (sys : System) (turns : List Turn) : Checked System :=
  turns.foldlM (fun sys turn => do
    Checked.assert (turn.Allowed friend sys) "not allowed"
    sys.step friend turn) sys

theorem reachable_of_runTurns {turns : List Turn} {sys : System}
    (h : System.runTurns friend {} turns = .ok sys) : System.Reachable friend turns sys :=
  (Run.of_foldlM h).mono fun _ _ _ hstep => by
    simp only [Checked.bind_eq_ok, Checked.assert_eq_ok, decide_eq_true_eq] at hstep
    obtain ⟨_, hallowed, hstep⟩ := hstep
    exact ⟨hallowed, hstep⟩

/-- The position and data of a chunk of the file the peer sends under a number. -/
def chunkOn (n : UInt8) (chunk : UInt32 × UInt64 × List UInt8) : Option (UInt64 × List UInt8) :=
  if chunk.1 = n.toUInt32 ||| 0x100 then some chunk.2 else none

/-- The chunks reported so far to the receiver of the file that side `s` sends under a number. -/
def System.chunksOf (sys : System) (s : Side) (n : UInt8) : List (UInt64 × List UInt8) :=
  (sys.chunks s.other).filterMap (chunkOn n)

/-- The position and length of a request for the file sent under a number. -/
def Request.onChannel (n : UInt8) (request : Request) : Option (UInt64 × UInt64) :=
  if request.fileNumber = n.toUInt32 then some (request.position, request.length) else none

/-- The part of a packet to the receiver that concerns the file under a number. -/
def Packet.onChannel (n : UInt8) : Packet → Option ChannelPacket
  | .sendRequest filenumber fileSize _ => if filenumber = n then some (.offer fileSize) else none
  | .control _ _ _ => none
  | .data filenumber bytes => if filenumber = n then some (.data bytes) else none

/-- The transfer of the file that side `s` sends under a number. -/
def System.channel (sys : System) (s : Side) (n : UInt8) : Channel where
  file := sys.files s n
  outgoing := (sys.tox s).getTransfer (friend s) n.toUInt32
  incoming := (sys.tox s.other).getTransfer (friend s.other) (n.toUInt32 ||| 0x100)
  packets := (sys.inFlight s.other).filterMap (Packet.onChannel n)
  requests := (sys.requests s).filterMap (Request.onChannel n)
  chunks := sys.chunksOf s n

end

end Tox4j.Adapter
