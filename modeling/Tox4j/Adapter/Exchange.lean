import Tox4j.Adapter.EndToEnd

/-!
# How a file transfer proceeds

One transfer as a protocol between its two ends: the offer, its acceptance, requests and chunks,
and the two controls that end it. `Exchange` is what the sender, the receiver and the packets
between them know of the transfer; `Step` is what brings it forward, `Request` is what an iteration
does, and `Phase` lists the situations it can be in when the core and both clients cooperate.
-/

namespace Tox4j.Adapter

open Tox4j.Misc

/-- What travels from the sender to the receiver of one file. -/
inductive Forward where
  | offer (fileSize : UInt64)
  | data (bytes : List UInt8)
  | control (code : LegacyControl)
  deriving DecidableEq, Repr

/-- A transfer as a protocol. -/
@[ext]
structure Exchange where
  /-- The length of the file, once it has been offered. -/
  size : Option ℕ := none
  outgoing : Option FileTransfer := none
  incoming : Option FileTransfer := none
  /-- What is under way to the receiver, oldest first. -/
  forward : List Forward := []
  /-- The controls on their way to the sender. -/
  backward : List LegacyControl := []
  /-- The (position, length) of every request the client has not answered yet. -/
  requests : List (UInt64 × UInt64) := []
  /-- The number of offers the receiver has not resumed yet. -/
  offers : ℕ := 0
  /-- The number of bytes reported to the receiver. -/
  received : ℕ := 0

namespace Exchange

/-! `causes` are the causes that the memory of a new transfer can hold at its receiver. -/

/-- What brings a transfer forward: a packet arrives, the receiver answers the offer, or the sender
    answers a request. -/
inductive Step (causes : PauseReason → Prop) : Exchange → Exchange → Prop
  | offered {c size forward cause} :
      c.forward = .offer size :: forward → c.incoming = none → causes cause →
      Step causes c
        { c with forward, incoming := some { cause, fileSize := size }, offers := c.offers + 1 }
  | resume {c n u} :
      c.offers = n + 1 → c.incoming = some u → u.cause ≠ .friend →
      Step causes c { c with offers := n, backward := c.backward ++ [.accept] }
  -- RESUME of a transfer that the friend seems to have paused
  | denied {c n u} :
      c.offers = n + 1 → c.incoming = some u → u.cause = .friend →
      Step causes c { c with offers := n }
  | accepted {c t backward} :
      c.backward = .accept :: backward → c.outgoing = some t →
      Step causes c { c with backward, outgoing := some { t with state := .running } }
  | answer {c t position length data} :
      c.outgoing = some t → c.requests = [(position, length)] → 1 ≤ data.length →
      data.length ≤ length.toNat →
      Step causes c { c with
        outgoing := some { t.advance (UInt64.ofNat data.length) with eventPending := false }
        requests := []
        forward := c.forward ++ .data data ::
          if t.position + UInt64.ofNat data.length = t.fileSize then [.control .finished] else [] }
  | data {c u data forward} :
      c.forward = .data data :: forward → c.incoming = some u →
      Step causes c { c with
        forward
        incoming := some (u.advance (UInt64.ofNat data.length))
        backward := c.backward ++
          if u.position + UInt64.ofNat data.length = u.fileSize then [.finished] else []
        received := c.received + data.length }
  | senderFinished {c forward} :
      c.forward = .control .finished :: forward → Step causes c { c with forward, incoming := none }
  | receiverFinished {c backward} :
      c.backward = .finished :: backward → Step causes c { c with backward, outgoing := none }

/-- An iteration asks for a chunk, of no more bytes than the core takes. -/
inductive Request (limit : ℕ) : Exchange → Exchange → Prop
  | request {c t length} :
      c.outgoing = some t → t.Due → 0 < length.toNat → length.toNat ≤ limit →
      length ≤ t.fileSize - t.position →
      Request limit c { c with
        outgoing := some { t with sizeRequested := length, eventPending := true }
        requests := c.requests ++ [(t.position, length)] }

/-- A file is offered. -/
inductive Send (size : ℕ) : Exchange → Exchange → Prop
  | send {c} {t : FileTransfer} :
      c.size = none → 0 < size → t.position = 0 → t.fileSize.toNat = size → t.state = .paused →
      t.eventPending = false →
      Send size c { c with
        size := some size, outgoing := some t, forward := c.forward ++ [.offer t.fileSize] }

/-- A side of the transfer of a file has come to a position. -/
structure Reached (size position : ℕ) (t : FileTransfer) : Prop where
  fileSize : t.fileSize.toNat = size
  position : t.position.toNat = position

/-- At most one request is waiting for an answer. -/
inductive Waiting (t : FileTransfer) : List (UInt64 × UInt64) → Prop
  | idle : t.eventPending = false → Waiting t []
  | asked {length} : t.eventPending = true → 0 < length.toNat →
      length ≤ t.fileSize - t.position → Waiting t [(t.position, length)]

/-- The situations a transfer can be in. -/
inductive Phase (causes : PauseReason → Prop) : Exchange → Prop
  | unused : Phase causes {}
  | offered {size t} : 0 < size → Reached size 0 t → t.state = .paused → t.eventPending = false →
      Phase causes { size := some size, outgoing := some t, forward := [.offer t.fileSize] }
  | announced {size t u} : 0 < size → Reached size 0 t → t.state = .paused →
      t.eventPending = false → Reached size 0 u → u.state = .paused → causes u.cause →
      Phase causes { size := some size, outgoing := some t, incoming := some u, offers := 1 }
  | denied {size t u} : 0 < size → Reached size 0 t → t.state = .paused →
      t.eventPending = false → Reached size 0 u → u.state = .paused → causes .friend →
      Phase causes { size := some size, outgoing := some t, incoming := some u }
  | accepted {size t u} : 0 < size → Reached size 0 t → t.state = .paused →
      t.eventPending = false → Reached size 0 u → u.state = .paused →
      Phase causes
        { size := some size, outgoing := some t, incoming := some u, backward := [.accept] }
  | sending {size sent t received u} {data : List (List UInt8)} {requests} : sent < size →
      Reached size sent t → t.state = .running → Waiting t requests → Reached size received u →
      u.state = .paused → received + data.flatten.length = sent → (∀ d ∈ data, 1 ≤ d.length) →
      Phase causes {
        size := some size, outgoing := some t, incoming := some u, forward := data.map .data,
        requests, received }
  | sent {size t received u} {data : List (List UInt8)} : received < size → Reached size size t →
      Reached size received u → u.state = .paused → received + data.flatten.length = size →
      (∀ d ∈ data, 1 ≤ d.length) →
      Phase causes {
        size := some size, outgoing := some t, incoming := some u,
        forward := data.map .data ++ [.control .finished], received }
  | received {size t u} : Reached size size t → Reached size size u → u.state = .paused →
      Phase causes {
        size := some size, outgoing := some t, incoming := some u,
        forward := [.control .finished], backward := [.finished], received := size }
  | senderDone {size u} : Reached size size u → u.state = .paused →
      Phase causes {
        size := some size, incoming := some u, forward := [.control .finished], received := size }
  | receiverDone {size t} : Reached size size t →
      Phase causes
        { size := some size, outgoing := some t, backward := [.finished], received := size }
  | done (size) : Phase causes { size := some size, received := size }

/-- What is still to come of a packet to the receiver. -/
def Forward.cost : Forward → ℕ
  -- the offer itself, its acceptance at both ends, and the receiver's last control
  | .offer _ => 4
  | .data _ | .control _ => 1

/-- What the sender still has to do: two turns for a byte at most, and the last control. -/
def outgoingCost (t : FileTransfer) : ℕ :=
  2 * (t.fileSize - t.position).toNat + if t.position = t.fileSize then 0 else 1

/-- What the receiver still has to do: its last control. -/
def incomingCost (u : FileTransfer) : ℕ :=
  if u.position = u.fileSize then 0 else 1

/-- A bound for the steps that are left. -/
def potential (c : Exchange) : ℕ :=
  (c.outgoing.map outgoingCost).getD 0 + (c.incoming.map incomingCost).getD 0 +
    (c.forward.map Forward.cost).sum + c.backward.length + 2 * c.offers

/-- The steps a file of a size can take. -/
def budget (size : ℕ) : ℕ := 2 * size + 5

end Exchange

/-- The part of a packet to the receiver that concerns the file under a number. -/
def Packet.forward (n : UInt8) : Packet → Option Forward
  | .sendRequest filenumber fileSize _ => if filenumber = n then some (.offer fileSize) else none
  | .control sendReceive filenumber code =>
      if sendReceive = false ∧ filenumber = n then some (.control code) else none
  | .data filenumber bytes => if filenumber = n then some (.data bytes) else none

/-- The control in a packet to the sender that concerns the file under a number. -/
def Packet.backward (n : UInt8) : Packet → Option LegacyControl
  | .control sendReceive filenumber code =>
      if sendReceive = true ∧ filenumber = n then some code else none
  | .sendRequest _ _ _ | .data _ _ => none

section

variable (friend : Side → UInt32)

/-- The transfer of the file that side `s` sends under a number. -/
def System.exchange (sys : System) (s : Side) (n : UInt8) : Exchange where
  size := (sys.files s n).map List.length
  outgoing := (sys.tox s).getTransfer (friend s) n.toUInt32
  incoming := (sys.tox s.other).getTransfer (friend s.other) (n.toUInt32 ||| 0x100)
  forward := (sys.inFlight s.other).filterMap (Packet.forward n)
  backward := (sys.inFlight s).filterMap (Packet.backward n)
  requests := (sys.requests s).filterMap (Request.onChannel n)
  offers := (sys.offers s.other).count (n.toUInt32 ||| 0x100)
  received := ((sys.chunksOf s n).flatMap Prod.snd).length

/-- The core has the other side as a connected friend, takes up to `size` bytes at a time and
    sends what it is given. -/
structure Legacy.Cooperates (lg : Legacy) (friendNumber : UInt32) (size : Int32) : Prop where
  exists_friend : lg.friendExists friendNumber = true
  online : lg.friendConnectionStatus friendNumber = 1
  size : lg.fileDataSize friendNumber = size
  sender : lg.newFileSender friendNumber = -1 ∨
    0 ≤ lg.newFileSender friendNumber ∧ lg.newFileSender friendNumber ≤ 255
  control : ∀ sendReceive filenumber code,
    lg.fileSendControl friendNumber sendReceive filenumber code = 0
  data : ∀ filenumber bytes, lg.fileSendData friendNumber filenumber bytes ≠ -1

/-- A packet can be delivered, and what the memory of a new transfer holds is a possible cause. -/
def Move.Deliverable (causes : PauseReason → Prop) (inFlight : List Packet) : Move → Prop
  | .deliver cause => inFlight ≠ [] ∧ causes cause
  | .send _ _ _ _ | .iterate | .answer _ _ | .resume _ => True

/-- The turns of a core and two clients that cooperate. -/
structure Turn.Cooperative (size : Side → Int32) (causes : PauseReason → Prop) (sys : System)
    (turn : Turn) : Prop where
  allowed : turn.Allowed friend sys
  core : turn.2.1.Cooperates (friend turn.1) (size turn.1)
  move : turn.2.2.Deliverable causes (sys.inFlight turn.1)

/-- A core that cooperates. It has no numbers left for new files. -/
def Legacy.cooperative (size : Int32) : Legacy where
  isconnected := true
  friendExists _ := true
  friendConnectionStatus _ := 1
  fileDataSize _ := size
  newFileSender _ := -1
  fileSendControl _ _ _ _ := 0
  fileSendData _ _ _ := 0

/-- The runs of a core and two clients that cooperate. -/
abbrev System.Cooperates (size : Side → Int32) (causes : PauseReason → Prop) (sys : System)
    (turns : List Turn) (sys' : System) : Prop :=
  Run (Guarded (Turn.Cooperative friend size causes) fun sys turn sys' =>
    sys.step friend turn = .ok sys') sys turns sys'

/-- Nothing is under way, nobody waits for an answer, and no iteration will ask for anything. -/
structure System.Quiescent (sys : System) : Prop where
  inFlight : ∀ s, sys.inFlight s = []
  requests : ∀ s, sys.requests s = []
  offers : ∀ s, sys.offers s = []
  due : ∀ s f n t, (sys.tox s).getTransfer f n = some t → ¬ t.Due

/-- Every file that was sent has been received, and neither side knows of it any more. -/
def System.Complete (sys : System) : Prop :=
  ∀ s n content, sys.files s n = some content →
    (sys.chunksOf s n).flatMap Prod.snd = content ∧
      (sys.tox s).getTransfer (friend s) n.toUInt32 = none ∧
        (sys.tox s.other).getTransfer (friend s.other) (n.toUInt32 ||| 0x100) = none

end

/-- The turns that bring a transfer forward. -/
def Turn.proceeds : Turn → ℕ
  | (_, _, .deliver _) | (_, _, .answer _ _) | (_, _, .resume _) => 1
  | (_, _, .send _ _ _ _) | (_, _, .iterate) => 0

instance fintypeSide : Fintype Side where
  elems := {.alice, .bob}
  complete s := by cases s <;> decide

instance fintypeUInt8 : Fintype UInt8 :=
  Fintype.ofBijective (fun n : Fin 256 => UInt8.ofFin n)
    ⟨fun n m h => by simpa using congrArg UInt8.toFin h, fun n => ⟨n.toFin, by simp⟩⟩

/-- How many of these the files allow that `new_tox_file_send` has offered. -/
def System.budget (sys : System) : ℕ :=
  ∑ k : Side × UInt8, ((sys.files k.1 k.2).map fun content => Exchange.budget content.length).getD 0

end Tox4j.Adapter
