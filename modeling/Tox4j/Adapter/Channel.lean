import Tox4j.Adapter.Proofs.FileApi

/-!
# One file transfer, end to end

What a single transfer does, seen from both ends at once: the file, the sender's and the
receiver's `file_transfer`, what is under way between them and what the receiver has been told.
Everything other transfers do is invisible here. This is the abstract model of a transfer; the
system of two adapters refines it, one `Channel` for each number of each side.
-/

namespace Tox4j.Adapter

/-- What travels from the sender to the receiver of one file. -/
inductive ChannelPacket where
  | offer (fileSize : UInt64)
  | data (bytes : List UInt8)
  deriving DecidableEq, Repr

def ChannelPacket.bytes : ChannelPacket → List UInt8
  | .offer _ => []
  | .data bytes => bytes

def ChannelPacket.isOffer : ChannelPacket → Bool
  | .offer _ => true
  | .data _ => false

/-- A transfer with both of its ends. -/
@[ext]
structure Channel where
  /-- The file that is sent, once it has been offered. -/
  file : Option (List UInt8) := none
  /-- The transfer on the sending side. -/
  outgoing : Option FileTransfer := none
  /-- The transfer on the receiving side. -/
  incoming : Option FileTransfer := none
  /-- What is under way to the receiver, oldest first. -/
  packets : List ChannelPacket := []
  /-- The (position, length) of every request the client has not answered yet. -/
  requests : List (UInt64 × UInt64) := []
  /-- The (position, data) of every chunk reported to the receiver, oldest first. -/
  chunks : List (UInt64 × List UInt8) := []

namespace Channel

/-- The bytes the receiver has been given. -/
def received (c : Channel) : List UInt8 := c.chunks.flatMap Prod.snd

/-- The bytes the sender has let go of: received, or still under way. -/
def sent (c : Channel) : List UInt8 := c.received ++ c.packets.flatMap ChannelPacket.bytes

/-- Chunks that follow each other without a gap or an overlap, from `position` on. -/
def Consecutive (position : ℕ) : List (UInt64 × List UInt8) → Prop
  | [] => True
  | (start, data) :: chunks => start.toNat = position ∧ Consecutive (position + data.length) chunks

/-- What can happen to one transfer. -/
inductive Step : Channel → Channel → Prop
  /-- Something that concerns other transfers only. -/
  | stay (c) : Step c c
  | send {c content t} :
      c.file = none → content.length < 2 ^ 64 → t.position = 0 →
      t.fileSize = UInt64.ofNat content.length → t.eventPending = false →
      Step c { c with
        file := some content, outgoing := some t, packets := c.packets ++ [.offer t.fileSize] }
  | request {c t length} :
      c.outgoing = some t → t.eventPending = false → length ≤ t.fileSize - t.position →
      Step c { c with
        outgoing := some { t with sizeRequested := length, eventPending := true },
        requests := c.requests ++ [(t.position, length)] }
  /-- The client answers a request with bytes of the file, and they are sent. -/
  | answer {c content t position length before after data} :
      c.file = some content → c.outgoing = some t →
      c.requests = before ++ (position, length) :: after →
      data.length ≤ length.toNat → data <+: content.drop position.toNat →
      Step c { c with
        outgoing := some { t.advance (UInt64.ofNat data.length) with eventPending := false },
        packets := c.packets ++ [.data data], requests := before ++ after }
  /-- The client answers a request and is refused. -/
  | refuse {c request before after} :
      c.requests = before ++ request :: after →
      Step c { c with requests := before ++ after }
  /-- The sender learns that the offer was accepted. -/
  | accept {c t} :
      c.outgoing = some t → Step c { c with outgoing := some { t with state := .running } }
  /-- The sender learns that the receiver is done. -/
  | finishOutgoing (c) : Step c { c with outgoing := none }
  /-- The receiver learns that the sender is done. -/
  | finishIncoming (c) : Step c { c with incoming := none }
  | offer {c size packets} (cause) :
      c.packets = .offer size :: packets → c.incoming = none →
      Step c { c with packets, incoming := some { cause, fileSize := size } }
  | receive {c t data packets} :
      c.packets = .data data :: packets → c.incoming = some t →
      Step c { c with
        packets, incoming := some (t.advance (UInt64.ofNat data.length)),
        chunks := c.chunks ++ [(t.position, data)] }

/-- The requests the client still has to answer are about what follows the bytes sent, at most
    one at a time. -/
structure RequestsOf (t : FileTransfer) (requests : List (UInt64 × UInt64)) : Prop where
  length_le : requests.length ≤ 1
  pending : requests ≠ [] → t.eventPending = true
  within : ∀ position length, (position, length) ∈ requests →
    position = t.position ∧ length ≤ t.fileSize - t.position

/-- What holds of a transfer at all times. -/
structure Ok (c : Channel) : Prop where
  /-- Nothing happens before the offer. -/
  fresh : c.file = none → c = {}
  size : ∀ content, c.file = some content → content.length < 2 ^ 64
  sent_initial : ∀ content, c.file = some content → c.sent <+: content
  outgoing : ∀ content t, c.file = some content → c.outgoing = some t →
    t.fileSize.toNat = content.length ∧ t.position.toNat = c.sent.length ∧
      RequestsOf t c.requests
  /-- The receiver does not know of the transfer as long as the offer is under way, and there
      is one offer. -/
  offer : ∀ size, .offer size ∈ c.packets → c.incoming = none ∧ c.chunks = []
  offers : (c.packets.filter ChannelPacket.isOffer).length ≤ 1
  incoming : ∀ t, c.incoming = some t →
    t.position.toNat = c.received.length ∧ t.state = .paused
  consecutive : Consecutive 0 c.chunks

end Channel

end Tox4j.Adapter
