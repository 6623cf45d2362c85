import Tox4j.DhtNode.Packet

/-!
# The layouts of `protocol.md`

The plain text of every packet, as it is documented. The first byte of a node has a bit for the
protocol and seven bits for the family of the address. The plain text of an echo request or
response starts with an `enc_type`, which repeats the kind. Numbers have their most significant
byte first.
-/

namespace Tox4j.DhtNode

open Tox4j.Misc

/-- `Protocol`. -/
def Protocol.bit : Protocol → ℕ
  | .udp => 0
  | .tcp => 1

/-- `port`. -/
def Port.layout (port : Port) : List UInt8 :=
  [UInt8.ofNat (port.toInt.toNat / 256), UInt8.ofNat (port.toInt.toNat % 256)]

/-- The first byte of `IPv4` and `IPv6`. -/
def Protocol.layout (protocol : Protocol) (family : ℕ) : UInt8 :=
  UInt8.ofNat (128 * protocol.bit + family)

/-- `Node`. -/
def Node.layout (node : Node) : List UInt8 :=
  match node.nAddr with
  | .ipv4 address => node.nProto.layout 0b10 ::
      (address.bytes ++ (node.nPort.layout ++ node.nKey.bytes))
  | .ipv6 address => node.nProto.layout 0b1010 ::
      (address.bytes ++ (node.nPort.layout ++ node.nKey.bytes))

/-- `nodes_size`, `nodes`, and what follows. -/
def nodesLayout (nodes : List Node) (rest : List UInt8) : List UInt8 :=
  UInt8.ofNat nodes.length :: (nodes.flatMap Node.layout ++ rest)

/-- What is encrypted. -/
def Packet.layout : Packet → List UInt8
  | .echoRequest packet => 0x00 :: (Fill.bytesOfInt64 packet.pingId).bytes
  | .echoResponse packet => 0x01 :: (Fill.bytesOfInt64 packet.pingId).bytes
  | .nodesRequest packet => packet.key.bytes ++ (Fill.bytesOfInt64 packet.pingId).bytes
  | .nodesResponse packet => nodesLayout packet.nodes (Fill.bytesOfInt64 packet.pingId).bytes

/-- `nodes_size` ranges between 1 and 4. -/
def Packet.InRange : Packet → Prop
  | .nodesResponse packet => 1 ≤ packet.nodes.length ∧ packet.nodes.length ≤ 4
  | _ => True

/-- The plain text is an instance of the layout of the kind. -/
def Documented (kind : Kind) (plain : List UInt8) : Prop :=
  ∃ packet : Packet, packet.kind = kind ∧ packet.InRange ∧ plain = packet.layout

/-- The plain text is too short for the kind to be read, or there is nothing wrong with what it
    starts with and nothing behind it. For the two echoes, the byte in front is the one of the
    kind; for a nodes response, there are 1 to 4 nodes. -/
def LayoutKept : Kind → List UInt8 → Prop
  | .echoRequest, plain => plain.length < 8 ∨ plain.length = 9 ∧ plain.head? = some 0x00
  | .echoResponse, plain => plain.length < 8 ∨ plain.length = 9 ∧ plain.head? = some 0x01
  | .nodesRequest, plain => plain.length ≤ 40
  | .nodesResponse, plain => ∀ nodes rest, nodes.length < 256 → 8 ≤ rest.length →
      plain = nodesLayout nodes rest →
        1 ≤ nodes.length ∧ nodes.length ≤ 4 ∧ rest.length = 8

section

variable {S : Sodium}

/-- A box of a known peer, behind the kind byte and the header, is accepted exactly when its plain
    text is an instance of the documented layout. -/
def FormatKept (dht : Dht S) (k : UInt8) (publicKey : PublicKey) (peer : ConnectedNode S)
    (nonce : Nonce) (plain : List UInt8) : Prop :=
  (∃ source packet, NetworkPacket.Accepts dht
      (k :: (publicKey.bytes ++ (nonce.bytes ++ S.fastBox peer.cnCkey nonce plain)))
      source packet) ↔
    ∃ kind, Kind.ofByte k = some kind ∧ Documented kind plain

end

end Tox4j.DhtNode
