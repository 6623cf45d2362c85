import Tox4j.DhtNode.Types

/-!
# `packet.ml`, `node.ml`, `dhtPacket.ml`, the four packets and `networkPacket.ml`

Every packet is a kind byte, the sender's public key, a nonce, and a box with the fields of the
packet. The modules of the four packets hand the reader or the writer of their fields to
`DhtPacket`.
-/

namespace Tox4j.DhtNode

open Tox4j.Misc

/-- `Packet.Kind.t`. -/
inductive Kind where
  | echoRequest
  | echoResponse
  | nodesRequest
  | nodesResponse
  deriving DecidableEq, Repr

namespace Kind

/-- The kinds a byte stands for. -/
def ofByte : UInt8 → Option Kind
  | 0x00 => some .echoRequest
  | 0x01 => some .echoResponse
  | 0x02 => some .nodesRequest
  | 0x04 => some .nodesResponse
  | _ => none

def unpack : Consume (OrError Kind) := do
  match ofByte (← Consume.uint8) with
  | some kind => return .ok kind
  | none => return .error (.formatError "PacketKind")

def toInt : Kind → ℕ
  | echoRequest => 0x00
  | echoResponse => 0x01
  | nodesRequest => 0x02
  | nodesResponse => 0x04

def pack (kind : Kind) : Fill := Fill.uint8 kind.toInt

end Kind

/-- `Packet.Data.echo_request`. -/
structure EchoRequest where
  pingId : Int64
  deriving DecidableEq, Repr

/-- `Packet.Data.echo_response`. -/
structure EchoResponse where
  pingId : Int64
  deriving DecidableEq, Repr

/-- `Packet.Data.nodes_request`. -/
structure NodesRequest where
  key : PublicKey
  pingId : Int64
  deriving DecidableEq, Repr

/-- `Packet.Data.nodes_response`. -/
structure NodesResponse where
  nodes : List Node
  pingId : Int64
  deriving DecidableEq, Repr

/-- `Packet.Data.t`. -/
inductive Packet where
  | echoRequest (packet : EchoRequest)
  | echoResponse (packet : EchoResponse)
  | nodesRequest (packet : NodesRequest)
  | nodesResponse (packet : NodesResponse)
  deriving DecidableEq, Repr

/-- `Packet.Data.kind`. -/
def Packet.kind : Packet → Kind
  | .echoRequest _ => .echoRequest
  | .echoResponse _ => .echoResponse
  | .nodesRequest _ => .nodesRequest
  | .nodesResponse _ => .nodesResponse

/-- The loop of `Packet.unpack_repeated`. -/
def unpackLoop {α : Type} (f : Consume (OrError α)) (acc : List α) : ℕ → Consume (OrError (List α))
  | 0 => pure (.ok acc.reverse)
  | n + 1 => Reader.onOk f fun v => unpackLoop f (v :: acc) n

/-- `Packet.unpack_repeated`, with the number of elements in a byte. -/
def unpackRepeated {α : Type} (f : Consume (OrError α)) : Consume (OrError (List α)) := do
  let len ← Consume.uint8
  unpackLoop f [] len.toNat

/-- `Packet.pack_repeated`, with the number of elements in a byte. -/
def packRepeated {α : Type} (list : List α) (f : α → Fill) : Fill := fun buf => do
  let buf ← Fill.uint8 list.length buf
  list.foldlM (fun buf a => f a buf) buf

namespace Node

/-- `Node.unpack_after_proto`. -/
def unpackAfterProto (nProto : Protocol) (nAddr : InetAddr) : Consume (OrError Node) :=
  Port.unpack.onOk fun nPort => do
    let nKey ← PublicKey.unpack
    return .ok { nProto, nAddr, nPort, nKey }

/-- `Node.unpack`. -/
def unpack : Consume (OrError Node) := do
  let protocol ← Consume.uint8
  let nProto := if protocol >>> 7 = 0 then Protocol.udp else .tcp
  match protocol &&& 0x7f with
  | 0b0010 =>
    let address ← Consume.string 4
    unpackAfterProto nProto (.ipv4 address)
  | 0b1010 =>
    let address ← Consume.string 16
    unpackAfterProto nProto (.ipv6 address)
  | _ => return .error (.formatError "Node:protocol")

/-- `Node.pack` is not written yet. -/
def pack (_ : Node) : Fill := fun _ => .error (.assertFailure "false")

end Node

section

variable {S : Sodium}

/-- `Crypto.decrypt`. -/
def decrypt (channelKey : S.ChannelKey) (nonce : Nonce) : Consume (OrError (List UInt8)) := do
  let cipherText ← Consume.all
  match S.fastBoxOpen channelKey nonce cipherText with
  | none => return .error .boxOpen
  | some plainText => return .ok plainText

/-- `Crypto.pack_encrypted`. -/
def packEncrypted (channelKey : S.ChannelKey) (nonce : Nonce) (f : Fill) : Fill := fun buf => do
  let plain ← f []
  Fill.string (S.fastBox channelKey nonce plain) buf

namespace DhtPacket

/-- `DhtPacket.unpack`. -/
def unpack {α : Type} (dht : Dht S) (f : Consume (OrError α)) :
    Consume (OrError (ConnectedNode S × α)) := do
  let publicKey ← PublicKey.unpack
  let nonce ← Nonce.unpack
  match dht.nodeByKey publicKey with
  | .error e => return .error e
  | .ok node =>
    (decrypt node.cnCkey nonce).onOk fun plain =>
      (Reader.within plain f).mapOk fun result => (node, result)

/-- `DhtPacket.pack`, with the nonce that `Nonce.random` made. -/
def pack (dht : Dht S) (node : ConnectedNode S) (nonce : Nonce) (kind : Kind) (f : Fill) : Fill :=
  fun buf => do
    let buf ← kind.pack buf
    let buf ← dht.dhtPk.pack buf
    let buf ← nonce.pack buf
    packEncrypted node.cnCkey nonce f buf

end DhtPacket

namespace EchoRequest

def unpackFields : Consume (OrError EchoRequest) := do
  return .ok { pingId := ← Consume.int64Be }

def packFields (packet : EchoRequest) : Fill := Fill.int64Be packet.pingId

def unpack (dht : Dht S) : Consume (OrError (ConnectedNode S × EchoRequest)) :=
  DhtPacket.unpack dht unpackFields

def pack (dht : Dht S) (node : ConnectedNode S) (nonce : Nonce) (packet : EchoRequest) : Fill :=
  DhtPacket.pack dht node nonce .echoRequest packet.packFields

end EchoRequest

namespace EchoResponse

def unpackFields : Consume (OrError EchoResponse) := do
  return .ok { pingId := ← Consume.int64Be }

def packFields (packet : EchoResponse) : Fill := Fill.int64Be packet.pingId

def unpack (dht : Dht S) : Consume (OrError (ConnectedNode S × EchoResponse)) :=
  DhtPacket.unpack dht unpackFields

def pack (dht : Dht S) (node : ConnectedNode S) (nonce : Nonce) (packet : EchoResponse) : Fill :=
  DhtPacket.pack dht node nonce .echoResponse packet.packFields

end EchoResponse

namespace NodesRequest

def unpackFields : Consume (OrError NodesRequest) := do
  let key ← PublicKey.unpack
  let pingId ← Consume.int64Be
  return .ok { key, pingId }

def packFields (packet : NodesRequest) : Fill := fun buf => do
  let buf ← packet.key.pack buf
  Fill.int64Be packet.pingId buf

def unpack (dht : Dht S) : Consume (OrError (ConnectedNode S × NodesRequest)) :=
  DhtPacket.unpack dht unpackFields

def pack (dht : Dht S) (node : ConnectedNode S) (nonce : Nonce) (packet : NodesRequest) : Fill :=
  DhtPacket.pack dht node nonce .nodesRequest packet.packFields

end NodesRequest

namespace NodesResponse

def unpackFields : Consume (OrError NodesResponse) :=
  (unpackRepeated Node.unpack).onOk fun nodes => do
    let pingId ← Consume.int64Be
    return .ok { nodes, pingId }

def packFields (packet : NodesResponse) : Fill := fun buf => do
  let buf ← packRepeated packet.nodes Node.pack buf
  Fill.int64Be packet.pingId buf

def unpack (dht : Dht S) : Consume (OrError (ConnectedNode S × NodesResponse)) :=
  DhtPacket.unpack dht unpackFields

def pack (dht : Dht S) (node : ConnectedNode S) (nonce : Nonce) (packet : NodesResponse) : Fill :=
  DhtPacket.pack dht node nonce .nodesResponse packet.packFields

end NodesResponse

namespace NetworkPacket

/-- `NetworkPacket.unpack_and_wrap`. -/
def unpackAndWrap (dht : Dht S) : Kind → Consume (OrError (ConnectedNode S × Packet))
  | .echoRequest => (EchoRequest.unpack dht).mapOk fun (node, decoded) =>
      (node, .echoRequest decoded)
  | .echoResponse => (EchoResponse.unpack dht).mapOk fun (node, decoded) =>
      (node, .echoResponse decoded)
  | .nodesRequest => (NodesRequest.unpack dht).mapOk fun (node, decoded) =>
      (node, .nodesRequest decoded)
  | .nodesResponse => (NodesResponse.unpack dht).mapOk fun (node, decoded) =>
      (node, .nodesResponse decoded)

/-- `NetworkPacket.unpack`. -/
def unpack (dht : Dht S) : Consume (OrError (ConnectedNode S × Packet)) :=
  Kind.unpack.onOk (unpackAndWrap dht)

/-- A datagram is accepted as a packet from a node. -/
def Accepts (dht : Dht S) (datagram : List UInt8) (source : ConnectedNode S) (packet : Packet) :
    Prop :=
  ∃ rest, unpack dht datagram = .ok (.ok (source, packet), rest)

/-- `NetworkPacket.pack`. -/
def pack (dht : Dht S) (node : ConnectedNode S) (nonce : Nonce) (packet : Packet) :
    Except Exn (List UInt8) :=
  match packet with
  | .echoRequest packet => packet.pack dht node nonce []
  | .echoResponse packet => packet.pack dht node nonce []
  | .nodesRequest packet => packet.pack dht node nonce []
  | .nodesResponse packet => packet.pack dht node nonce []

end NetworkPacket

end

end Tox4j.DhtNode
