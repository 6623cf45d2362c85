import Tox4j.DhtNode.Packet

/-!
# `main.ml`: handling packets

`handle_network_event` prints what happens and writes packets to a pipe; both are outputs.
-/

namespace Tox4j.DhtNode

open Tox4j.Misc

/-- `int8_t`. -/
def int8 (i : ℤ) : ℤ := if 128 ≤ i then -(256 - i) else i

/-- `lxor`, on native integers. -/
def lxor (a b : ℤ) : ℤ := (BitVec.ofInt 63 a ^^^ BitVec.ofInt 63 b).toInt

/-- `Char.of_int_exn`. -/
def charOfIntExn (i : ℤ) : Except Exn UInt8 :=
  if 0 ≤ i ∧ i ≤ 255 then .ok (UInt8.ofNat i.toNat) else .error (.charOfInt i)

namespace PublicKey

/-- `PublicKey.tox_distance`. -/
def toxDistance (a b : PublicKey) : Except Exn (List UInt8) :=
  (a.bytes.zip b.bytes).mapM fun (x, y) =>
    charOfIntExn (lxor (int8 x.toNat) (int8 y.toNat)).natAbs

/-- `PublicKey.distance`; `use_kad_distance` is `false`. -/
def distance (a b : PublicKey) : Except Exn (List UInt8) := toxDistance a b

end PublicKey

section

variable {S : Sodium}

/-- What the handler prints and writes. -/
inductive Output (S : Sodium) where
  | nodeCount (n : ℕ)
  | gotEchoRequest (source : ConnectedNode S)
  | gotNodesResponse (source : ConnectedNode S)
  | dist (key : PublicKey)
  | sendWrite (node : ConnectedNode S) (packet : Packet)

/-- The ping id of every request. -/
def requestPingId : Int64 := 0x8765432101234567

/-- `wanted_key`. -/
def wantedKey (dht : Dht S) : PublicKey := dht.dhtPk

/-- `Or_error.ok_exn`. -/
def okExn {α : Type} : OrError α → Except Exn α
  | .ok a => .ok a
  | .error e => .error (.okExn e)

/-- What is done for a node of a response. -/
def handleNode (dht : Dht S) (node : Node) : Except Exn (Dht S × List (Output S)) :=
  match node.nAddr with
  | .ipv6 _ => .ok (dht, [])
  | .ipv4 _ => do
    let dht ← dht.addNode node
    let node ← okExn (dht.nodeByKey node.nKey)
    let dist ← PublicKey.distance (wantedKey dht) node.cnNode.nKey
    let key ← PublicKey.ofString dist
    let request := Packet.nodesRequest { key := wantedKey dht, pingId := requestPingId }
    return (dht, [.dist key, .sendWrite node request])

/-- The nodes of a response, one after the other. -/
def handleNodes (dht : Dht S) : List Node → Except Exn (Dht S × List (Output S))
  | [] => .ok (dht, [])
  | node :: nodes => do
    let (dht, outputs) ← handleNode dht node
    let (dht, rest) ← handleNodes dht nodes
    return (dht, outputs ++ rest)

/-- `handle_network_event`. -/
def handleNetworkEvent (dht : Dht S) (source : ConnectedNode S) (packet : Packet) :
    Except Exn (Dht S × List (Output S)) := do
  let count := Output.nodeCount dht.dhtNodes.size
  match packet with
  | .echoRequest { pingId } =>
    return (dht, [count, .gotEchoRequest source, .sendWrite source (.echoResponse { pingId })])
  | .echoResponse _ => return (dht, [count])
  | .nodesRequest _ => return (dht, [count])
  | .nodesResponse response =>
    if response.pingId ≠ requestPingId then
      throw (.assertFailure "response.ping_id = 0x8765432101234567L")
    else
      let (dht, outputs) ← handleNodes dht response.nodes
      return (dht, count :: .gotNodesResponse source :: outputs)

end

end Tox4j.DhtNode
