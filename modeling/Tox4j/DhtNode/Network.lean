import Tox4j.DhtNode.Main
import Tox4j.Misc.Run

/-!
# `network.ml`: the loops of a node

`recv_loop`, `event_loop` and `control_loop` run next to each other and share the node table and
the pipes. `send_loop`, which takes packets from a pipe, is in `Sending`.
-/

namespace Tox4j.DhtNode

open Tox4j.Misc

variable {S : Sodium}

/-- `Dht.create`, for the keys that `Crypto.random_keypair` made. -/
def Dht.create (dhtSk : S.SecretKey) (dhtPk : PublicKey) : Dht S := { dhtSk, dhtPk }

/-- The packets that are written to the pipe. -/
def Output.written : Output S → List (ConnectedNode S × Packet)
  | .sendWrite node packet => [(node, packet)]
  | _ => []

/-- `dht_ref`, and what is in the pipes. -/
structure Network (S : Sodium) where
  dht : Dht S
  recvPipe : List (ConnectedNode S × Packet) := []
  sendPipe : List (ConnectedNode S × Packet) := []

namespace Network

/-- A datagram in `recv_loop`; an error that is returned is printed. -/
def recvLoop (network : Network S) (datagram : List UInt8) : Except Exn (Network S) := do
  let (result, _) ← NetworkPacket.unpack network.dht datagram
  match result with
  | .ok handled => return { network with recvPipe := network.recvPipe ++ [handled] }
  | .error _ => return network

/-- The next packet in `event_loop`. -/
def eventLoop (network : Network S) : Except Exn (Network S) :=
  match network.recvPipe with
  | [] => .ok network
  | (source, packet) :: recvPipe => do
    let (dht, outputs) ← handleNetworkEvent network.dht source packet
    return { dht, recvPipe, sendPipe := network.sendPipe ++ outputs.flatMap Output.written }

/-- A node to bootstrap from in `control_loop`. -/
def controlLoop (network : Network S) (node : Node) : Except Exn (Network S) := do
  let dht ← network.dht.addNode node
  let connectedNode ← okExn (dht.nodeByKey node.nKey)
  let request := Packet.nodesRequest { key := dht.dhtPk, pingId := requestPingId }
  return { network with dht, sendPipe := network.sendPipe ++ [(connectedNode, request)] }

/-- What the scheduler may run next. -/
inductive Event where
  | datagram (bytes : List UInt8)
  | handle
  | bootstrap (node : Node)

def step (network : Network S) : Event → Except Exn (Network S)
  | .datagram bytes => network.recvLoop bytes
  | .handle => network.eventLoop
  | .bootstrap node => network.controlLoop node

/-- `Network.create`, with a fresh node table. -/
def create (dhtSk : S.SecretKey) (dhtPk : PublicKey) : Network S :=
  { dht := Dht.create dhtSk dhtPk }

/-- A step that raises no exception. -/
def Step (network : Network S) (event : Event) (network' : Network S) : Prop :=
  network.step event = .ok network'

def Reachable (network : Network S) : Prop :=
  ∃ dhtSk dhtPk events, Run Step (create dhtSk dhtPk) events network

/-- No exception is raised. -/
def Returns {α : Type} (x : Except Exn α) : Prop := ∃ a, x = .ok a

/-- Receiving the datagram raises no exception, and neither does handling the packet, if there is
    one, in whatever state it is handled. -/
def Survives (network : Network S) (datagram : List UInt8) : Prop :=
  Returns (network.recvLoop datagram) ∧
    ∀ source packet, NetworkPacket.Accepts network.dht datagram source packet →
      ∀ network' : Network S, network'.Reachable →
        Returns (handleNetworkEvent network'.dht source packet)

end Network

end Tox4j.DhtNode
