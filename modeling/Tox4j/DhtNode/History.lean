import Tox4j.DhtNode.Network

/-!
# What a node has taken into its table

`History` goes along with a run of the loops and lists the nodes that were handed to
`Dht.add_node`. No packet is ever taken out of the send pipe here, so the pipe is a list of all
packets that were written to it.
-/

namespace Tox4j.DhtNode

open Tox4j.Misc

variable {S : Sodium}

def Node.isIpv4 (node : Node) : Bool :=
  match node.nAddr with
  | .ipv4 _ => true
  | .ipv6 _ => false

/-- The nodes that are taken from a packet: those of a response that have an IPv4 address. -/
def Packet.ipv4Nodes : Packet → List Node
  | .nodesResponse response => response.nodes.filter Node.isIpv4
  | _ => []

/-- The nodes of an event: the one to bootstrap from, or those of the packet that is handled. -/
def Network.processed (network : Network S) : Network.Event → List Node
  | .datagram _ => []
  | .handle => network.recvPipe.head?.elim [] fun handled => handled.2.ipv4Nodes
  | .bootstrap node => [node]

/-- A state, and all nodes that were processed, in this order. -/
structure History (S : Sodium) where
  network : Network S
  processed : List Node := []

namespace History

def create (dhtSk : S.SecretKey) (dhtPk : PublicKey) : History S :=
  { network := Network.create dhtSk dhtPk }

/-- A step that raises no exception. -/
def Step (h : History S) (event : Network.Event) (h' : History S) : Prop :=
  h.network.Step event h'.network ∧ h'.processed = h.processed ++ h.network.processed event

/-- The request that is written for every node. -/
def request (dhtPk : PublicKey) : Packet :=
  .nodesRequest { key := dhtPk, pingId := requestPingId }

/-- Every node of the table was sent a request, the table has all nodes that were processed, and
    every packet was written with the channel key of the node it goes to. -/
structure Bookkept (dhtSk : S.SecretKey) (dhtPk : PublicKey) (h : History S) : Prop where
  requested : ∀ (key : PublicKey) (node : ConnectedNode S),
    h.network.dht.dhtNodes[key]? = some node →
      ∃ written, (written, request dhtPk) ∈ h.network.sendPipe ∧ written.cnNode.nKey = key
  added : h.processed.foldlM Dht.addNode (Dht.create dhtSk dhtPk) = .ok h.network.dht
  channelKeys : ∀ written ∈ h.network.sendPipe,
    written.1.cnCkey = S.precompute dhtSk written.1.cnNode.nKey

end History

end Tox4j.DhtNode
