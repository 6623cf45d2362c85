import Tox4j.DhtNode.AddressText
import Tox4j.DhtNode.History

/-!
# `network.ml`: the loop that sends, and all four loops together

`send_loop` takes the packets out of the pipe that the other loops write to. `Sending` is a node
with what it has sent and with what made it write, from which all that it sends can be told.
-/

namespace Tox4j.DhtNode

open Tox4j.Misc

variable {S : Sodium}

/-- What `sendto` is called with. -/
structure Datagram where
  ip : InetAddr
  port : Port
  payload : List UInt8
  deriving DecidableEq, Repr

/-- An exception that is raised in one of the loops. -/
inductive LoopError where
  | exn (e : Exn)
  /-- `Failure`, of `Unix.Inet_addr.of_string`. -/
  | inetAddr (text : List Char)
  deriving DecidableEq, Repr

/-- A packet in `send_read_loop`, with the nonce that `Nonce.random` made. -/
def sendPacket (dht : Dht S) (nonce : Nonce) (node : ConnectedNode S) (packet : Packet) :
    Except LoopError Datagram := do
  let payload ← (NetworkPacket.pack dht node nonce packet).mapError .exn
  match node.sendAddress with
  | some (ip, port) => return { ip, port, payload }
  | none => throw (.inetAddr node.cnNode.nAddr.toString)

/-- What makes a node write one packet. -/
inductive Cause (S : Sodium) where
  | echo (source : ConnectedNode S) (pingId : Int64)
  | ask (node : Node)

/-- The causes in a packet that is handled. -/
def Packet.causes (source : ConnectedNode S) : Packet → List (Cause S)
  | .echoRequest request => [.echo source request.pingId]
  | packet => packet.ipv4Nodes.map .ask

/-- The causes in what the scheduler runs next. -/
def Network.causes (network : Network S) : Network.Event → List (Cause S)
  | .datagram _ => []
  | .handle => network.recvPipe.head?.elim [] fun (source, packet) => packet.causes source
  | .bootstrap node => [.ask node]

/-- A node with the key of the channel to it. -/
def Node.contact (dhtSk : S.SecretKey) (node : Node) : ConnectedNode S :=
  { cnNode := node, cnCkey := S.precompute dhtSk node.nKey }

/-- The one packet for a cause, and the node it goes to. -/
def Cause.answer (dhtSk : S.SecretKey) (dhtPk : PublicKey) : Cause S → ConnectedNode S × Packet
  | .echo source pingId => (source, .echoResponse { pingId })
  | .ask node => (node.contact dhtSk, History.request dhtPk)

/-- The node that is added to the table for a cause. -/
def Cause.asked : Cause S → List Node
  | .echo _ _ => []
  | .ask node => [node]

/-- A node, the datagrams that it has sent, and the causes of all packets it has written. -/
structure Sending (S : Sodium) where
  network : Network S
  sent : List Datagram := []
  causes : List (Cause S) := []

namespace Sending

def create (dhtSk : S.SecretKey) (dhtPk : PublicKey) : Sending S :=
  { network := Network.create dhtSk dhtPk }

/-- What the scheduler may run next. -/
inductive Event where
  | loop (event : Network.Event)
  | send (nonce : Nonce)

/-- The next packet in `send_loop`. -/
def sendLoop (s : Sending S) (nonce : Nonce) : Except LoopError (Sending S) :=
  match s.network.sendPipe with
  | [] => .ok s
  | (node, packet) :: sendPipe => do
    let datagram ← sendPacket s.network.dht nonce node packet
    return { s with network := { s.network with sendPipe }, sent := s.sent ++ [datagram] }

def step (s : Sending S) : Event → Except LoopError (Sending S)
  | .send nonce => s.sendLoop nonce
  | .loop event => do
    let network ← (s.network.step event).mapError .exn
    return { s with network, causes := s.causes ++ s.network.causes event }

/-- A step that raises no exception. -/
def Step (s : Sending S) (event : Event) (s' : Sending S) : Prop := s.step event = .ok s'

/-- The addresses of the nodes to bootstrap from are printed unambiguously. -/
def Event.Printable : Event → Prop
  | .loop (.bootstrap node) => node.nAddr.NoZeroDropped
  | _ => True

/-- The datagram goes to the node. Whoever has the key of that node, agrees with the sender on the
    key of the channel and knows the sender unpacks the packet from it. -/
structure Carries (dhtSk : S.SecretKey) (dhtPk : PublicKey) (written : ConnectedNode S × Packet)
    (datagram : Datagram) : Prop where
  ip : datagram.ip = written.1.cnNode.nAddr
  port : datagram.port = written.1.cnNode.nPort
  unpacked : ∀ (receiver : Network S) (sender : ConnectedNode S), receiver.Reachable →
    receiver.dht.dhtPk = written.1.cnNode.nKey →
    S.precompute receiver.dht.dhtSk dhtPk = S.precompute dhtSk receiver.dht.dhtPk →
    receiver.dht.dhtNodes[dhtPk]? = some sender →
      NetworkPacket.unpack receiver.dht datagram.payload = .ok (.ok (sender, written.2), [])

/-- The answers to all causes, in their order, are what was sent and then what is in the pipe, and
    what is next in the pipe can be sent. -/
structure Answering (dhtSk : S.SecretKey) (dhtPk : PublicKey) (s : Sending S) : Prop where
  answered : ∃ taken, taken ++ s.network.sendPipe = s.causes.map (Cause.answer dhtSk dhtPk) ∧
    List.Forall₂ (Carries dhtSk dhtPk) taken s.sent
  next : ∀ nonce, ∃ s', s.sendLoop nonce = .ok s'

end Sending

end Tox4j.DhtNode
