import Tox4j.DhtNode.Sending
import Tox4j.Misc.ClosedNetwork

/-!
# A network that consists of nodes of this program

The nodes are parties of a network without outsiders: what one of them receives was sent by one of
them, but it can be late, come twice, or come to a node that it was not meant for.
-/

namespace Tox4j.DhtNode

open Tox4j.Misc

variable {S : Sodium}

/-- A box is 16 bytes longer than what it opens to, whoever opens it. -/
structure Sodium.Strips (S : Sodium) : Prop where
  length_open : ∀ key nonce cipherText plain,
    S.fastBoxOpen key nonce cipherText = some plain → cipherText.length = plain.length + 16

/-- The datagram that an event delivers. -/
def Sending.Event.payload : Sending.Event → Option (List UInt8)
  | .loop (.datagram bytes) => some bytes
  | _ => none

/-- The node to bootstrap from. -/
def Sending.Event.bootstrap : Sending.Event → Option Node
  | .loop (.bootstrap node) => some node
  | _ => none

/-- A node as a party. -/
def nodeParty (S : Sodium) : Party (Sending S) Sending.Event (List UInt8) where
  step := Sending.Step
  sent s := s.sent.map Datagram.payload
  input := Sending.Event.payload

/-- A node that knows the nodes it has bootstrapped from and no others. It has written one request
    to each of them and nothing else, and has received nothing but requests. -/
structure Secluded (dhtSk : S.SecretKey) (dhtPk : PublicKey) (bootstraps : List Node)
    (s : Sending S) : Prop where
  table : bootstraps.foldlM Dht.addNode (Dht.create dhtSk dhtPk) = .ok s.network.dht
  written : ∃ taken, taken.length = s.sent.length ∧ taken ++ s.network.sendPipe =
    bootstraps.map fun node => (node.contact dhtSk, History.request dhtPk)
  received : ∀ handled ∈ s.network.recvPipe, handled.2.kind = .nodesRequest

end Tox4j.DhtNode
