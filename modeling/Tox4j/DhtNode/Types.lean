import Std.Data.ExtTreeMap
import Tox4j.DhtNode.Message

/-!
# `types.ml`, `publicKey.ml`, `nonce.ml`, `port.ml`, `inetAddr.ml` and `dht.ml`

The boxes of libsodium are a parameter.
-/

namespace Tox4j.DhtNode

open Tox4j.Misc

/-- `Box.public_key`. -/
abbrev PublicKey := Sized 32

namespace PublicKey

/-- `PublicKey.of_string`. -/
def ofString (s : List UInt8) : Except Exn PublicKey :=
  if h : s.length = 32 then .ok ⟨s, h⟩ else .error .sizeMismatch

def pack (key : PublicKey) : Fill := Fill.string key.bytes

/-- `PublicKey.unpack`; the string has the right size. -/
def unpack : Consume PublicKey := Consume.string 32

/-- The order of `PublicKey.compare`. -/
abbrev compare : PublicKey → PublicKey → Ordering := compareOn Sized.bytes

instance : Std.TransCmp compare :=
  inferInstanceAs (Std.TransCmp (compareOn Sized.bytes))

instance : Std.LawfulEqCmp compare where
  eq_of_compare {a b} h := by
    simp only [compareOn, Std.LawfulEqOrd.compare_eq_iff_eq] at h
    exact Sized.ext h

end PublicKey

/-- `Box.nonce`. -/
abbrev Nonce := Sized 24

namespace Nonce

def pack (nonce : Nonce) : Fill := Fill.string nonce.bytes

def unpack : Consume Nonce := Consume.string 24

end Nonce

/-- `Port.t`. -/
structure Port where
  toInt : ℤ
  min_le : 0 ≤ toInt
  le_max : toInt ≤ 65535
  deriving DecidableEq, Repr

namespace Port

def ofInt (i : ℤ) : Option Port :=
  if h : 0 ≤ i ∧ i ≤ 65535 then some ⟨i, h.1, h.2⟩ else none

def unpack : Consume (OrError Port) := do
  match ofInt (← Consume.uint16Be) with
  | none => return .error .rangeError
  | some port => return .ok port

end Port

/-- `InetAddr.t`. -/
inductive InetAddr where
  | ipv4 (address : Sized 4)
  | ipv6 (address : Sized 16)
  deriving DecidableEq, Repr

/-- `Protocol.t`. -/
inductive Protocol where
  | udp
  | tcp
  deriving DecidableEq, Repr

/-- `Types.node`. -/
structure Node where
  nProto : Protocol
  nAddr : InetAddr
  nPort : Port
  nKey : PublicKey
  deriving DecidableEq, Repr

/-- What is used of libsodium. -/
structure Sodium where
  SecretKey : Type
  ChannelKey : Type
  precompute : SecretKey → PublicKey → ChannelKey
  /-- `Box.Bytes.fast_box`. -/
  fastBox : ChannelKey → Nonce → List UInt8 → List UInt8
  /-- `Box.Bytes.fast_box_open`; `none` when it raises an exception. -/
  fastBoxOpen : ChannelKey → Nonce → List UInt8 → Option (List UInt8)

/-- A box opens with the channel key it was made with, and cannot be opened with another one. -/
structure Sodium.Unforgeable (S : Sodium) : Prop where
  open_box : ∀ key nonce plain, S.fastBoxOpen key nonce (S.fastBox key nonce plain) = some plain
  key_of_open : ∀ key key' nonce plain plain',
    S.fastBoxOpen key' nonce (S.fastBox key nonce plain) = some plain' → key' = key

/-- `Types.connected_node`. -/
structure ConnectedNode (S : Sodium) where
  cnNode : Node
  cnCkey : S.ChannelKey

/-- `PublicKeyMap.t`. -/
abbrev PublicKeyMap (α : Type) := Std.ExtTreeMap PublicKey α PublicKey.compare

/-- `Types.dht`. -/
structure Dht (S : Sodium) where
  dhtSk : S.SecretKey
  dhtPk : PublicKey
  dhtNodes : PublicKeyMap (ConnectedNode S) := ∅

namespace Dht

variable {S : Sodium}

/-- `Dht.add_dht_node`. -/
def addDhtNode (dht : Dht S) (dhtNode : ConnectedNode S) : Dht S :=
  { dht with dhtNodes := dht.dhtNodes.insert dhtNode.cnNode.nKey dhtNode }

/-- `Dht.add_node`. -/
def addNode (dht : Dht S) (node : Node) : Except Exn (Dht S) :=
  match dht.dhtNodes[node.nKey]? with
  | none => .ok (dht.addDhtNode
      { cnNode := node, cnCkey := S.precompute dht.dhtSk node.nKey })
  | some dhtNode =>
    if node.nKey ≠ dhtNode.cnNode.nKey then
      .error (.assertFailure "PublicKey.equal node.n_key dht_node.cn_node.n_key")
    else if dhtNode.cnNode = node then .ok dht
    else .ok (dht.addDhtNode { dhtNode with cnNode := node })

/-- `Dht.node_by_key`. -/
def nodeByKey (dht : Dht S) (publicKey : PublicKey) : OrError (ConnectedNode S) :=
  match dht.dhtNodes[publicKey]? with
  | none => .error .noSuchKey
  | some node => .ok node

end Dht

end Tox4j.DhtNode
