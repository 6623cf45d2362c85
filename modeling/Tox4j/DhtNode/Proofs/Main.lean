import Tox4j.DhtNode.Main
import Tox4j.Misc.BigEndian
import Tox4j.Misc.Checked

/-!
# What the handler of packets can do

In a reachable state every entry of the node table has the key it is stored under. Adding a node
then fails no assertion, the distance of two keys is always a string of bytes, and the only thing
that is left to go wrong in the handler is the ping id of a nodes response.
-/

namespace Tox4j.DhtNode

open Tox4j.Misc

variable {S : Sodium}

namespace Dht

/-- Every entry has the key it is stored under. -/
def KeysMatch (dht : Dht S) : Prop :=
  ∀ (key : PublicKey) (node : ConnectedNode S),
    dht.dhtNodes[key]? = some node → node.cnNode.nKey = key

theorem addDhtNode_self (dht : Dht S) (dhtNode : ConnectedNode S) :
    (dht.addDhtNode dhtNode).dhtNodes[dhtNode.cnNode.nKey]? = some dhtNode := by
  simp [addDhtNode]

theorem addDhtNode_keysMatch {dht : Dht S} (dhtNode : ConnectedNode S) (h : dht.KeysMatch) :
    (dht.addDhtNode dhtNode).KeysMatch := by
  intro key node hnode
  simp only [addDhtNode, Std.ExtTreeMap.getElem?_insert,
    Std.LawfulEqCmp.compare_eq_iff_eq] at hnode
  split at hnode
  · next heq =>
    cases hnode
    exact heq
  · exact h key node hnode

/-- All that adding a node does. -/
theorem addNode_cases {dht : Dht S} (h : dht.KeysMatch) (node : Node) :
    (∃ dhtNode, dht.dhtNodes[node.nKey]? = some dhtNode ∧ dht.addNode node = .ok dht) ∨
      ∃ dhtNode, dhtNode.cnNode = node ∧ dht.addNode node = .ok (dht.addDhtNode dhtNode) := by
  cases hfind : dht.dhtNodes[node.nKey]? with
  | none =>
    right
    refine ⟨{ cnNode := node, cnCkey := S.precompute dht.dhtSk node.nKey }, rfl, ?_⟩
    rw [addNode, hfind]
  | some dhtNode =>
    have hkey := h node.nKey dhtNode hfind
    by_cases hsame : dhtNode.cnNode = node
    · left
      refine ⟨dhtNode, rfl, ?_⟩
      simp only [addNode, hfind, hsame, ne_eq, not_true_eq_false, if_false, if_true]
    · right
      refine ⟨{ dhtNode with cnNode := node }, rfl, ?_⟩
      simp only [addNode, hfind, hkey, hsame, ne_eq, not_true_eq_false, if_false]

/-- A node can be added, and is found afterwards. -/
theorem addNode_ok {dht : Dht S} (h : dht.KeysMatch) (node : Node) :
    ∃ dht' dhtNode, dht.addNode node = .ok dht' ∧ dht'.KeysMatch ∧
      dht'.nodeByKey node.nKey = .ok dhtNode := by
  rcases addNode_cases h node with ⟨dhtNode, hfind, hadd⟩ | ⟨dhtNode, rfl, hadd⟩
  · refine ⟨dht, dhtNode, hadd, h, ?_⟩
    rw [nodeByKey, hfind]
  · refine ⟨_, dhtNode, hadd, addDhtNode_keysMatch dhtNode h, ?_⟩
    rw [nodeByKey, addDhtNode_self]

end Dht

/-- `int8_t` reads a byte as a number with a sign. -/
theorem int8_toNat (x : UInt8) : int8 x.toNat = x.toBitVec.toInt := by
  have hnat : x.toBitVec.toNat = x.toNat := rfl
  rw [BitVec.toInt_eq_toNat_cond, int8, hnat]
  split <;> split <;> omega

theorem lxor_int8 (x y : UInt8) :
    lxor (int8 x.toNat) (int8 y.toNat) = (x ^^^ y).toBitVec.toInt := by
  rw [int8_toNat, int8_toNat, lxor]
  change (x.toBitVec.signExtend 63 ^^^ y.toBitVec.signExtend 63).toInt = _
  rw [← BitVec.signExtend_xor, BitVec.toInt_signExtend_of_le (by decide)]
  rfl

/-- The absolute value of a byte that is read with its sign. -/
def absInt8 (x : UInt8) : UInt8 := UInt8.ofNat x.toBitVec.toInt.natAbs

/-- The bytes of a distance are at most 128. -/
theorem natAbs_toInt_le (x : UInt8) : x.toBitVec.toInt.natAbs ≤ 128 := by
  have hlt := BitVec.toInt_lt (x := x.toBitVec)
  have hle := BitVec.le_toInt x.toBitVec
  omega

theorem charOfIntExn_natAbs (x : UInt8) :
    charOfIntExn x.toBitVec.toInt.natAbs = .ok (absInt8 x) := by
  have hle := natAbs_toInt_le x
  exact if_pos (by omega)

namespace PublicKey

theorem toxDistance_eq (a b : PublicKey) :
    toxDistance a b =
      .ok ((List.finRange 32).map fun i => absInt8 (a.byte i ^^^ b.byte i)) := by
  rw [toxDistance, Sized.zip_bytes]
  apply mapM_map_pure
  intro i
  show charOfIntExn (lxor (int8 (a.byte i).toNat) (int8 (b.byte i).toNat)).natAbs = _
  rw [lxor_int8]
  exact charOfIntExn_natAbs _

theorem distance_ok (a b : PublicKey) :
    ∃ dist key, distance a b = .ok dist ∧ ofString dist = .ok key := by
  have hsize : ((List.finRange 32).map fun i => absInt8 (a.byte i ^^^ b.byte i)).length = 32 := by
    rw [List.length_map, List.length_finRange]
  exact ⟨_, ⟨_, hsize⟩, toxDistance_eq a b, dif_pos hsize⟩

end PublicKey

theorem handleNode_ok {dht : Dht S} (h : dht.KeysMatch) (node : Node) :
    ∃ dht' outputs, handleNode dht node = .ok (dht', outputs) ∧ dht'.KeysMatch := by
  rw [handleNode]
  cases node.nAddr with
  | ipv6 address => exact ⟨dht, [], rfl, h⟩
  | ipv4 address =>
    obtain ⟨dht', dhtNode, hadd, hkeys, hfind⟩ := Dht.addNode_ok h node
    obtain ⟨dist, key, hdist, hkey⟩ :=
      PublicKey.distance_ok (wantedKey dht') dhtNode.cnNode.nKey
    simp only [hadd, hfind, okExn, hdist, hkey, bind, Except.bind]
    exact ⟨dht', _, rfl, hkeys⟩

theorem handleNodes_ok {dht : Dht S} (h : dht.KeysMatch) (nodes : List Node) :
    ∃ dht' outputs, handleNodes dht nodes = .ok (dht', outputs) ∧ dht'.KeysMatch := by
  induction nodes generalizing dht with
  | nil => exact ⟨dht, [], rfl, h⟩
  | cons node nodes ih =>
    obtain ⟨dht₁, outputs, hnode, hkeys₁⟩ := handleNode_ok h node
    obtain ⟨dht₂, rest, hnodes, hkeys₂⟩ := ih hkeys₁
    refine ⟨dht₂, outputs ++ rest, ?_, hkeys₂⟩
    simp only [handleNodes, hnode, hnodes, bind, Except.bind]
    rfl

/-- A response to a request has the ping id of the requests. -/
def Packet.Expected : Packet → Prop
  | .nodesResponse response => response.pingId = requestPingId
  | _ => True

/-- The table a handler leaves is one like before. -/
theorem handleNetworkEvent_ok {dht : Dht S} (h : dht.KeysMatch) (source : ConnectedNode S)
    {packet : Packet} (hexpected : packet.Expected) :
    ∃ dht' outputs, handleNetworkEvent dht source packet = .ok (dht', outputs) ∧
      dht'.KeysMatch := by
  cases packet with
  | echoRequest request => exact ⟨dht, _, rfl, h⟩
  | echoResponse response => exact ⟨dht, _, rfl, h⟩
  | nodesRequest request => exact ⟨dht, _, rfl, h⟩
  | nodesResponse response =>
    have hpingId : response.pingId = requestPingId := hexpected
    obtain ⟨dht', outputs, hnodes, hkeys⟩ := handleNodes_ok h response.nodes
    simp only [handleNetworkEvent, hpingId, ne_eq, not_true_eq_false, if_false, hnodes, bind,
      Except.bind]
    exact ⟨dht', _, rfl, hkeys⟩

/-- A response with another ping id fails the assertion. -/
theorem handleNetworkEvent_unexpected (dht : Dht S) (source : ConnectedNode S) {packet : Packet}
    (h : ¬ packet.Expected) :
    handleNetworkEvent dht source packet =
      .error (.assertFailure "response.ping_id = 0x8765432101234567L") := by
  cases packet with
  | echoRequest request => exact absurd trivial h
  | echoResponse response => exact absurd trivial h
  | nodesRequest request => exact absurd trivial h
  | nodesResponse response => exact if_pos h

end Tox4j.DhtNode
