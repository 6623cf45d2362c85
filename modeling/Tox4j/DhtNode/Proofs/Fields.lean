import Tox4j.DhtNode.Proofs.Node
import Tox4j.DhtNode.Proofs.Packet

/-!
# Reading the fields of each kind

The plain text of an echo request is its ping id and the one of a nodes request is a key and the
ping id. A nodes response starts with the number of its nodes.
-/

namespace Tox4j.DhtNode

open Tox4j.Misc

variable {plain left : List UInt8}

/-- The ping id is the last field of every packet. -/
def unpackPingId {α : Type} (make : Int64 → α) : Consume (OrError α) := do
  let pingId ← Consume.int64Be
  return .ok (make pingId)

section

variable {α : Type} (make : Int64 → α)

theorem unpackPingId_append (bs : Sized 8) (left : List UInt8) :
    unpackPingId make (bs.bytes ++ left) = .ok (.ok (make (Consume.int64OfBytes bs)), left) :=
  Reader.bind_ok (int64Be_append bs left)

theorem unpackPingId_short (h : plain.length < 8) : unpackPingId make plain = .error .iobuf :=
  Reader.bind_error (int64Be_short h)

theorem safe_unpackPingId_iff {Q : α → Prop} :
    (unpackPingId make).Safe Q plain ↔
      ∃ (bs : Sized 8) (left : List UInt8),
        plain = bs.bytes ++ left ∧ Q (make (Consume.int64OfBytes bs)) := by
  constructor
  · intro hsafe
    by_cases hshort : plain.length < 8
    · exact absurd hsafe (Reader.not_safe_of_raises (unpackPingId_short make hshort))
    · obtain ⟨bs, left, rfl⟩ := Reader.exists_append (Nat.not_lt.mp hshort)
      exact ⟨bs, left, rfl, (Reader.safe_of_ok (unpackPingId_append make bs left)).mp hsafe⟩
  · intro h
    obtain ⟨bs, left, rfl, hQ⟩ := h
    exact (Reader.safe_of_ok (unpackPingId_append make bs left)).mpr hQ

/-- When every ping id will do, eight bytes are enough. -/
theorem safe_unpackPingId_of_forall {Q : α → Prop} (hQ : ∀ i, Q (make i)) :
    (unpackPingId make).Safe Q plain ↔ 8 ≤ plain.length := by
  rw [safe_unpackPingId_iff]
  constructor
  · intro h
    obtain ⟨bs, left, rfl, -⟩ := h
    rw [List.length_append, bs.size]
    omega
  · intro h
    obtain ⟨bs, left, hplain⟩ := Reader.exists_append h
    exact ⟨bs, left, hplain, hQ _⟩

end

theorem echoRequest_eq :
    Kind.echoRequest.unpackFields = (unpackPingId EchoRequest.mk).mapOk .echoRequest := rfl

theorem echoResponse_eq :
    Kind.echoResponse.unpackFields = (unpackPingId EchoResponse.mk).mapOk .echoResponse := rfl

theorem nodesRequest_append (key : PublicKey) (left : List UInt8) :
    NodesRequest.unpackFields (key.bytes ++ left) = unpackPingId (NodesRequest.mk key) left :=
  Reader.bind_ok (publicKey_unpack_append key left)

theorem nodesRequest_short (h : plain.length < 40) :
    Kind.nodesRequest.unpackFields plain = .error .iobuf := by
  apply Reader.mapOk_raises
  by_cases hkey : plain.length < 32
  · exact Reader.bind_error (publicKey_unpack_short hkey)
  · obtain ⟨key, rest, rfl⟩ := Reader.exists_append (Nat.not_lt.mp hkey)
    have hrest : rest.length < 8 := by
      simp only [List.length_append, key.size] at h
      omega
    rw [nodesRequest_append]
    exact unpackPingId_short (NodesRequest.mk key) hrest

theorem nodesResponse_nil : Kind.nodesResponse.unpackFields [] = .error .iobuf := rfl

theorem nodesResponse_cons (n : UInt8) (rest : List UInt8) :
    Kind.nodesResponse.unpackFields (n :: rest) =
      ((unpackLoop Node.unpack [] n.toNat).onOk fun nodes =>
        unpackPingId (NodesResponse.mk nodes)).mapOk .nodesResponse rest := rfl

theorem nodesResponse_noNodes (bs : Sized 8) (left : List UInt8) :
    Kind.nodesResponse.unpackFields (0 :: (bs.bytes ++ left)) =
      .ok (.ok (.nodesResponse ⟨[], Consume.int64OfBytes bs⟩), left) := by
  rw [nodesResponse_cons]
  apply Reader.mapOk_ok
  apply (Reader.onOk_ok (unpackLoop_zero [] (bs.bytes ++ left))).trans
  exact unpackPingId_append (NodesResponse.mk []) bs left

/-- The nodes that are announced and a ping id are there. -/
theorem nodesResponse_length {n : UInt8} {rest : List UInt8} {packet : Packet}
    (h : Kind.nodesResponse.unpackFields (n :: rest) = .ok (.ok packet, left)) :
    39 * n.toNat + 8 ≤ rest.length := by
  rw [nodesResponse_cons] at h
  obtain ⟨response, hresponse, -⟩ := Reader.mapOk_eq_ok.mp h
  obtain ⟨nodes, mid, hnodes, hpingId⟩ := Reader.onOk_eq_ok.mp hresponse
  have hmid := unpackNodes_length hnodes
  by_cases hshort : mid.length < 8
  · rw [unpackPingId_short (NodesResponse.mk nodes) hshort] at hpingId
    cases hpingId
  · omega

end Tox4j.DhtNode
