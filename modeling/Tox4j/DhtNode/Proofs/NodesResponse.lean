import Tox4j.DhtNode.Proofs.Authenticity
import Tox4j.DhtNode.Proofs.Layout

/-!
# Decoding nodes responses

The nodes that are laid out are read, and the loop over them stops at the first one that is not.
-/

namespace Tox4j.DhtNode

open Tox4j.Misc

/-- No address is read for a family that is not documented. -/
theorem Node.unpack_family (protocol : Protocol) {family : ℕ} (hlt : family < 128)
    (h4 : family ≠ 0b10) (h16 : family ≠ 0b1010) (left : List UInt8) :
    unpack (protocol.layout family :: left) =
      .ok (.error (.formatError "Node:protocol"), left) := by
  obtain ⟨_, hfamily⟩ := (layout_iff (protocol.layout family) hlt protocol).mp rfl
  have hne : ∀ other < 256, family ≠ other →
      protocol.layout family &&& 0x7f ≠ UInt8.ofNat other := by
    intro other hother hne heq
    rw [hfamily, ← UInt8.toNat_inj, UInt8.toNat_ofNat_of_lt' (Nat.lt_trans hlt (by decide)),
      UInt8.toNat_ofNat_of_lt' hother] at heq
    exact hne heq
  exact unpack_unknown (addressSize_eq_none (hne _ (by decide) h4) (hne _ (by decide) h16))

namespace NodesResponse

theorem unpackFields_cons (n : UInt8) (rest : List UInt8) :
    unpackFields (n :: rest) =
      (unpackLoop Node.unpack [] n.toNat).onOk (fun nodes => unpackPingId (NodesResponse.mk nodes))
        rest := rfl

/-- The nodes and the ping id of a plain text with the documented layout. -/
theorem unpackFields_layout {nodes : List Node} (hlength : nodes.length ≤ 255) (pingId : Int64) :
    unpackFields (nodesLayout nodes (Fill.bytesOfInt64 pingId).bytes) =
      .ok (.ok { nodes, pingId }, []) := by
  have hcount : (UInt8.ofNat nodes.length).toNat = nodes.length :=
    UInt8.toNat_ofNat_of_lt' (Nat.lt_succ_of_le hlength)
  rw [nodesLayout, unpackFields_cons, hcount]
  refine (Reader.onOk_ok (unpackNodes_eq_ok.mpr ⟨rfl, rfl⟩)).trans ?_
  exact Packet.unpackPingId_plain _ pingId

/-- A node of another family ends the decoding, whatever comes after its first byte. -/
theorem unpackFields_family {nodes : List Node} {n family : ℕ} (hn : n ≤ 255)
    (hlength : nodes.length < n) (protocol : Protocol) (hlt : family < 128)
    (h4 : family ≠ 0b10) (h16 : family ≠ 0b1010) (left : List UInt8) :
    unpackFields (UInt8.ofNat n ::
        (nodes.flatMap Node.layout ++ protocol.layout family :: left)) =
      .ok (.error (.formatError "Node:protocol"), left) := by
  have hcount : (UInt8.ofNat n).toNat = n := UInt8.toNat_ofNat_of_lt' (Nat.lt_succ_of_le hn)
  have hreads := (Reader.reads_iff_of_layout Node.unpack_eq_ok).mpr
    (Eq.refl (nodes.flatMap Node.layout ++ protocol.layout family :: left))
  rw [unpackFields_cons, hcount]
  apply Reader.onOk_err
  exact unpackLoop_eq_err.mpr
    ⟨nodes, _, hlength, hreads, Node.unpack_family protocol hlt h4 h16 left⟩

/-- What is laid out as documented is decoded to the nodes and the ping id, and a node within the
    count whose family is not documented makes it a format error. -/
theorem unpackFields_documented :
    (∀ (nodes : List Node) (pingId : Int64), nodes.length ≤ 255 →
      unpackFields (nodesLayout nodes (Fill.bytesOfInt64 pingId).bytes) =
        .ok (.ok { nodes, pingId }, [])) ∧
    ∀ (n : ℕ) (nodes : List Node) (protocol : Protocol) (family : ℕ) (left : List UInt8),
      n ≤ 255 → nodes.length < n → family < 128 → family ≠ 2 → family ≠ 10 →
        unpackFields (UInt8.ofNat n ::
            (nodes.flatMap Node.layout ++ protocol.layout family :: left)) =
          .ok (.error (.formatError "Node:protocol"), left) := by
  constructor
  · intro nodes pingId hlength
    exact unpackFields_layout hlength pingId
  · intro n nodes protocol family left hn hlength hlt h4 h16
    exact unpackFields_family hn hlength protocol hlt h4 h16 left

end NodesResponse

end Tox4j.DhtNode
