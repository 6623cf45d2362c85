import Tox4j.DhtNode.Proofs.Authenticity

/-!
# Packing a packet and unpacking it at the other end

A packet that is packed for a node comes out at that node, with the entry of the sender. Only
nodes get lost: there is no way to write one, so a nodes response can only be sent when it is
empty.
-/

namespace Tox4j.DhtNode

open Tox4j.Misc

variable {S : Sodium}

/-- A box opens with the channel key and nonce it was made with, and is 16 bytes longer than its
    plain text. -/
structure Sodium.Opens (S : Sodium) : Prop where
  open_box : ∀ key nonce plain, S.fastBoxOpen key nonce (S.fastBox key nonce plain) = some plain
  length_box : ∀ key nonce plain, (S.fastBox key nonce plain).length = plain.length + 16

/-- Each of two node tables has the node of the other one, with the same channel key. -/
structure Acquainted (A B : Dht S) (bAtA aAtB : ConnectedNode S) : Prop where
  findB : A.dhtNodes[B.dhtPk]? = some bAtA
  findA : B.dhtNodes[A.dhtPk]? = some aAtB
  channelKey : aAtB.cnCkey = bAtA.cnCkey

/-- `A` can pack the packet for `B`, and `B` unpacks it as a packet of `A`. -/
def RoundTrips (A B : Dht S) (bAtA aAtB : ConnectedNode S) (nonce : Nonce) (packet : Packet) :
    Prop :=
  ∃ datagram, NetworkPacket.pack A bAtA nonce packet = .ok datagram ∧
    NetworkPacket.unpack B datagram = .ok (.ok (aAtB, packet), [])

theorem fill_string_ok {s buf : List UInt8} (h : (buf ++ s).length ≤ defaultCapacity) :
    Fill.string s buf = .ok (buf ++ s) := if_pos h

/-- What is filled into an empty buffer. -/
theorem fill_string_nil {s : List UInt8} (h : s.length ≤ defaultCapacity) :
    Fill.string s [] = .ok s := fill_string_ok h

/-- The fields of a packet without nodes are filled in. -/
theorem Packet.packFields_ok {packet : Packet} (h : packet.NoNodes) :
    packet.packFields [] = .ok packet.plainText := by
  have hlength := packet.plainText_length
  have hfits : packet.plainText.length ≤ defaultCapacity := by
    rw [hlength]
    split <;> decide
  cases packet with
  | echoRequest request => exact fill_string_nil hfits
  | echoResponse response => exact fill_string_nil hfits
  | nodesRequest request =>
    have hkey : request.key.bytes.length ≤ defaultCapacity := by
      rw [request.key.size]
      decide
    exact fill_bind_eq_ok.mpr ⟨_, fill_string_nil hkey, fill_string_ok hfits⟩
  | nodesResponse response =>
    obtain ⟨nodes, pingId⟩ := response
    have hnodes : nodes = [] := h
    subst hnodes
    refine fill_bind_eq_ok.mpr ⟨[0], ?_, fill_string_ok hfits⟩
    rw [packRepeated_nil]
    rfl

namespace NetworkPacket

/-- A packet without nodes is packed into a header and a box. -/
theorem pack_ok (hS : S.Opens) (dht : Dht S) (node : ConnectedNode S) (nonce : Nonce)
    {packet : Packet} (h : packet.NoNodes) :
    pack dht node nonce packet = .ok (UInt8.ofNat packet.kind.toInt ::
      DhtPacket.body dht.dhtPk nonce (S.fastBox node.cnCkey nonce packet.plainText)) := by
  have hplain : packet.plainText.length ≤ 40 := by
    rw [packet.plainText_length]
    split <;> decide
  have hbox := hS.length_box node.cnCkey nonce packet.plainText
  have hkind : packet.kind.pack [] = .ok [UInt8.ofNat packet.kind.toInt] := rfl
  have hkey : dht.dhtPk.pack [UInt8.ofNat packet.kind.toInt] =
      .ok (UInt8.ofNat packet.kind.toInt :: dht.dhtPk.bytes) := by
    refine fill_string_ok ?_
    rw [List.length_append, List.length_singleton, dht.dhtPk.size]
    decide
  have hnonce : nonce.pack (UInt8.ofNat packet.kind.toInt :: dht.dhtPk.bytes) =
      .ok (UInt8.ofNat packet.kind.toInt :: (dht.dhtPk.bytes ++ nonce.bytes)) := by
    refine fill_string_ok ?_
    rw [List.length_append, List.length_cons, dht.dhtPk.size, nonce.size]
    decide
  have hfill : Fill.string (S.fastBox node.cnCkey nonce packet.plainText)
      (UInt8.ofNat packet.kind.toInt :: (dht.dhtPk.bytes ++ nonce.bytes)) =
      .ok (UInt8.ofNat packet.kind.toInt ::
        DhtPacket.body dht.dhtPk nonce (S.fastBox node.cnCkey nonce packet.plainText)) := by
    rw [fill_string_ok]
    · rw [List.cons_append, List.append_assoc]
      rfl
    · rw [List.length_append, List.length_cons, List.length_append, dht.dhtPk.size, nonce.size,
        hbox, defaultCapacity]
      omega
  rw [pack_eq]
  refine fill_bind_eq_ok.mpr ⟨_, hkind, fill_bind_eq_ok.mpr ⟨_, hkey, ?_⟩⟩
  refine fill_bind_eq_ok.mpr ⟨_, hnonce, fill_bind_eq_ok.mpr ⟨_, Packet.packFields_ok h, ?_⟩⟩
  exact hfill

end NetworkPacket

theorem Kind.ofByte_toInt (kind : Kind) : Kind.ofByte (UInt8.ofNat kind.toInt) = some kind := by
  cases kind <;> rfl

/-- A packet comes out as it was put in exactly when there are no nodes in it. -/
theorem packet_roundTrips_iff (hS : S.Opens) {A B : Dht S} {bAtA aAtB : ConnectedNode S}
    (h : Acquainted A B bAtA aAtB) (nonce : Nonce) (packet : Packet) :
    RoundTrips A B bAtA aAtB nonce packet ↔ packet.NoNodes := by
  constructor
  · intro htrip
    obtain ⟨datagram, hpack, _⟩ := htrip
    exact (NetworkPacket.pack_eq_ok hpack).1
  · intro hnodes
    refine ⟨_, NetworkPacket.pack_ok hS A bAtA nonce hnodes, ?_⟩
    rw [NetworkPacket.unpack_kind packet.kind.ofByte_toInt, DhtPacket.unpack_eq_ok, h.channelKey]
    exact ⟨h.findA, rfl, packet.plainText, [], hS.open_box _ _ _, Packet.unpackFields_self hnodes⟩

theorem xorBox_opens : xorBox.Opens where
  open_box := xorBox_unforgeable.open_box
  length_box key nonce plain := by
    have htag : (XorBox.tag key).length = 16 := List.length_replicate
    show (XorBox.tag key ++ plain).length = plain.length + 16
    rw [List.length_append, htag, Nat.add_comm]

theorem example_acquainted :
    Acquainted (XorBox.network 1 2).dht (XorBox.network 2 1).dht (XorBox.peer 1 2)
      (XorBox.peer 2 1) where
  findB := XorBox.network_peer 1 2
  findA := XorBox.network_peer 2 1
  channelKey := rfl

/-- The key of the node 9 is asked for, and the answer has no nodes. -/
theorem packet_roundTrips_noNodes :
    RoundTrips (XorBox.network 1 2).dht (XorBox.network 2 1).dht (XorBox.peer 1 2)
        (XorBox.peer 2 1) XorBox.nonce (.nodesRequest ⟨XorBox.publicKey 9, 7⟩) ∧
      RoundTrips (XorBox.network 2 1).dht (XorBox.network 1 2).dht (XorBox.peer 2 1)
        (XorBox.peer 1 2) XorBox.nonce (.nodesResponse ⟨[], 7⟩) := by
  have hback : Acquainted (XorBox.network 2 1).dht (XorBox.network 1 2).dht (XorBox.peer 2 1)
      (XorBox.peer 1 2) := ⟨XorBox.network_peer 2 1, XorBox.network_peer 1 2, rfl⟩
  constructor
  · exact (packet_roundTrips_iff xorBox_opens example_acquainted XorBox.nonce _).mpr trivial
  · exact (packet_roundTrips_iff xorBox_opens hback XorBox.nonce (.nodesResponse ⟨[], 7⟩)).mpr rfl

/-- The answer with the node 9 in it cannot be packed. -/
theorem nodesResponse_not_packed :
    xorBox.Opens ∧
      Acquainted (XorBox.network 2 1).dht (XorBox.network 1 2).dht (XorBox.peer 2 1)
        (XorBox.peer 1 2) ∧
      NetworkPacket.pack (XorBox.network 2 1).dht (XorBox.peer 2 1) XorBox.nonce
        (.nodesResponse ⟨[(XorBox.peer 2 9).cnNode], 7⟩) = .error (.assertFailure "false") ∧
      ¬ RoundTrips (XorBox.network 2 1).dht (XorBox.network 1 2).dht (XorBox.peer 2 1)
        (XorBox.peer 1 2) XorBox.nonce (.nodesResponse ⟨[(XorBox.peer 2 9).cnNode], 7⟩) := by
  have hpack : NetworkPacket.pack (XorBox.network 2 1).dht (XorBox.peer 2 1) XorBox.nonce
      (.nodesResponse ⟨[(XorBox.peer 2 9).cnNode], 7⟩) = .error (.assertFailure "false") := rfl
  refine ⟨xorBox_opens, ⟨XorBox.network_peer 2 1, XorBox.network_peer 1 2, rfl⟩, hpack, ?_⟩
  intro htrip
  obtain ⟨datagram, hdatagram, _⟩ := htrip
  rw [hpack] at hdatagram
  cases hdatagram

end Tox4j.DhtNode
