import Tox4j.DhtNode.Proofs.Fields
import Tox4j.DhtNode.Proofs.Network
import Tox4j.DhtNode.XorBox

/-!
# What an attacker can make of a datagram

The kind byte and the public key are outside of the box, and nothing inside repeats them. An
attacker can therefore have the fields of a packet read as those of another kind, wherever the
plain text allows it, and look up any entry of the node table that has the same channel key: the
receiver's own one, at the sender.
-/

namespace Tox4j.DhtNode

open Tox4j.Misc

variable {S : Sodium}

namespace Packet

/-- A ping id is read back. -/
theorem unpackPingId_plain {α : Type} (make : Int64 → α) (pingId : Int64) :
    unpackPingId make (Fill.bytesOfInt64 pingId).bytes = .ok (.ok (make pingId), []) := by
  have hfields := unpackPingId_append make (Fill.bytesOfInt64 pingId) []
  rwa [List.append_nil, int64OfBytes_bytesOfInt64] at hfields

/-- What is written into the box. -/
def packFields : Packet → Fill
  | .echoRequest packet => packet.packFields
  | .echoResponse packet => packet.packFields
  | .nodesRequest packet => packet.packFields
  | .nodesResponse packet => packet.packFields

/-- The bytes in the box. No node can be written. -/
def plainText : Packet → List UInt8
  | .echoRequest packet => (Fill.bytesOfInt64 packet.pingId).bytes
  | .echoResponse packet => (Fill.bytesOfInt64 packet.pingId).bytes
  | .nodesRequest packet => packet.key.bytes ++ (Fill.bytesOfInt64 packet.pingId).bytes
  | .nodesResponse packet => 0 :: (Fill.bytesOfInt64 packet.pingId).bytes

/-- No nodes are in the packet. -/
def NoNodes : Packet → Prop
  | .nodesResponse packet => packet.nodes = []
  | _ => True

theorem packRepeated_nil {α : Type} (f : α → Fill) (buf : List UInt8) :
    packRepeated [] f buf = Fill.string [0] buf := bind_pure (Fill.string [0] buf)

theorem packFields_eq_ok {packet : Packet} {plain : List UInt8}
    (h : packet.packFields [] = .ok plain) : plain = packet.plainText ∧ packet.NoNodes := by
  cases packet with
  | echoRequest packet =>
    have hfill : Fill.string (Fill.bytesOfInt64 packet.pingId).bytes [] = .ok plain := h
    exact ⟨fill_string_eq_ok hfill, trivial⟩
  | echoResponse packet =>
    have hfill : Fill.string (Fill.bytesOfInt64 packet.pingId).bytes [] = .ok plain := h
    exact ⟨fill_string_eq_ok hfill, trivial⟩
  | nodesRequest packet =>
    obtain ⟨buf, hkey, hpingId⟩ := fill_bind_eq_ok.mp h
    have hbuf := fill_string_eq_ok hkey
    have hplain := fill_string_eq_ok hpingId
    exact ⟨by rw [hplain, hbuf]; rfl, trivial⟩
  | nodesResponse packet =>
    obtain ⟨buf, hnodes, hpingId⟩ := fill_bind_eq_ok.mp h
    have hplain := fill_string_eq_ok hpingId
    cases hlist : packet.nodes with
    | nil =>
      rw [hlist, packRepeated_nil] at hnodes
      have hbuf := fill_string_eq_ok hnodes
      exact ⟨by rw [hplain, hbuf]; rfl, hlist⟩
    | cons node nodes =>
      rw [hlist] at hnodes
      obtain ⟨mid, -, hnode⟩ := fill_bind_eq_ok.mp hnodes
      cases hnode

/-- The plain text can be read as a packet of a kind. A ping id is at the start of all of them,
    and a key that starts with a zero is a list of no nodes. -/
def ReadableAs (packet : Packet) : Kind → Prop
  | .echoRequest => True
  | .echoResponse => True
  | .nodesRequest => packet.kind = .nodesRequest
  | .nodesResponse =>
    match packet with
    | .nodesRequest request => request.key.bytes.head? = some 0
    | .nodesResponse _ => True
    | _ => False

/-- A packet is read back as its own kind. -/
theorem unpackFields_self {packet : Packet} (h : packet.NoNodes) :
    packet.kind.unpackFields packet.plainText = .ok (.ok packet, []) := by
  cases packet with
  | echoRequest request =>
    exact Reader.mapOk_ok (unpackPingId_plain EchoRequest.mk request.pingId)
  | echoResponse response =>
    exact Reader.mapOk_ok (unpackPingId_plain EchoResponse.mk response.pingId)
  | nodesRequest request =>
    apply Reader.mapOk_ok
    apply (nodesRequest_append request.key _).trans
    exact unpackPingId_plain (NodesRequest.mk request.key) request.pingId
  | nodesResponse response =>
    obtain ⟨nodes, pingId⟩ := response
    have hnodes : nodes = [] := h
    have hfields := nodesResponse_noNodes (Fill.bytesOfInt64 pingId) []
    rw [List.append_nil, int64OfBytes_bytesOfInt64] at hfields
    rw [hnodes]
    exact hfields

theorem plainText_length (packet : Packet) :
    packet.plainText.length =
      match packet.kind with
      | .echoRequest => 8
      | .echoResponse => 8
      | .nodesRequest => 40
      | .nodesResponse => 9 := by
  cases packet with
  | echoRequest request => exact Sized.size _
  | echoResponse response => exact Sized.size _
  | nodesRequest request => simp only [plainText, List.length_append, Sized.size, kind]
  | nodesResponse response => simp only [plainText, List.length_cons, Sized.size, kind]

theorem readableAs_nodesRequest {packet packet' : Packet} {rest : List UInt8}
    (h : Kind.nodesRequest.unpackFields packet.plainText = .ok (.ok packet', rest)) :
    packet.kind = .nodesRequest := by
  have hlength := packet.plainText_length
  have hshort : ¬ packet.plainText.length < 40 := by
    intro hshort
    rw [nodesRequest_short hshort] at h
    cases h
  cases hkind : packet.kind with
  | nodesRequest => rfl
  | echoRequest => simp only [hkind] at hlength; omega
  | echoResponse => simp only [hkind] at hlength; omega
  | nodesResponse => simp only [hkind] at hlength; omega

/-- What is read as a nodes response announces no nodes. -/
theorem readableAs_nodesResponse {packet packet' : Packet} {rest : List UInt8}
    (h : Kind.nodesResponse.unpackFields packet.plainText = .ok (.ok packet', rest)) :
    packet.ReadableAs .nodesResponse := by
  have hlength := packet.plainText_length
  cases hplain : packet.plainText with
  | nil =>
    rw [hplain] at h
    cases h
  | cons n tail =>
    rw [hplain] at h hlength
    have hnodes := nodesResponse_length h
    rw [List.length_cons] at hlength
    cases packet with
    | echoRequest request => simp only [kind] at hlength; omega
    | echoResponse response => simp only [kind] at hlength; omega
    | nodesRequest request =>
      simp only [kind] at hlength
      have hzero : n = 0 := by
        apply UInt8.toNat_inj.mp
        rw [UInt8.toNat_zero]
        omega
      obtain ⟨b, key, hkey⟩ := request.key.exists_cons
      rw [plainText, hkey] at hplain
      cases hplain
      rw [ReadableAs, hkey, hzero]
      rfl
    | nodesResponse response => trivial

/-- What the plain text of a packet can be read as. -/
theorem unpackFields_plainText_iff {packet : Packet} (hnodes : packet.NoNodes) (kind : Kind) :
    (∃ packet' rest, kind.unpackFields packet.plainText = .ok (.ok packet', rest)) ↔
      packet.ReadableAs kind := by
  have hlength : 8 ≤ packet.plainText.length := by
    rw [plainText_length]
    split <;> omega
  cases kind with
  | echoRequest =>
    obtain ⟨bs, left, hplain⟩ := Reader.exists_append hlength
    rw [hplain, echoRequest_eq]
    exact iff_of_true ⟨_, _, Reader.mapOk_ok (unpackPingId_append _ bs left)⟩ trivial
  | echoResponse =>
    obtain ⟨bs, left, hplain⟩ := Reader.exists_append hlength
    rw [hplain, echoResponse_eq]
    exact iff_of_true ⟨_, _, Reader.mapOk_ok (unpackPingId_append _ bs left)⟩ trivial
  | nodesRequest =>
    constructor
    · rintro ⟨packet', rest, h⟩
      exact readableAs_nodesRequest h
    · intro hkind
      have hself := unpackFields_self hnodes
      rw [show packet.kind = .nodesRequest from hkind] at hself
      exact ⟨packet, [], hself⟩
  | nodesResponse =>
    constructor
    · rintro ⟨packet', rest, h⟩
      exact readableAs_nodesResponse h
    · intro hread
      cases packet with
      | echoRequest request => cases hread
      | echoResponse response => cases hread
      | nodesRequest request =>
        obtain ⟨b, key, hkey⟩ := request.key.exists_cons
        rw [ReadableAs, hkey] at hread
        cases hread
        have hrest : 8 ≤ (key.bytes ++ (Fill.bytesOfInt64 request.pingId).bytes).length := by
          rw [List.length_append, Sized.size, Sized.size]
          omega
        obtain ⟨bs, left, hleft⟩ := Reader.exists_append hrest
        rw [plainText, hkey, List.cons_append, hleft]
        exact ⟨_, _, nodesResponse_noNodes bs left⟩
      | nodesResponse response => exact ⟨_, [], unpackFields_self hnodes⟩

end Packet

namespace NetworkPacket

theorem pack_eq (dht : Dht S) (node : ConnectedNode S) (nonce : Nonce) (packet : Packet) :
    pack dht node nonce packet =
      DhtPacket.pack dht node nonce packet.kind packet.packFields [] := by
  cases packet with
  | echoRequest packet => rfl
  | echoResponse packet => rfl
  | nodesRequest packet => rfl
  | nodesResponse packet => rfl

/-- A datagram is the header and the box of the plain text. -/
theorem pack_eq_ok {dht : Dht S} {node : ConnectedNode S} {nonce : Nonce} {packet : Packet}
    {datagram : List UInt8} (h : pack dht node nonce packet = .ok datagram) :
    packet.NoNodes ∧ datagram = UInt8.ofNat packet.kind.toInt ::
      DhtPacket.body dht.dhtPk nonce (S.fastBox node.cnCkey nonce packet.plainText) := by
  rw [pack_eq] at h
  obtain ⟨buf₁, hkind, h⟩ := fill_bind_eq_ok.mp h
  obtain ⟨buf₂, hkey, h⟩ := fill_bind_eq_ok.mp h
  obtain ⟨buf₃, hnonce, h⟩ := fill_bind_eq_ok.mp h
  obtain ⟨plain, hplain, h⟩ := fill_bind_eq_ok.mp h
  obtain ⟨rfl, hnodes⟩ := Packet.packFields_eq_ok hplain
  rw [Kind.pack, Fill.uint8] at hkind
  rw [PublicKey.pack] at hkey
  rw [Nonce.pack] at hnonce
  have hbuf₁ := fill_string_eq_ok hkind
  have hbuf₂ := fill_string_eq_ok hkey
  have hbuf₃ := fill_string_eq_ok hnonce
  have hdatagram := fill_string_eq_ok h
  rw [hbuf₃, hbuf₂, hbuf₁] at hdatagram
  refine ⟨hnodes, hdatagram.trans ?_⟩
  simp only [List.nil_append, List.append_assoc, List.cons_append, DhtPacket.body]

end NetworkPacket

/-- The datagram with another kind byte and another public key. -/
def rewriteHeader (kind : UInt8) (publicKey : PublicKey) (datagram : List UInt8) : List UInt8 :=
  kind :: (publicKey.bytes ++ datagram.drop 33)

theorem rewriteHeader_body (k k' : UInt8) (publicKey publicKey' : PublicKey) (nonce : Nonce)
    (cipherText : List UInt8) :
    rewriteHeader k' publicKey' (k :: DhtPacket.body publicKey nonce cipherText) =
      k' :: DhtPacket.body publicKey' nonce cipherText := by
  rw [rewriteHeader, List.drop_succ_cons, DhtPacket.body, List.drop_left' publicKey.size]
  rfl

/-- Each of two nodes has the other one in its node table, with the same channel key. -/
structure Connected (A B : Network S) (bAtA aAtB : ConnectedNode S) : Prop where
  reachableA : A.Reachable
  reachableB : B.Reachable
  findB : A.dht.dhtNodes[B.dht.dhtPk]? = some bAtA
  findA : B.dht.dhtNodes[A.dht.dhtPk]? = some aAtB
  channelKey : aAtB.cnCkey = bAtA.cnCkey

/-- `B` accepts the datagram only as the packet of `A`, and `A` does not accept it as a packet of
    `B`. -/
def Authentic (A B : Network S) (bAtA aAtB : ConnectedNode S) (packet : Packet)
    (datagram : List UInt8) : Prop :=
  (∀ source packet', NetworkPacket.Accepts B.dht datagram source packet' →
      source = aAtB ∧ packet' = packet) ∧
    ∀ packet', ¬ NetworkPacket.Accepts A.dht datagram bAtA packet'

/-- The header does not lead to another reading: when the plain text can be read as the kind, the
    key is not the one of the receiver, and it leads the receiver to an entry with the channel key
    only if it is the one of the sender and the kind is the one that was sent. -/
def HeaderHarmless (A B : Network S) (channelKey : S.ChannelKey) (packet : Packet) (k : UInt8)
    (publicKey : PublicKey) : Prop :=
  ∀ kind, Kind.ofByte k = some kind → packet.ReadableAs kind →
    publicKey ≠ B.dht.dhtPk ∧
      ∀ node, B.dht.dhtNodes[publicKey]? = some node → node.cnCkey = channelKey →
        publicKey = A.dht.dhtPk ∧ kind = packet.kind

section

variable {A B : Network S} {bAtA aAtB : ConnectedNode S} {packet : Packet} {nonce : Nonce}
  {datagram : List UInt8}

/-- A box with a header is read by every node that has an entry with its channel key. -/
theorem accepts_box_iff (hS : S.Unforgeable) {dht : Dht S} {k : UInt8} {publicKey : PublicKey}
    {channelKey : S.ChannelKey} {plain : List UInt8} {source : ConnectedNode S}
    {packet' : Packet} :
    NetworkPacket.Accepts dht
        (k :: DhtPacket.body publicKey nonce (S.fastBox channelKey nonce plain)) source packet' ↔
      ∃ kind rest, Kind.ofByte k = some kind ∧ dht.dhtNodes[publicKey]? = some source ∧
        source.cnCkey = channelKey ∧ kind.unpackFields plain = .ok (.ok packet', rest) := by
  rw [NetworkPacket.accepts_iff]
  constructor
  · rintro ⟨kind, plain', rest, hkind, hnode, hopen, hfields⟩
    have hkey := hS.key_of_open _ _ _ _ _ hopen
    rw [hkey, hS.open_box] at hopen
    cases hopen
    exact ⟨kind, rest, hkind, hnode, hkey, hfields⟩
  · rintro ⟨kind, rest, hkind, hnode, rfl, hfields⟩
    exact ⟨kind, plain, rest, hkind, hnode, hS.open_box _ _ _, hfields⟩

/-- The datagrams with a changed header that are authentic. -/
theorem packet_authentic_iff (hS : S.Unforgeable) (h : Connected A B bAtA aAtB)
    (hpack : NetworkPacket.pack A.dht bAtA nonce packet = .ok datagram) (k : UInt8)
    (publicKey : PublicKey) :
    Authentic A B bAtA aAtB packet (rewriteHeader k publicKey datagram) ↔
      HeaderHarmless A B bAtA.cnCkey packet k publicKey := by
  obtain ⟨hnodes, rfl⟩ := NetworkPacket.pack_eq_ok hpack
  rw [rewriteHeader_body, Authentic]
  constructor
  · rintro ⟨hB, hA⟩ kind hkind hread
    obtain ⟨packet', rest, hfields⟩ := (Packet.unpackFields_plainText_iff hnodes kind).mpr hread
    constructor
    · rintro rfl
      exact hA packet' ((accepts_box_iff hS).mpr ⟨kind, rest, hkind, h.findB, rfl, hfields⟩)
    · intro node hnode hkey
      obtain ⟨rfl, rfl⟩ :=
        hB node packet' ((accepts_box_iff hS).mpr ⟨kind, rest, hkind, hnode, hkey, hfields⟩)
      have hkeyOfNode := h.reachableB.keysMatch _ _ hnode
      have hkeyOfA := h.reachableB.keysMatch _ _ h.findA
      exact ⟨hkeyOfNode.symm.trans hkeyOfA, (Kind.kind_of_unpackFields hfields).symm⟩
  · intro hharmless
    constructor
    · intro source packet' haccepts
      obtain ⟨kind, rest, hkind, hnode, hkey, hfields⟩ := (accepts_box_iff hS).mp haccepts
      have hread := (Packet.unpackFields_plainText_iff hnodes kind).mp ⟨packet', rest, hfields⟩
      obtain ⟨-, hentry⟩ := hharmless kind hkind hread
      obtain ⟨rfl, rfl⟩ := hentry source hnode hkey
      cases h.findA.symm.trans hnode
      rw [Packet.unpackFields_self hnodes] at hfields
      cases hfields
      exact ⟨rfl, rfl⟩
    · intro packet' haccepts
      obtain ⟨kind, rest, hkind, hnode, -, hfields⟩ := (accepts_box_iff hS).mp haccepts
      have hread := (Packet.unpackFields_plainText_iff hnodes kind).mp ⟨packet', rest, hfields⟩
      have hkeyOfNode := h.reachableA.keysMatch _ _ hnode
      have hkeyOfB := h.reachableA.keysMatch _ _ h.findB
      exact (hharmless kind hkind hread).1 (hkeyOfNode.symm.trans hkeyOfB)

end

/-- The datagram with an echo request that the node 1 sends to the node 2. -/
def exampleEcho : List UInt8 :=
  0x00 :: DhtPacket.body (XorBox.publicKey 1) XorBox.nonce
    (XorBox.tag 3 ++ (Fill.bytesOfInt64 7).bytes)

theorem exampleEcho_packed :
    NetworkPacket.pack (XorBox.network 1 2).dht (XorBox.peer 1 2) XorBox.nonce
      (.echoRequest ⟨7⟩) = .ok exampleEcho := rfl

theorem example_connected :
    Connected (XorBox.network 1 2) (XorBox.network 2 1) (XorBox.peer 1 2) (XorBox.peer 2 1) where
  reachableA := XorBox.network_reachable 1 2
  reachableB := XorBox.network_reachable 2 1
  findB := XorBox.network_peer 1 2
  findA := XorBox.network_peer 2 1
  channelKey := rfl

/-- An echo request is authentic as it was sent, but not with the kind byte of a response. -/
theorem packet_authentic_echoRequest :
    Authentic (XorBox.network 1 2) (XorBox.network 2 1) (XorBox.peer 1 2) (XorBox.peer 2 1)
        (.echoRequest ⟨7⟩) (rewriteHeader 0x00 (XorBox.publicKey 1) exampleEcho) ∧
      ¬ Authentic (XorBox.network 1 2) (XorBox.network 2 1) (XorBox.peer 1 2) (XorBox.peer 2 1)
        (.echoRequest ⟨7⟩) (rewriteHeader 0x01 (XorBox.publicKey 1) exampleEcho) := by
  rw [packet_authentic_iff xorBox_unforgeable example_connected exampleEcho_packed 0x00,
    packet_authentic_iff xorBox_unforgeable example_connected exampleEcho_packed 0x01]
  constructor
  · intro kind hkind hread
    cases hkind
    have hne : XorBox.publicKey 1 ≠ XorBox.publicKey 2 := by decide
    exact ⟨hne, fun node hnode hkey => ⟨rfl, rfl⟩⟩
  · intro hharmless
    obtain ⟨-, hentry⟩ := hharmless .echoResponse rfl trivial
    obtain ⟨-, hkind⟩ := hentry (XorBox.peer 2 1) (XorBox.network_peer 2 1) rfl
    cases hkind

/-- The receiver takes the request for a response when its kind byte is changed, and the sender
    accepts it as a request of the receiver when the public key is changed. -/
theorem echoRequest_not_authentic :
    Connected (XorBox.network 1 2) (XorBox.network 2 1) (XorBox.peer 1 2) (XorBox.peer 2 1) ∧
      NetworkPacket.pack (XorBox.network 1 2).dht (XorBox.peer 1 2)
        XorBox.nonce (.echoRequest ⟨7⟩) = .ok exampleEcho ∧
      ¬ Authentic (XorBox.network 1 2) (XorBox.network 2 1) (XorBox.peer 1 2) (XorBox.peer 2 1)
        (.echoRequest ⟨7⟩) (rewriteHeader 0x01 (XorBox.publicKey 1) exampleEcho) ∧
      ¬ Authentic (XorBox.network 1 2) (XorBox.network 2 1) (XorBox.peer 1 2) (XorBox.peer 2 1)
        (.echoRequest ⟨7⟩) (rewriteHeader 0x00 (XorBox.publicKey 2) exampleEcho) := by
  have hresponse : NetworkPacket.Accepts (XorBox.network 2 1).dht
      (rewriteHeader 0x01 (XorBox.publicKey 1) exampleEcho) (XorBox.peer 2 1)
      (.echoResponse ⟨7⟩) := ⟨[], rfl⟩
  have hreflected : NetworkPacket.Accepts (XorBox.network 1 2).dht
      (rewriteHeader 0x00 (XorBox.publicKey 2) exampleEcho) (XorBox.peer 1 2)
      (.echoRequest ⟨7⟩) := ⟨[], rfl⟩
  refine ⟨example_connected, exampleEcho_packed, ?_, ?_⟩
  · intro hauthentic
    obtain ⟨-, hpacket⟩ := hauthentic.1 _ _ hresponse
    cases hpacket
  · intro hauthentic
    exact hauthentic.2 _ hreflected

end Tox4j.DhtNode
