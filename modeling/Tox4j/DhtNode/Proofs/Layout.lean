import Tox4j.DhtNode.Layout
import Tox4j.DhtNode.Proofs.RoundTrip

/-!
# What is accepted and what is documented

Ports, keys, addresses and nodes are read exactly where their layout is, so a nodes response is
read as the nodes that are laid out in it. The readers of the packets do not look at what comes
after their fields, nor at the number of nodes, and the two echoes are read without their
`enc_type`.
-/

namespace Tox4j.DhtNode

open Tox4j.Misc

variable {buf left : List UInt8}

/-! ## Ports and keys -/

/-- Two bytes are the layout of the port they are read as. -/
theorem Port.unpack_pair (hi lo : UInt8) (left : List UInt8) :
    ∃ port : Port, unpack (hi :: lo :: left) = .ok (.ok port, left) ∧ port.layout = [hi, lo] := by
  have hhi := hi.toNat_lt
  have hlo := lo.toNat_lt
  refine ⟨⟨hi.toNat * 256 + lo.toNat, by omega, by omega⟩, ?_, ?_⟩
  · have hread : Consume.uint16Be (hi :: lo :: left) =
        .ok ((hi.toNat * 256 + lo.toNat : ℤ), left) := rfl
    refine (Reader.bind_ok hread).trans ?_
    have hport : ofInt (hi.toNat * 256 + lo.toNat : ℤ) =
        some ⟨hi.toNat * 256 + lo.toNat, by omega, by omega⟩ :=
      dif_pos ⟨by omega, by omega⟩
    rw [hport]
    rfl
  · have hdiv : (hi.toNat * 256 + lo.toNat : ℤ).toNat / 256 = hi.toNat := by omega
    have hmod : (hi.toNat * 256 + lo.toNat : ℤ).toNat % 256 = lo.toNat := by omega
    rw [layout, hdiv, hmod, UInt8.ofNat_toNat, UInt8.ofNat_toNat]

theorem Port.layout_inj {port port' : Port} (h : port.layout = port'.layout) : port = port' := by
  have hmin := port.min_le
  have hmax := port.le_max
  have hmin' := port'.min_le
  have hmax' := port'.le_max
  have hpair := List.cons_eq_cons.mp h
  have hhi := congrArg UInt8.toNat hpair.1
  have hlo := congrArg UInt8.toNat (List.cons_eq_cons.mp hpair.2).1
  rw [UInt8.toNat_ofNat', UInt8.toNat_ofNat'] at hhi hlo
  have heq : port.toInt = port'.toInt := by omega
  cases port
  cases port'
  cases heq
  rfl

theorem Port.unpack_of_layout {port : Port} {hi lo : UInt8} (h : port.layout = [hi, lo]) :
    unpack (hi :: lo :: left) = .ok (.ok port, left) := by
  obtain ⟨port', hunpack, hlayout⟩ := unpack_pair hi lo left
  rw [hunpack, layout_inj (h.trans hlayout.symm)]

theorem Port.unpack_eq_ok {port : Port} :
    unpack buf = .ok (.ok port, left) ↔ buf = port.layout ++ left := by
  constructor
  · intro h
    by_cases hshort : buf.length < 2
    · rw [unpack_short hshort] at h
      cases h
    · rcases buf with _ | ⟨hi, _ | ⟨lo, rest⟩⟩
      · exact absurd (by decide) hshort
      · exact absurd (by simp) hshort
      · obtain ⟨port', hunpack, hlayout⟩ := unpack_pair hi lo rest
        rw [hunpack] at h
        cases h
        rw [hlayout]
        rfl
  · intro h
    obtain ⟨hi, lo, hlayout⟩ : ∃ hi lo, port.layout = [hi, lo] := ⟨_, _, rfl⟩
    rw [h, hlayout]
    exact unpack_of_layout hlayout

/-! ## Nodes -/

namespace Node

variable {node : Node}

theorem unpackAfterProto_eq_ok {nProto : Protocol} {nAddr : InetAddr} :
    unpackAfterProto nProto nAddr buf = .ok (.ok node, left) ↔
      node.nProto = nProto ∧ node.nAddr = nAddr ∧
        buf = node.nPort.layout ++ node.nKey.bytes ++ left := by
  constructor
  · intro h
    obtain ⟨port, mid, hport, hkey⟩ := Reader.onOk_eq_ok.mp h
    obtain ⟨key, mid', hkey, hnode⟩ := Reader.bind_eq_ok.mp hkey
    cases hnode
    rw [Port.unpack_eq_ok.mp hport, Reader.take_eq_ok.mp hkey, List.append_assoc]
    exact ⟨rfl, rfl, rfl⟩
  · intro h
    obtain ⟨rfl, rfl, rfl⟩ := h
    rw [List.append_assoc]
    refine (Reader.onOk_ok (Port.unpack_eq_ok.mpr rfl)).trans ?_
    exact Reader.bind_ok (publicKey_unpack_append node.nKey left)

theorem unpackAddress_eq_ok {n : ℕ} {nProto : Protocol} {wrap : Sized n → InetAddr} :
    unpackAddress nProto n wrap buf = .ok (.ok node, left) ↔
      ∃ address, node.nProto = nProto ∧ node.nAddr = wrap address ∧
        buf = address.bytes ++ (node.nPort.layout ++ node.nKey.bytes) ++ left := by
  constructor
  · intro h
    obtain ⟨address, mid, haddress, hnode⟩ := Reader.bind_eq_ok.mp h
    obtain ⟨hproto, haddr, hmid⟩ := unpackAfterProto_eq_ok.mp hnode
    refine ⟨address, hproto, haddr, ?_⟩
    rw [Reader.take_eq_ok.mp haddress, hmid]
    simp only [List.append_assoc]
  · intro h
    obtain ⟨address, hproto, haddr, rfl⟩ := h
    rw [List.append_assoc]
    refine (Reader.bind_ok (string_append address _)).trans ?_
    exact unpackAfterProto_eq_ok.mpr ⟨hproto, haddr, rfl⟩

/-- The bit of the protocol and the seven bits of the family. -/
theorem layout_iff (head : UInt8) {family : ℕ} (hfamily : family < 128) (protocol : Protocol) :
    head = protocol.layout family ↔
      (if head >>> 7 = 0 then Protocol.udp else .tcp) = protocol ∧
        head &&& 0x7f = UInt8.ofNat family := by
  have hlt := head.toNat_lt
  have hshift : head >>> 7 = 0 ↔ head.toNat < 128 := by
    rw [← UInt8.toNat_inj, UInt8.toNat_shiftRight, UInt8.toNat_zero]
    have hpow : head.toNat >>> (UInt8.toNat 7 % 8) = head.toNat / 128 :=
      Nat.shiftRight_eq_div_pow _ _
    omega
  have hand : head &&& 0x7f = UInt8.ofNat family ↔ head.toNat % 128 = family := by
    rw [← UInt8.toNat_inj, UInt8.toNat_and, UInt8.toNat_ofNat']
    have hmask : head.toNat &&& UInt8.toNat 0x7f = head.toNat % 128 :=
      Nat.and_two_pow_sub_one_eq_mod head.toNat 7
    omega
  rw [hand, Protocol.layout, ← UInt8.toNat_inj, UInt8.toNat_ofNat']
  by_cases hudp : head.toNat < 128
  · rw [if_pos (hshift.mpr hudp)]
    cases protocol with
    | udp => simp only [Protocol.bit, true_and]; omega
    | tcp => simp only [Protocol.bit, reduceCtorEq, false_and, iff_false]; omega
  · rw [if_neg (fun h => hudp (hshift.mp h))]
    cases protocol with
    | udp => simp only [Protocol.bit, reduceCtorEq, false_and, iff_false]; omega
    | tcp => simp only [Protocol.bit, true_and]; omega

theorem addressSize_eq_none {head : UInt8} (h4 : head &&& 0x7f ≠ 0b0010)
    (h16 : head &&& 0x7f ≠ 0b1010) : addressSize head = none := by
  unfold addressSize
  split
  · contradiction
  · contradiction
  · rfl

/-- A node is read exactly where its layout is. -/
theorem unpack_eq_ok : unpack buf = .ok (.ok node, left) ↔ buf = node.layout ++ left := by
  constructor
  · intro h
    cases buf with
    | nil => cases h
    | cons head rest =>
      by_cases h4 : head &&& 0x7f = 0b0010
      · rw [unpack_cons, h4] at h
        obtain ⟨address, hproto, haddr, rfl⟩ := unpackAddress_eq_ok.mp h
        have hhead := (layout_iff head (by decide) node.nProto).mpr ⟨hproto.symm, h4⟩
        rw [layout, haddr, hhead]
        rfl
      · by_cases h16 : head &&& 0x7f = 0b1010
        · rw [unpack_cons, h16] at h
          obtain ⟨address, hproto, haddr, rfl⟩ := unpackAddress_eq_ok.mp h
          have hhead := (layout_iff head (by decide) node.nProto).mpr ⟨hproto.symm, h16⟩
          rw [layout, haddr, hhead]
          rfl
        · rw [unpack_unknown (addressSize_eq_none h4 h16)] at h
          cases h
  · intro h
    rw [h, layout]
    cases haddr : node.nAddr with
    | ipv4 address =>
      obtain ⟨hproto, hfamily⟩ :=
        (layout_iff (node.nProto.layout 0b10) (by decide) node.nProto).mp rfl
      refine (unpack_cons _ _).trans ?_
      rw [hproto, hfamily]
      exact unpackAddress_eq_ok.mpr ⟨address, rfl, haddr, rfl⟩
    | ipv6 address =>
      obtain ⟨hproto, hfamily⟩ :=
        (layout_iff (node.nProto.layout 0b1010) (by decide) node.nProto).mp rfl
      refine (unpack_cons _ _).trans ?_
      rw [hproto, hfamily]
      exact unpackAddress_eq_ok.mpr ⟨address, rfl, haddr, rfl⟩

end Node

/-- A number of nodes is read exactly where their layouts are. -/
theorem unpackNodes_eq_ok {n : ℕ} {nodes : List Node} :
    unpackLoop Node.unpack [] n buf = .ok (.ok nodes, left) ↔
      nodes.length = n ∧ buf = nodes.flatMap Node.layout ++ left := by
  rw [unpackLoop_eq_ok, Reader.reads_iff_of_layout Node.unpack_eq_ok]

/-! ## Packets -/

theorem unpackPingId_eq_ok {α : Type} {make : Int64 → α} {a : α} :
    unpackPingId make buf = .ok (.ok a, left) ↔
      ∃ bs, a = make (Consume.int64OfBytes bs) ∧ buf = bs.bytes ++ left := by
  constructor
  · intro h
    by_cases hshort : buf.length < 8
    · rw [unpackPingId_short make hshort] at h
      cases h
    · obtain ⟨bs, left', rfl⟩ := Reader.exists_append (Nat.not_lt.mp hshort)
      rw [unpackPingId_append] at h
      cases h
      exact ⟨bs, rfl, rfl⟩
  · intro h
    obtain ⟨bs, rfl, rfl⟩ := h
    exact unpackPingId_append make bs left

/-- A nodes response is read from the layout of its nodes and of a ping id. -/
theorem nodesResponse_eq_ok {packet : Packet} :
    Kind.nodesResponse.unpackFields buf = .ok (.ok packet, left) ↔
      ∃ nodes bs, nodes.length < 256 ∧
        packet = .nodesResponse ⟨nodes, Consume.int64OfBytes bs⟩ ∧
        buf = nodesLayout nodes (bs.bytes ++ left) := by
  constructor
  · intro h
    cases buf with
    | nil =>
      rw [nodesResponse_nil] at h
      cases h
    | cons n rest =>
      rw [nodesResponse_cons] at h
      obtain ⟨response, hresponse, rfl⟩ := Reader.mapOk_eq_ok.mp h
      obtain ⟨nodes, mid, hnodes, hpingId⟩ := Reader.onOk_eq_ok.mp hresponse
      obtain ⟨hlength, rfl⟩ := unpackNodes_eq_ok.mp hnodes
      obtain ⟨bs, rfl, rfl⟩ := unpackPingId_eq_ok.mp hpingId
      refine ⟨nodes, bs, ?_, rfl, ?_⟩
      · rw [hlength]
        exact n.toNat_lt
      · rw [nodesLayout, hlength, UInt8.ofNat_toNat]
  · intro h
    obtain ⟨nodes, bs, hlength, rfl, rfl⟩ := h
    have hcount : (UInt8.ofNat nodes.length).toNat = nodes.length :=
      UInt8.toNat_ofNat_of_lt' hlength
    rw [nodesLayout, nodesResponse_cons, hcount]
    refine Reader.mapOk_eq_ok.mpr ⟨⟨nodes, Consume.int64OfBytes bs⟩, ?_, rfl⟩
    refine Reader.onOk_eq_ok.mpr ⟨nodes, bs.bytes ++ left, ?_, unpackPingId_append _ bs left⟩
    exact unpackNodes_eq_ok.mpr ⟨rfl, rfl⟩

/-- The number and the nodes can be told from the bytes. -/
theorem nodesLayout_inj {nodes nodes' : List Node} {rest rest' : List UInt8}
    (hlength : nodes.length < 256) (hlength' : nodes'.length < 256)
    (h : nodesLayout nodes rest = nodesLayout nodes' rest') : nodes = nodes' ∧ rest = rest' := by
  obtain ⟨hcount, hbytes⟩ := List.cons_eq_cons.mp h
  have hcount := congrArg UInt8.toNat hcount
  rw [UInt8.toNat_ofNat_of_lt' hlength, UInt8.toNat_ofNat_of_lt' hlength'] at hcount
  have hread : unpackLoop Node.unpack [] nodes.length (nodes.flatMap Node.layout ++ rest) =
      .ok (.ok nodes, rest) := unpackNodes_eq_ok.mpr ⟨rfl, rfl⟩
  have hread' : unpackLoop Node.unpack [] nodes.length (nodes.flatMap Node.layout ++ rest) =
      .ok (.ok nodes', rest') := unpackNodes_eq_ok.mpr ⟨hcount.symm, hbytes⟩
  rw [hread] at hread'
  cases hread'
  exact ⟨rfl, rfl⟩

/-! ## What can be read, and what is documented -/

/-- The fields of a kind can be read. -/
def Readable (kind : Kind) (plain : List UInt8) : Prop :=
  ∃ packet left, kind.unpackFields plain = .ok (.ok packet, left)

section

variable {plain : List UInt8}

/-- What is read as a ping id only needs eight bytes. -/
theorem readable_pingId_iff {α : Type} (make : Int64 → α) (wrap : α → Packet) :
    (∃ packet left, (unpackPingId make).mapOk wrap plain = .ok (.ok packet, left)) ↔
      8 ≤ plain.length := by
  constructor
  · intro h
    obtain ⟨packet, left, hread⟩ := h
    obtain ⟨a, hpingId, _⟩ := Reader.mapOk_eq_ok.mp hread
    obtain ⟨bs, _, rfl⟩ := unpackPingId_eq_ok.mp hpingId
    rw [List.length_append, bs.size]
    omega
  · intro h
    obtain ⟨bs, left, rfl⟩ := Reader.exists_append h
    exact ⟨_, left, Reader.mapOk_ok (unpackPingId_append make bs left)⟩

theorem readable_nodesRequest_iff : Readable .nodesRequest plain ↔ 40 ≤ plain.length := by
  constructor
  · intro h
    obtain ⟨packet, left, hread⟩ := h
    by_contra hshort
    rw [nodesRequest_short (Nat.not_le.mp hshort)] at hread
    cases hread
  · intro h
    obtain ⟨key, rest, rfl⟩ := Reader.exists_append (le_trans (by decide) h : 32 ≤ plain.length)
    have hrest : 8 ≤ rest.length := by
      rw [List.length_append, key.size] at h
      omega
    obtain ⟨bs, left, rfl⟩ := Reader.exists_append hrest
    have hread : NodesRequest.unpackFields (key.bytes ++ (bs.bytes ++ left)) =
        .ok (.ok ⟨key, Consume.int64OfBytes bs⟩, left) :=
      (nodesRequest_append key _).trans (unpackPingId_append (NodesRequest.mk key) bs left)
    exact ⟨_, left, Reader.mapOk_ok hread⟩

theorem readable_nodesResponse_iff :
    Readable .nodesResponse plain ↔
      ∃ nodes rest, nodes.length < 256 ∧ 8 ≤ rest.length ∧ plain = nodesLayout nodes rest := by
  constructor
  · intro h
    obtain ⟨packet, left, hread⟩ := h
    obtain ⟨nodes, bs, hlength, _, hplain⟩ := nodesResponse_eq_ok.mp hread
    refine ⟨nodes, bs.bytes ++ left, hlength, ?_, hplain⟩
    rw [List.length_append, bs.size]
    omega
  · intro h
    obtain ⟨nodes, rest, hlength, hrest, rfl⟩ := h
    obtain ⟨bs, left, rfl⟩ := Reader.exists_append hrest
    exact ⟨_, left, nodesResponse_eq_ok.mpr ⟨nodes, bs, hlength, rfl, rfl⟩⟩

/-- Eight bytes are the bytes of some number. -/
theorem exists_bytesOfInt64 {bytes : List UInt8} (h : bytes.length = 8) :
    ∃ i, bytes = (Fill.bytesOfInt64 i).bytes :=
  ⟨Consume.int64OfBytes ⟨bytes, h⟩, by rw [bytesOfInt64_int64OfBytes]⟩

/-- An `enc_type` and eight bytes. -/
theorem encType_iff (encType : UInt8) :
    (∃ i, plain = encType :: (Fill.bytesOfInt64 i).bytes) ↔
      plain.length = 9 ∧ plain.head? = some encType := by
  constructor
  · intro h
    obtain ⟨i, rfl⟩ := h
    exact ⟨by rw [List.length_cons, Sized.size], rfl⟩
  · intro h
    obtain ⟨hlength, hhead⟩ := h
    cases plain with
    | nil => cases hhead
    | cons b rest =>
      cases hhead
      obtain ⟨i, rfl⟩ := exists_bytesOfInt64 (Nat.succ.inj hlength)
      exact ⟨i, rfl⟩

/-- A kind whose packets are laid out as an `enc_type` and a ping id. -/
theorem documented_encType_iff {kind : Kind} {encType : UInt8} (make : Int64 → Packet)
    (hkind : ∀ packet : Packet, packet.kind = kind ↔ ∃ i, packet = make i)
    (hrange : ∀ i, (make i).InRange)
    (hlayout : ∀ i, (make i).layout = encType :: (Fill.bytesOfInt64 i).bytes) :
    Documented kind plain ↔ plain.length = 9 ∧ plain.head? = some encType := by
  rw [← encType_iff]
  constructor
  · intro h
    obtain ⟨packet, hpacket, _, rfl⟩ := h
    obtain ⟨i, rfl⟩ := (hkind packet).mp hpacket
    exact ⟨i, hlayout i⟩
  · intro h
    obtain ⟨i, rfl⟩ := h
    exact ⟨make i, (hkind _).mpr ⟨i, rfl⟩, hrange i, (hlayout i).symm⟩

theorem documented_echoRequest_iff :
    Documented .echoRequest plain ↔ plain.length = 9 ∧ plain.head? = some 0x00 := by
  refine documented_encType_iff (fun i => .echoRequest ⟨i⟩) ?_ (fun _ => trivial) (fun _ => rfl)
  intro packet
  constructor
  · intro h
    cases packet <;> cases h
    exact ⟨_, rfl⟩
  · intro h
    obtain ⟨_, rfl⟩ := h
    rfl

theorem documented_echoResponse_iff :
    Documented .echoResponse plain ↔ plain.length = 9 ∧ plain.head? = some 0x01 := by
  refine documented_encType_iff (fun i => .echoResponse ⟨i⟩) ?_ (fun _ => trivial) (fun _ => rfl)
  intro packet
  constructor
  · intro h
    cases packet <;> cases h
    exact ⟨_, rfl⟩
  · intro h
    obtain ⟨_, rfl⟩ := h
    rfl

/-- For the echoes: at least eight bytes are nine that start with the `enc_type`. -/
theorem encType_kept_iff (encType : UInt8) :
    (8 ≤ plain.length ↔ plain.length = 9 ∧ plain.head? = some encType) ↔
      plain.length < 8 ∨ plain.length = 9 ∧ plain.head? = some encType := by
  by_cases hhead : plain.head? = some encType
  · simp only [hhead, and_true]
    omega
  · simp only [hhead, and_false, or_false, iff_false, not_le]

theorem documented_nodesRequest_iff : Documented .nodesRequest plain ↔ plain.length = 40 := by
  constructor
  · intro h
    obtain ⟨packet, hkind, _, rfl⟩ := h
    cases packet <;> cases hkind
    rw [Packet.layout, List.length_append, Sized.size, Sized.size]
  · intro h
    obtain ⟨key, rest, rfl⟩ := Reader.exists_append (h ▸ by decide : 32 ≤ plain.length)
    rw [List.length_append, key.size] at h
    obtain ⟨i, rfl⟩ := exists_bytesOfInt64 (by omega : rest.length = 8)
    exact ⟨.nodesRequest ⟨key, i⟩, rfl, trivial, rfl⟩

theorem documented_nodesResponse_iff :
    Documented .nodesResponse plain ↔
      ∃ nodes rest, (1 ≤ nodes.length ∧ nodes.length ≤ 4) ∧ rest.length = 8 ∧
        plain = nodesLayout nodes rest := by
  constructor
  · intro h
    obtain ⟨packet, hkind, hrange, rfl⟩ := h
    cases packet <;> cases hkind
    exact ⟨_, _, hrange, Sized.size _, rfl⟩
  · intro h
    obtain ⟨nodes, rest, hrange, hrest, rfl⟩ := h
    obtain ⟨i, rfl⟩ := exists_bytesOfInt64 hrest
    exact ⟨.nodesResponse ⟨nodes, i⟩, rfl, hrange, rfl⟩

/-- For one kind: what can be read is what is documented, exactly when the layout is kept. -/
theorem readable_iff_documented_iff (kind : Kind) :
    (Readable kind plain ↔ Documented kind plain) ↔ LayoutKept kind plain := by
  cases kind with
  | echoRequest =>
    have hread : Readable .echoRequest plain ↔ 8 ≤ plain.length := readable_pingId_iff _ _
    rw [hread, documented_echoRequest_iff]
    exact encType_kept_iff 0x00
  | echoResponse =>
    have hread : Readable .echoResponse plain ↔ 8 ≤ plain.length := readable_pingId_iff _ _
    rw [hread, documented_echoResponse_iff]
    exact encType_kept_iff 0x01
  | nodesRequest =>
    rw [readable_nodesRequest_iff, documented_nodesRequest_iff, LayoutKept]
    omega
  | nodesResponse =>
    rw [readable_nodesResponse_iff, documented_nodesResponse_iff, LayoutKept]
    constructor
    · intro h nodes rest hlength hrest hplain
      obtain ⟨nodes', rest', hrange, hrest', hplain'⟩ := h.mp ⟨nodes, rest, hlength, hrest, hplain⟩
      have hlength' : nodes'.length < 256 := by omega
      obtain ⟨rfl, rfl⟩ := nodesLayout_inj hlength hlength' (hplain.symm.trans hplain')
      exact ⟨hrange.1, hrange.2, hrest'⟩
    · intro h
      constructor
      · intro hread
        obtain ⟨nodes, rest, hlength, hrest, hplain⟩ := hread
        obtain ⟨hmin, hmax, hrest⟩ := h nodes rest hlength hrest hplain
        exact ⟨nodes, rest, ⟨hmin, hmax⟩, hrest, hplain⟩
      · intro hdocumented
        obtain ⟨nodes, rest, hrange, hrest, hplain⟩ := hdocumented
        exact ⟨nodes, rest, by omega, hrest.ge, hplain⟩

end

/-! ## Datagrams of a known peer -/

section

variable {S : Sodium} {dht : Dht S} {publicKey : PublicKey} {peer : ConnectedNode S}

/-- A box of a known peer is accepted when its plain text can be read. -/
theorem accepts_of_peer_iff (hS : S.Opens) (hpeer : dht.dhtNodes[publicKey]? = some peer)
    (k : UInt8) (nonce : Nonce) (plain : List UInt8) :
    (∃ source packet, NetworkPacket.Accepts dht
        (k :: DhtPacket.body publicKey nonce (S.fastBox peer.cnCkey nonce plain)) source packet) ↔
      ∃ kind, Kind.ofByte k = some kind ∧ Readable kind plain := by
  have hopen := hS.open_box peer.cnCkey nonce plain
  constructor
  · intro h
    obtain ⟨source, packet, haccepts⟩ := h
    obtain ⟨kind, plain', rest, hkind, hsource, hopen', hfields⟩ :=
      NetworkPacket.accepts_iff.mp haccepts
    cases hpeer.symm.trans hsource
    cases hopen.symm.trans hopen'
    exact ⟨kind, hkind, packet, rest, hfields⟩
  · intro h
    obtain ⟨kind, hkind, packet, rest, hfields⟩ := h
    exact ⟨peer, packet,
      NetworkPacket.accepts_iff.mpr ⟨kind, plain, rest, hkind, hpeer, hopen, hfields⟩⟩

/-- The parser accepts what is documented, and only that, exactly for the plain texts that keep to
    the layout of their kind. -/
theorem format_kept_iff (hS : S.Opens) (hpeer : dht.dhtNodes[publicKey]? = some peer) (k : UInt8)
    (nonce : Nonce) (plain : List UInt8) :
    FormatKept dht k publicKey peer nonce plain ↔
      ∀ kind, Kind.ofByte k = some kind → LayoutKept kind plain := by
  refine (iff_congr (accepts_of_peer_iff hS hpeer k nonce plain) Iff.rfl).trans ?_
  cases hkind : Kind.ofByte k with
  | none => simp
  | some kind =>
    simp only [Option.some.injEq, exists_eq_left', forall_eq']
    exact readable_iff_documented_iff kind

/-- An echo request with its `enc_type`, and a nodes response with the node 9 in it. -/
theorem format_kept_documented :
    FormatKept (XorBox.network 1 2).dht 0x00 (XorBox.publicKey 2) (XorBox.peer 1 2) XorBox.nonce
        (Packet.layout (.echoRequest ⟨7⟩)) ∧
      FormatKept (XorBox.network 1 2).dht 0x04 (XorBox.publicKey 2) (XorBox.peer 1 2) XorBox.nonce
        (Packet.layout (.nodesResponse ⟨[(XorBox.peer 2 9).cnNode], 7⟩)) := by
  have hpeer := XorBox.network_peer 1 2
  constructor
  · refine (format_kept_iff xorBox_opens hpeer 0x00 XorBox.nonce _).mpr ?_
    intro kind hkind
    cases hkind
    exact .inr ⟨rfl, rfl⟩
  · refine (format_kept_iff xorBox_opens hpeer 0x04 XorBox.nonce _).mpr ?_
    intro kind hkind
    cases hkind
    intro nodes rest hlength _ hplain
    obtain ⟨rfl, rfl⟩ := nodesLayout_inj (by decide) hlength hplain
    decide

theorem not_formatKept (hS : S.Opens) (hpeer : dht.dhtNodes[publicKey]? = some peer) {k : UInt8}
    {kind : Kind} (hkind : Kind.ofByte k = some kind) (nonce : Nonce) {plain : List UInt8}
    (hread : Readable kind plain) (hnot : ¬ Documented kind plain) :
    ¬ FormatKept dht k publicKey peer nonce plain := by
  intro h
  obtain ⟨kind', hkind', hdocumented⟩ :=
    h.mp ((accepts_of_peer_iff hS hpeer k nonce plain).mpr ⟨kind, hkind, hread⟩)
  cases hkind.symm.trans hkind'
  exact hnot hdocumented

/-- An echo request without its `enc_type` is accepted, a nodes request with a byte after the ping
    id, and a nodes response without any nodes. -/
theorem format_not_kept :
    ¬ FormatKept (XorBox.network 1 2).dht 0x00 (XorBox.publicKey 2) (XorBox.peer 1 2) XorBox.nonce
        (List.replicate 8 7) ∧
      ¬ FormatKept (XorBox.network 1 2).dht 0x02 (XorBox.publicKey 2) (XorBox.peer 1 2)
        XorBox.nonce (List.replicate 41 7) ∧
      ¬ FormatKept (XorBox.network 1 2).dht 0x04 (XorBox.publicKey 2) (XorBox.peer 1 2)
        XorBox.nonce (nodesLayout [] (List.replicate 8 7)) := by
  have hpeer := XorBox.network_peer 1 2
  refine ⟨not_formatKept xorBox_opens hpeer rfl _ ?_ ?_,
    not_formatKept xorBox_opens hpeer rfl _ ?_ ?_, not_formatKept xorBox_opens hpeer rfl _ ?_ ?_⟩
  · exact (readable_pingId_iff _ _).mpr (by decide)
  · rw [documented_echoRequest_iff]
    decide
  · exact readable_nodesRequest_iff.mpr (by decide)
  · rw [documented_nodesRequest_iff]
    decide
  · exact readable_nodesResponse_iff.mpr ⟨[], List.replicate 8 7, by decide, by decide, rfl⟩
  · rw [documented_nodesResponse_iff]
    intro h
    obtain ⟨nodes, rest, hrange, _, hplain⟩ := h
    obtain ⟨rfl, _⟩ := nodesLayout_inj (by decide) (by omega) hplain
    exact absurd hrange.1 (by decide)

end

end Tox4j.DhtNode
