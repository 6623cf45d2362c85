import Tox4j.DhtNode.Packet
import Tox4j.DhtNode.Proofs.Message

/-!
# What a datagram is read as

The header of a datagram decides which entry of the node table the box is opened with and which
fields are read from it. `accepts_iff` and `safe_unpack_iff` say so, for accepting a datagram and
for raising no exception on it.
-/

namespace Tox4j.DhtNode

open Tox4j.Misc

variable {S : Sodium}

namespace DhtPacket

/-- What follows the kind byte. -/
def body (publicKey : PublicKey) (nonce : Nonce) (cipherText : List UInt8) : List UInt8 :=
  publicKey.bytes ++ (nonce.bytes ++ cipherText)

section

variable {α β : Type} {dht : Dht S} {f : Consume (OrError α)} {buf left plain : List UInt8}
  {publicKey : PublicKey} {nonce : Nonce} {cipherText : List UInt8} {node : ConnectedNode S}

theorem exists_body (h : 56 ≤ buf.length) :
    ∃ publicKey nonce cipherText, buf = body publicKey nonce cipherText := by
  have hkey : 32 ≤ buf.length := by omega
  obtain ⟨publicKey, rest, rfl⟩ := Reader.exists_append hkey
  have hrest : 24 ≤ rest.length := by
    simp only [List.length_append, publicKey.size] at h
    omega
  obtain ⟨nonce, cipherText, rfl⟩ := Reader.exists_append hrest
  exact ⟨publicKey, nonce, cipherText, rfl⟩

theorem length_body (publicKey : PublicKey) (nonce : Nonce) (cipherText : List UInt8) :
    (body publicKey nonce cipherText).length = 56 + cipherText.length := by
  simp only [body, List.length_append, publicKey.size, nonce.size]
  omega

theorem body_inj {publicKey' : PublicKey} {nonce' : Nonce} {cipherText' : List UInt8}
    (h : body publicKey nonce cipherText = body publicKey' nonce' cipherText') :
    publicKey = publicKey' ∧ nonce = nonce' ∧ cipherText = cipherText' := by
  obtain ⟨hkey, hrest⟩ := List.append_inj h (by rw [publicKey.size, publicKey'.size])
  obtain ⟨hnonce, hcipher⟩ := List.append_inj hrest (by rw [nonce.size, nonce'.size])
  exact ⟨Sized.ext hkey, Sized.ext hnonce, hcipher⟩

/-- A public key and a nonce do not fit. -/
theorem unpack_short (dht : Dht S) (f : Consume (OrError α)) (h : buf.length < 56) :
    unpack dht f buf = .error .iobuf := by
  rw [unpack]
  by_cases hkey : buf.length < 32
  · exact Reader.bind_error (publicKey_unpack_short hkey)
  · obtain ⟨publicKey, rest, rfl⟩ := Reader.exists_append (Nat.not_lt.mp hkey)
    have hrest : rest.length < 24 := by
      simp only [List.length_append, publicKey.size] at h
      omega
    apply (Reader.bind_ok (publicKey_unpack_append publicKey rest)).trans
    exact Reader.bind_error (nonce_unpack_short hrest)

/-- After the header, with the entry of the sender. -/
theorem unpack_body :
    unpack dht f (body publicKey nonce cipherText) =
      match dht.nodeByKey publicKey with
      | .error e => .ok (.error e, cipherText)
      | .ok node =>
        ((decrypt node.cnCkey nonce).onOk fun plain =>
          (Reader.within plain f).mapOk fun result => (node, result)) cipherText := by
  apply (Reader.bind_ok (publicKey_unpack_append publicKey _)).trans
  apply (Reader.bind_ok (nonce_unpack_append nonce cipherText)).trans
  cases dht.nodeByKey publicKey with
  | error e => rfl
  | ok node => rfl

theorem unpack_unknown (h : dht.dhtNodes[publicKey]? = none) :
    unpack dht f (body publicKey nonce cipherText) = .ok (.error .noSuchKey, cipherText) := by
  rw [unpack_body, Dht.nodeByKey, h]

theorem unpack_boxOpen (hnode : dht.dhtNodes[publicKey]? = some node)
    (hopen : S.fastBoxOpen node.cnCkey nonce cipherText = none) :
    unpack dht f (body publicKey nonce cipherText) = .ok (.error .boxOpen, []) := by
  have hdecrypt : decrypt node.cnCkey nonce cipherText = .ok (.error .boxOpen, []) := by
    rw [decrypt, Reader.bind_ok (all_eq cipherText), hopen]
    rfl
  simp only [unpack_body, Dht.nodeByKey, hnode]
  exact Reader.onOk_err hdecrypt

theorem unpack_opened (hnode : dht.dhtNodes[publicKey]? = some node)
    (hopen : S.fastBoxOpen node.cnCkey nonce cipherText = some plain) :
    unpack dht f (body publicKey nonce cipherText) =
      ((Reader.within plain f).mapOk fun result => (node, result)) [] := by
  have hdecrypt : decrypt node.cnCkey nonce cipherText = .ok (.ok plain, []) := by
    rw [decrypt, Reader.bind_ok (all_eq cipherText), hopen]
    rfl
  simp only [unpack_body, Dht.nodeByKey, hnode]
  exact Reader.onOk_ok hdecrypt

/-- A packet is accepted when its sender is known, its box opens and its fields are read. -/
theorem unpack_eq_ok {a : α} :
    unpack dht f (body publicKey nonce cipherText) = .ok (.ok (node, a), left) ↔
      dht.dhtNodes[publicKey]? = some node ∧ left = [] ∧ ∃ plain rest,
        S.fastBoxOpen node.cnCkey nonce cipherText = some plain ∧ f plain = .ok (.ok a, rest) := by
  cases hnode : dht.dhtNodes[publicKey]? with
  | none => simp [unpack_unknown hnode]
  | some entry =>
    cases hopen : S.fastBoxOpen entry.cnCkey nonce cipherText with
    | none =>
      rw [unpack_boxOpen hnode hopen]
      constructor
      · intro h
        cases h
      · rintro ⟨hentry, -, plain, rest, hplain, -⟩
        cases hentry
        rw [hopen] at hplain
        cases hplain
    | some plain =>
      rw [unpack_opened hnode hopen, Reader.mapOk_eq_ok]
      constructor
      · rintro ⟨a', hwithin, heq⟩
        cases heq
        cases hf : f plain with
        | error e =>
          rw [Reader.within_raises hf] at hwithin
          cases hwithin
        | ok result =>
          obtain ⟨value, rest⟩ := result
          rw [Reader.within_ok hf] at hwithin
          cases hwithin
          exact ⟨rfl, rfl, plain, rest, hopen, hf⟩
      · rintro ⟨hentry, rfl, plain', rest, hplain, hf⟩
        cases hentry
        rw [hopen] at hplain
        cases hplain
        exact ⟨a, Reader.within_ok hf, rfl⟩

/-- Once the header is there, only the fields in a box that opens can run short. -/
theorem safe_unpack {Q : ConnectedNode S × α → Prop} :
    (unpack dht f).Safe Q (body publicKey nonce cipherText) ↔
      ∀ node plain, dht.dhtNodes[publicKey]? = some node →
        S.fastBoxOpen node.cnCkey nonce cipherText = some plain →
          f.Safe (fun a => Q (node, a)) plain := by
  cases hnode : dht.dhtNodes[publicKey]? with
  | none => simpa using Reader.safe_of_err (unpack_unknown hnode)
  | some entry =>
    cases hopen : S.fastBoxOpen entry.cnCkey nonce cipherText with
    | none =>
      refine iff_of_true (Reader.safe_of_err (unpack_boxOpen hnode hopen)) ?_
      intro node plain hentry hplain
      cases hentry
      rw [hopen] at hplain
      cases hplain
    | some plain =>
      apply (Reader.safe_congr (unpack_opened hnode hopen)).trans
      apply (Reader.safe_mapOk.trans Reader.safe_within).trans
      constructor
      · intro hsafe node plain' hentry hplain
        cases hentry
        rw [hopen] at hplain
        cases hplain
        exact hsafe
      · intro hsafe
        exact hsafe entry plain rfl hopen

/-- What is done to the fields can be done while they are read. -/
theorem mapOk_unpack (g : α → β) :
    (unpack dht f).mapOk (fun (node, a) => (node, g a)) = unpack dht (f.mapOk g) := by
  funext buf
  by_cases hshort : buf.length < 56
  · rw [unpack_short dht (f.mapOk g) hshort]
    exact Reader.onOk_raises (unpack_short dht f hshort)
  · obtain ⟨publicKey, nonce, cipherText, rfl⟩ := exists_body (Nat.not_lt.mp hshort)
    cases hnode : dht.dhtNodes[publicKey]? with
    | none =>
      rw [unpack_unknown hnode]
      exact Reader.onOk_err (unpack_unknown hnode)
    | some node =>
      cases hopen : S.fastBoxOpen node.cnCkey nonce cipherText with
      | none =>
        rw [unpack_boxOpen hnode hopen]
        exact Reader.onOk_err (unpack_boxOpen hnode hopen)
      | some plain =>
        rw [unpack_opened hnode hopen]
        apply (Reader.mapOk_congr (unpack_opened hnode hopen)).trans
        rw [Reader.mapOk_mapOk, ← Reader.mapOk_within, Reader.mapOk_mapOk]

end

end DhtPacket

/-- The fields of a packet of a kind. -/
def Kind.unpackFields : Kind → Consume (OrError Packet)
  | .echoRequest => EchoRequest.unpackFields.mapOk .echoRequest
  | .echoResponse => EchoResponse.unpackFields.mapOk .echoResponse
  | .nodesRequest => NodesRequest.unpackFields.mapOk .nodesRequest
  | .nodesResponse => NodesResponse.unpackFields.mapOk .nodesResponse

theorem Kind.kind_of_unpackFields {kind : Kind} {packet : Packet} {plain rest : List UInt8}
    (h : kind.unpackFields plain = .ok (.ok packet, rest)) : packet.kind = kind := by
  cases kind with
  | echoRequest =>
    obtain ⟨_, -, rfl⟩ := Reader.mapOk_eq_ok.mp h
    rfl
  | echoResponse =>
    obtain ⟨_, -, rfl⟩ := Reader.mapOk_eq_ok.mp h
    rfl
  | nodesRequest =>
    obtain ⟨_, -, rfl⟩ := Reader.mapOk_eq_ok.mp h
    rfl
  | nodesResponse =>
    obtain ⟨_, -, rfl⟩ := Reader.mapOk_eq_ok.mp h
    rfl

namespace NetworkPacket

variable {dht : Dht S} {k : UInt8} {buf : List UInt8} {publicKey : PublicKey} {nonce : Nonce}
  {cipherText : List UInt8} {source : ConnectedNode S} {packet : Packet}

/-- The four packets differ in their fields only. -/
theorem unpackAndWrap_eq (dht : Dht S) (kind : Kind) :
    unpackAndWrap dht kind = DhtPacket.unpack dht kind.unpackFields := by
  cases kind with
  | echoRequest => exact DhtPacket.mapOk_unpack Packet.echoRequest
  | echoResponse => exact DhtPacket.mapOk_unpack Packet.echoResponse
  | nodesRequest => exact DhtPacket.mapOk_unpack Packet.nodesRequest
  | nodesResponse => exact DhtPacket.mapOk_unpack Packet.nodesResponse

theorem unpack_kind {kind : Kind} (h : Kind.ofByte k = some kind) :
    unpack dht (k :: buf) = DhtPacket.unpack dht kind.unpackFields buf := by
  have hkind : Kind.unpack (k :: buf) = .ok (.ok kind, buf) := by
    apply (Reader.bind_ok (uint8_cons k buf)).trans
    rw [h]
    rfl
  rw [unpack, ← unpackAndWrap_eq]
  exact Reader.onOk_ok hkind

theorem unpack_noKind (h : Kind.ofByte k = none) :
    unpack dht (k :: buf) = .ok (.error (.formatError "PacketKind"), buf) := by
  apply Reader.onOk_err
  apply (Reader.bind_ok (uint8_cons k buf)).trans
  rw [h]
  rfl

/-- The kind byte, the entry under the public key and the box decide what is accepted. -/
theorem accepts_iff :
    Accepts dht (k :: DhtPacket.body publicKey nonce cipherText) source packet ↔
      ∃ kind plain rest, Kind.ofByte k = some kind ∧ dht.dhtNodes[publicKey]? = some source ∧
        S.fastBoxOpen source.cnCkey nonce cipherText = some plain ∧
          kind.unpackFields plain = .ok (.ok packet, rest) := by
  constructor
  · rintro ⟨left, h⟩
    cases hkind : Kind.ofByte k with
    | none =>
      rw [unpack_noKind hkind] at h
      cases h
    | some kind =>
      rw [unpack_kind hkind] at h
      obtain ⟨hnode, -, plain, rest, hopen, hfields⟩ := DhtPacket.unpack_eq_ok.mp h
      exact ⟨kind, plain, rest, rfl, hnode, hopen, hfields⟩
  · rintro ⟨kind, plain, rest, hkind, hnode, hopen, hfields⟩
    refine ⟨[], ?_⟩
    rw [unpack_kind hkind]
    exact DhtPacket.unpack_eq_ok.mpr ⟨hnode, rfl, plain, rest, hopen, hfields⟩

/-- A datagram that is accepted has a kind byte and a header. -/
theorem Accepts.exists_body {datagram : List UInt8} (h : Accepts dht datagram source packet) :
    ∃ k publicKey nonce cipherText,
      datagram = k :: DhtPacket.body publicKey nonce cipherText := by
  obtain ⟨left, h⟩ := h
  cases datagram with
  | nil => cases h
  | cons k buf =>
    cases hkind : Kind.ofByte k with
    | none =>
      rw [unpack_noKind hkind] at h
      cases h
    | some kind =>
      rw [unpack_kind hkind] at h
      by_cases hshort : buf.length < 56
      · rw [DhtPacket.unpack_short dht _ hshort] at h
        cases h
      · obtain ⟨publicKey, nonce, cipherText, hbody⟩ :=
          DhtPacket.exists_body (Nat.not_lt.mp hshort)
        exact ⟨k, publicKey, nonce, cipherText, by rw [hbody]⟩

/-- The sender of a packet is an entry of the node table. -/
theorem Accepts.source_mem {datagram : List UInt8} (h : Accepts dht datagram source packet) :
    ∃ publicKey : PublicKey, dht.dhtNodes[publicKey]? = some source := by
  obtain ⟨k, publicKey, nonce, cipherText, rfl⟩ := h.exists_body
  obtain ⟨_, _, _, _, hnode, _⟩ := accepts_iff.mp h
  exact ⟨publicKey, hnode⟩

end NetworkPacket

end Tox4j.DhtNode
