import Tox4j.DhtNode.Proofs.Fields
import Tox4j.DhtNode.Proofs.Network
import Tox4j.DhtNode.XorBox

/-!
# Which datagrams a node survives

Readers raise exceptions outside of any `Or_error`, and the handler asserts the ping id of nodes
responses. `Complete` says of the bytes of a datagram that nothing is missing; it is the exact
condition for the node to survive it, in every state it can be in.
-/

namespace Tox4j.DhtNode

open Tox4j.Misc

variable {S : Sodium}

/-- The bytes start with the ping id of the requests. -/
def PingIdFollows (bytes : List UInt8) : Prop :=
  (Fill.bytesOfInt64 requestPingId).bytes <+: bytes

instance : DecidablePred PingIdFollows :=
  fun bytes => inferInstanceAs (Decidable (_ <+: bytes))

/-- The fields of a packet of the kind are there. In a nodes response these are the number of
    nodes, the nodes, and the ping id of the requests. -/
def PlainComplete : Kind → List UInt8 → Prop
  | .echoRequest, plain => 8 ≤ plain.length
  | .echoResponse, plain => 8 ≤ plain.length
  | .nodesRequest, plain => 40 ≤ plain.length
  | .nodesResponse, [] => False
  | .nodesResponse, n :: rest => NodesThen PingIdFollows n.toNat rest

/-- There is a kind byte. If it is known then so are the public key and the nonce, and if the box
    opens for a known sender then its fields are complete. -/
def Complete (dht : Dht S) : List UInt8 → Prop
  | [] => False
  | k :: body =>
    ∀ kind, Kind.ofByte k = some kind →
      56 ≤ body.length ∧
        ∀ publicKey nonce cipherText node plain,
          body = DhtPacket.body publicKey nonce cipherText →
            dht.dhtNodes[publicKey]? = some node →
              S.fastBoxOpen node.cnCkey nonce cipherText = some plain → PlainComplete kind plain

/-- The ping id of a nodes response is expected exactly if it is in the bytes. -/
theorem safe_pingId_iff (nodes : List Node) (bytes : List UInt8) :
    (unpackPingId (NodesResponse.mk nodes)).Safe
        (fun response => (Packet.nodesResponse response).Expected) bytes ↔
      PingIdFollows bytes := by
  rw [safe_unpackPingId_iff]
  constructor
  · intro h
    obtain ⟨bs, left, rfl, hexpected⟩ := h
    have hbs : bs = Fill.bytesOfInt64 requestPingId := int64OfBytes_eq_iff.mp hexpected
    rw [hbs]
    exact List.prefix_append _ left
  · intro h
    obtain ⟨left, rfl⟩ := h
    exact ⟨_, left, rfl, int64OfBytes_bytesOfInt64 requestPingId⟩

/-- Reading the fields is safe, and what is read is expected, exactly if they are complete. -/
theorem safe_unpackFields_iff (kind : Kind) (plain : List UInt8) :
    kind.unpackFields.Safe Packet.Expected plain ↔ PlainComplete kind plain := by
  cases kind with
  | echoRequest =>
    rw [echoRequest_eq, Reader.safe_mapOk]
    exact safe_unpackPingId_of_forall EchoRequest.mk fun _ => trivial
  | echoResponse =>
    rw [echoResponse_eq, Reader.safe_mapOk]
    exact safe_unpackPingId_of_forall EchoResponse.mk fun _ => trivial
  | nodesRequest =>
    rw [PlainComplete]
    by_cases hshort : plain.length < 40
    · exact iff_of_false (Reader.not_safe_of_raises (nodesRequest_short hshort)) (by omega)
    · have hkey : 32 ≤ plain.length := by omega
      obtain ⟨key, rest, rfl⟩ := Reader.exists_append hkey
      have hrest : 8 ≤ rest.length := by
        simp only [List.length_append, key.size] at hshort
        omega
      apply iff_of_true _ (Nat.not_lt.mp hshort)
      apply Reader.safe_mapOk.mpr
      apply (Reader.safe_congr (nodesRequest_append key rest)).mpr
      exact (safe_unpackPingId_of_forall (NodesRequest.mk key) fun _ => trivial).mpr hrest
  | nodesResponse =>
    cases plain with
    | nil => exact iff_of_false (Reader.not_safe_of_raises nodesResponse_nil) id
    | cons n rest =>
      apply (Reader.safe_congr (nodesResponse_cons n rest)).trans
      apply Reader.safe_mapOk.trans
      exact safe_unpackLoop_iff safe_pingId_iff [] n.toNat rest

/-- The same for a datagram. -/
theorem safe_unpack_iff (dht : Dht S) (datagram : List UInt8) :
    (NetworkPacket.unpack dht).Safe (fun handled => handled.2.Expected) datagram ↔
      Complete dht datagram := by
  cases datagram with
  | nil => exact iff_of_false (Reader.not_safe_of_raises rfl) id
  | cons k body =>
    rw [Complete]
    cases hkind : Kind.ofByte k with
    | none =>
      apply iff_of_true (Reader.safe_of_err (NetworkPacket.unpack_noKind hkind))
      intro kind h
      cases h
    | some kind =>
      rw [Reader.safe_congr (NetworkPacket.unpack_kind hkind)]
      by_cases hshort : body.length < 56
      · apply iff_of_false (Reader.not_safe_of_raises (DhtPacket.unpack_short dht _ hshort))
        intro hcomplete
        exact absurd (hcomplete kind rfl).1 (by omega)
      · have hlength := Nat.not_lt.mp hshort
        constructor
        · intro hsafe kind' hkind'
          cases hkind'
          refine ⟨hlength, ?_⟩
          rintro publicKey nonce cipherText node plain rfl hnode hopen
          rw [← safe_unpackFields_iff]
          exact DhtPacket.safe_unpack.mp hsafe node plain hnode hopen
        · intro hcomplete
          obtain ⟨publicKey, nonce, cipherText, rfl⟩ := DhtPacket.exists_body hlength
          apply DhtPacket.safe_unpack.mpr
          intro node plain hnode hopen
          apply (safe_unpackFields_iff kind plain).mpr
          exact (hcomplete kind rfl).2 publicKey nonce cipherText node plain rfl hnode hopen

namespace Network

variable {network : Network S}

/-- Surviving a datagram is reading it without an exception, as something that is expected. -/
theorem survives_iff_safe (h : network.Reachable) (datagram : List UInt8) :
    network.Survives datagram ↔
      (NetworkPacket.unpack network.dht).Safe (fun handled => handled.2.Expected) datagram := by
  rcases recvLoop_cases network datagram with
      ⟨e, hunpack, hrecv⟩ | ⟨e, rest, hunpack, hrecv⟩ | ⟨handled, rest, hunpack, hrecv⟩
  · apply iff_of_false _ (Reader.not_safe_of_raises hunpack)
    rintro ⟨⟨network', hreturns⟩, -⟩
    cases hrecv.symm.trans hreturns
  · apply iff_of_true _ (Reader.safe_of_err hunpack)
    refine ⟨⟨network, hrecv⟩, ?_⟩
    rintro source packet ⟨rest', haccepts⟩
    cases hunpack.symm.trans haccepts
  · obtain ⟨source, packet⟩ := handled
    rw [Reader.safe_of_ok hunpack]
    constructor
    · rintro ⟨-, hhandled⟩
      obtain ⟨result, hresult⟩ := hhandled source packet ⟨rest, hunpack⟩ network h
      by_contra hunexpected
      rw [handleNetworkEvent_unexpected network.dht source hunexpected] at hresult
      cases hresult
    · intro hexpected
      refine ⟨⟨_, hrecv⟩, ?_⟩
      rintro source' packet' ⟨rest', haccepts⟩ network' hreachable
      cases hunpack.symm.trans haccepts
      obtain ⟨dht', outputs, hhandle, -⟩ :=
        handleNetworkEvent_ok hreachable.keysMatch source hexpected
      exact ⟨_, hhandle⟩

/-- A datagram that the node 2 sends to the node 1. -/
def exampleDatagram (kind : UInt8) (plain : List UInt8) : List UInt8 :=
  kind :: DhtPacket.body (XorBox.publicKey 2) XorBox.nonce (XorBox.tag 3 ++ plain)

theorem complete_exampleDatagram_iff {k : UInt8} {kind : Kind} (hkind : Kind.ofByte k = some kind)
    (plain : List UInt8) :
    Complete (XorBox.network 1 2).dht (exampleDatagram k plain) ↔ PlainComplete kind plain := by
  have hnode := XorBox.network_peer 1 2
  have hopen := xorBox_unforgeable.open_box (3 : UInt8) XorBox.nonce plain
  constructor
  · intro hcomplete
    exact (hcomplete kind hkind).2 _ _ _ _ plain rfl hnode hopen
  · intro hplain kind' hkind'
    cases hkind.symm.trans hkind'
    refine ⟨by rw [DhtPacket.length_body]; omega, ?_⟩
    intro publicKey nonce cipherText node plain' hbody hnode' hopen'
    obtain ⟨rfl, rfl, rfl⟩ := DhtPacket.body_inj hbody
    cases hnode.symm.trans hnode'
    cases hopen.symm.trans hopen'
    exact hplain

/-- A node survives exactly the complete datagrams. -/
theorem datagrams_survived (h : network.Reachable) (datagram : List UInt8) :
    network.Survives datagram ↔ Complete network.dht datagram :=
  (survives_iff_safe h datagram).trans (safe_unpack_iff network.dht datagram)

/-- An echo request is survived, but not when it is marked as a nodes request on its way. -/
theorem datagrams_survived_echoRequest :
    (XorBox.network 1 2).Survives (exampleDatagram 0x00 (List.replicate 8 7)) ∧
      ¬ (XorBox.network 1 2).Survives (exampleDatagram 0x02 (List.replicate 8 7)) := by
  constructor
  · apply (datagrams_survived (XorBox.network_reachable 1 2) _).mpr
    have hkind : Kind.ofByte 0x00 = some .echoRequest := rfl
    apply (complete_exampleDatagram_iff hkind _).mpr
    rw [PlainComplete, List.length_replicate]
  · intro hsurvives
    have hcomplete := (datagrams_survived (XorBox.network_reachable 1 2) _).mp hsurvives
    have hplain := (complete_exampleDatagram_iff rfl _).mp hcomplete
    rw [PlainComplete, List.length_replicate] at hplain
    omega

/-- A datagram of one byte raises an exception in a fresh node, and a nodes response of a peer
    fails an assertion when its ping id is not the one of the requests. -/
theorem datagram_not_survived :
    ((XorBox.fresh 1).Reachable ∧ ¬ (XorBox.fresh 1).Survives [0x00]) ∧
      (XorBox.network 1 2).Reachable ∧
        ¬ (XorBox.network 1 2).Survives (exampleDatagram 0x04 (List.replicate 9 0)) := by
  refine ⟨⟨XorBox.fresh_reachable 1, ?_⟩, (XorBox.network_reachable 1 2), ?_⟩
  · rintro ⟨⟨network, hreturns⟩, -⟩
    cases hreturns
  · intro hsurvives
    have hsafe := (survives_iff_safe (XorBox.network_reachable 1 2) _).mp hsurvives
    have hcomplete := (safe_unpack_iff (XorBox.network 1 2).dht _).mp hsafe
    have hplain := (complete_exampleDatagram_iff rfl _).mp hcomplete
    exact absurd (show PingIdFollows (List.replicate 8 0) from hplain) (by decide)

/-- Every entry of the table has the key it is stored under, and every packet that waits for its
    handler is expected. -/
structure Sound (network : Network S) : Prop where
  keysMatch : network.dht.KeysMatch
  expected : ∀ handled ∈ network.recvPipe, handled.2.Expected

/-- A datagram that is received is complete. -/
def Harmless (network : Network S) : Event → Prop
  | .datagram bytes => Complete network.dht bytes
  | _ => True

theorem step_sound {event : Event} (h : network.Sound) (hevent : network.Harmless event) :
    ∃ network', network.Step event network' ∧ network'.Sound := by
  cases event with
  | datagram bytes =>
    obtain ⟨result, left, hunpack, hresult⟩ := (safe_unpack_iff network.dht bytes).mpr hevent
    rcases recvLoop_cases network bytes with
        ⟨e, herror, -⟩ | ⟨e, rest, -, hsame⟩ | ⟨handled, rest, hok, hwritten⟩
    · cases herror.symm.trans hunpack
    · exact ⟨network, hsame, h⟩
    · cases hok.symm.trans hunpack
      refine ⟨_, hwritten, h.keysMatch, ?_⟩
      intro handled' hmem
      rcases List.mem_append.mp hmem with hmem | hmem
      · exact h.expected handled' hmem
      · rw [List.mem_singleton.mp hmem]
        exact hresult handled rfl
  | handle =>
    have hhead : ∀ handled ∈ network.recvPipe.head?, handled.2.Expected :=
      fun handled hmem => h.expected handled (List.mem_of_mem_head? hmem)
    obtain ⟨network', hstep, hkeys, hpipe⟩ := eventLoop_ok h.keysMatch hhead
    refine ⟨network', hstep, hkeys, ?_⟩
    intro handled hmem
    rw [hpipe] at hmem
    exact h.expected handled (List.mem_of_mem_tail hmem)
  | bootstrap node =>
    obtain ⟨network', hstep, hkeys, hpipe⟩ := controlLoop_ok h.keysMatch node
    refine ⟨network', hstep, hkeys, ?_⟩
    rw [hpipe]
    exact h.expected

end Network

end Tox4j.DhtNode
