import Tox4j.DhtNode.Proofs.Sending
import Tox4j.DhtNode.Proofs.Survival
import Tox4j.DhtNode.Swarm

/-!
# Nodes of this program do not answer each other

All that a node sends of its own accord is nodes requests, which no node answers. So requests are
all there ever is in a network of such nodes, and every node reads them without an exception.
-/

namespace Tox4j.DhtNode

open Tox4j.Misc

variable {S : Sodium}

/-- The datagram is a nodes request of somebody to somebody. -/
def IsRequest (S : Sodium) (bytes : List UInt8) : Prop :=
  ∃ publicKey nonce channelKey plain, plain.length = 40 ∧
    bytes = 0x02 :: DhtPacket.body publicKey nonce (S.fastBox channelKey nonce plain)

/-- Whoever can open the box finds the fields complete. -/
theorem IsRequest.complete (hO : S.Opens) (hS : S.Strips) {bytes : List UInt8}
    (h : IsRequest S bytes) (dht : Dht S) : Complete dht bytes := by
  obtain ⟨publicKey, nonce, channelKey, plain, hlength, rfl⟩ := h
  intro kind hkind
  cases hkind
  refine ⟨by rw [DhtPacket.length_body]; omega, ?_⟩
  intro publicKey' nonce' cipherText node plain' hbody hnode hopen
  obtain ⟨rfl, rfl, rfl⟩ := DhtPacket.body_inj hbody
  have hbox := hO.length_box channelKey nonce plain
  have hplain := hS.length_open _ _ _ _ hopen
  show 40 ≤ plain'.length
  omega

theorem IsRequest.kind_of_accepts {bytes : List UInt8} (h : IsRequest S bytes) {dht : Dht S}
    {source : ConnectedNode S} {packet : Packet}
    (haccepts : NetworkPacket.Accepts dht bytes source packet) : packet.kind = .nodesRequest := by
  obtain ⟨publicKey, nonce, channelKey, plain, -, rfl⟩ := h
  obtain ⟨kind, plain', rest, hkind, -, -, hfields⟩ := NetworkPacket.accepts_iff.mp haccepts
  cases hkind
  exact Kind.kind_of_unpackFields hfields

namespace Packet

theorem expected_of_kind {packet : Packet} (h : packet.kind = .nodesRequest) :
    packet.Expected := by
  cases packet with
  | nodesRequest request => trivial
  | echoRequest request => cases h
  | echoResponse response => cases h
  | nodesResponse response => cases h

theorem causes_of_kind {packet : Packet} (h : packet.kind = .nodesRequest)
    (source : ConnectedNode S) : packet.causes source = [] := by
  cases packet with
  | nodesRequest request => rfl
  | echoRequest request => cases h
  | echoResponse response => cases h
  | nodesResponse response => cases h

end Packet

namespace Sending

variable {dhtSk : S.SecretKey} {dhtPk : PublicKey} {s s' : Sending S}
  {taken : List (ConnectedNode S × Packet)} {events : List Event} {event : Event}

/-- What holds of a node that was only ever sent requests. -/
structure Quiet (dhtSk : S.SecretKey) (dhtPk : PublicKey) (events : List Event)
    (s : Sending S) : Prop where
  told : ∃ taken, s.Told dhtSk dhtPk taken
  causes : s.causes = (events.filterMap Event.bootstrap).map .ask
  received : ∀ handled ∈ s.network.recvPipe, handled.2.kind = .nodesRequest

theorem quiet_create (dhtSk : S.SecretKey) (dhtPk : PublicKey) :
    (create dhtSk dhtPk).Quiet dhtSk dhtPk [] where
  told := ⟨[], told_create dhtSk dhtPk⟩
  causes := rfl
  received := by simp [create, Network.create]

/-- All that a quiet node is told to ask is in the events, and nothing it handles makes it write. -/
theorem Quiet.next_causes (h : s.Quiet dhtSk dhtPk events) (event : Network.Event) :
    s.network.causes event = ([Event.loop event].filterMap Event.bootstrap).map .ask := by
  cases event with
  | datagram bytes => rfl
  | bootstrap node => rfl
  | handle =>
    cases hpipe : s.network.recvPipe with
    | nil =>
      rw [Network.causes, hpipe]
      rfl
    | cons handled recvPipe =>
      have hkind := h.received handled (by rw [hpipe]; exact List.mem_cons_self)
      rw [Network.causes, hpipe]
      exact Packet.causes_of_kind hkind handled.1

theorem Quiet.next_received (h : s.Quiet dhtSk dhtPk events) {event : Network.Event}
    {network' : Network S}
    (hinput : ∀ bytes, (Event.loop event).payload = some bytes → IsRequest S bytes)
    (hstep : s.network.Step event network') :
    ∀ handled ∈ network'.recvPipe, handled.2.kind = .nodesRequest := by
  obtain ⟨taken, htold⟩ := h.told
  cases event with
  | datagram bytes =>
    rcases Network.recvLoop_cases s.network bytes with
        ⟨e, -, herror⟩ | ⟨e, rest, -, hsame⟩ | ⟨⟨source, packet⟩, rest, hunpack, hreceived⟩
    · cases herror.symm.trans hstep
    · cases hsame.symm.trans hstep
      exact h.received
    · cases hreceived.symm.trans hstep
      intro handled hmem
      rcases List.mem_append.mp hmem with hold | hnew
      · exact h.received handled hold
      · rw [List.mem_singleton.mp hnew]
        exact (hinput bytes rfl).kind_of_accepts ⟨rest, hunpack⟩
  | handle =>
    have hkeys := htold.table.keysMatch
    have hhead : ∀ handled ∈ s.network.recvPipe.head?, handled.2.Expected :=
      fun handled hmem => Packet.expected_of_kind (h.received handled (List.mem_of_mem_head? hmem))
    obtain ⟨network'', hevent, -, hpipe⟩ := Network.eventLoop_ok hkeys hhead
    cases hevent.symm.trans hstep
    intro handled hmem
    rw [hpipe] at hmem
    exact h.received handled (List.mem_of_mem_tail hmem)
  | bootstrap node =>
    obtain ⟨network'', hcontrol, -, hpipe⟩ := Network.controlLoop_ok htold.table.keysMatch node
    cases hcontrol.symm.trans hstep
    rw [hpipe]
    exact h.received

/-- Requests keep a node quiet. -/
theorem Quiet.step (hS : S.Opens) (h : s.Quiet dhtSk dhtPk events)
    (hinput : ∀ bytes, event.payload = some bytes → IsRequest S bytes) (hstep : s.Step event s') :
    s'.Quiet dhtSk dhtPk (events ++ [event]) := by
  obtain ⟨taken, htold⟩ := h.told
  have htold' := htold.step hS hstep
  cases event with
  | send nonce =>
    obtain ⟨hcauses, hpipe⟩ := sendLoop_frame hstep
    refine ⟨htold', ?_, ?_⟩
    · rw [hcauses, h.causes, List.filterMap_append]
      exact congrArg _ (List.append_nil _).symm
    · rw [hpipe]
      exact h.received
  | loop event =>
    obtain ⟨network', hnetwork, rfl⟩ := step_loop_eq_ok.mp hstep
    refine ⟨htold', ?_, h.next_received hinput hnetwork⟩
    rw [h.causes, h.next_causes, List.filterMap_append, List.map_append]

theorem exists_of_mem_right {α β : Type} {R : α → β → Prop} {as : List α} {bs : List β}
    (h : List.Forall₂ R as bs) {b : β} (hb : b ∈ bs) : ∃ a ∈ as, R a b := by
  induction h with
  | nil => cases hb
  | cons hab _ ih =>
    rcases List.mem_cons.mp hb with rfl | hb
    · exact ⟨_, List.mem_cons_self, hab⟩
    · obtain ⟨a, ha, hrel⟩ := ih hb
      exact ⟨a, List.mem_cons_of_mem _ ha, hrel⟩

/-- A quiet node sends requests only. -/
theorem Quiet.sent (h : s.Quiet dhtSk dhtPk events) :
    ∀ bytes ∈ s.sent.map Datagram.payload, IsRequest S bytes := by
  obtain ⟨taken, htold⟩ := h.told
  intro bytes hmem
  obtain ⟨datagram, hdatagram, rfl⟩ := List.mem_map.mp hmem
  obtain ⟨written, hwritten, hposted⟩ := exists_of_mem_right htold.sent hdatagram
  obtain ⟨cause, hcause, rfl⟩ := htold.exists_cause hwritten
  rw [h.causes] at hcause
  obtain ⟨node, -, rfl⟩ := List.mem_map.mp hcause
  obtain ⟨nonce, hpayload⟩ := hposted.payload
  exact ⟨dhtPk, nonce, _, _, Packet.plainText_length _, hpayload⟩

/-- No request makes a quiet node raise an exception. -/
theorem Quiet.survives (hO : S.Opens) (hS : S.Strips) (h : s.Quiet dhtSk dhtPk events)
    (hinput : ∀ bytes, event.payload = some bytes → IsRequest S bytes) :
    ∃ s', s.Step event s' := by
  obtain ⟨taken, htold⟩ := h.told
  cases event with
  | send nonce =>
    obtain ⟨s', taken', hsend, -⟩ := htold.sendLoop hO nonce
    exact ⟨s', hsend⟩
  | loop event =>
    have hsound : s.network.Sound :=
      ⟨htold.table.keysMatch, fun handled hmem => Packet.expected_of_kind (h.received handled hmem)⟩
    have hharmless : s.network.Harmless event := by
      cases event with
      | datagram bytes => exact (hinput bytes rfl).complete hO hS s.network.dht
      | handle => trivial
      | bootstrap node => trivial
    obtain ⟨network', hstep, -⟩ := Network.step_sound hsound hharmless
    exact ⟨_, step_loop_eq_ok.mpr ⟨network', hstep, rfl⟩⟩

theorem flatMap_asked_map_ask (nodes : List Node) :
    (nodes.map (Cause.ask (S := S))).flatMap Cause.asked = nodes := by
  induction nodes with
  | nil => rfl
  | cons node nodes ih => exact congrArg (node :: ·) ih

theorem Quiet.secluded (h : s.Quiet dhtSk dhtPk events) :
    Secluded dhtSk dhtPk (events.filterMap Event.bootstrap) s := by
  obtain ⟨taken, htold⟩ := h.told
  have htable := htold.table
  have hpipe := htold.pipe
  rw [h.causes, flatMap_asked_map_ask] at htable
  rw [h.causes, List.map_map] at hpipe
  obtain ⟨dht, hadd, hdht⟩ :=
    (Dht.Represents.create dhtSk dhtPk).foldlM (events.filterMap Event.bootstrap)
  refine ⟨?_, ⟨taken, htold.sent.length_eq, hpipe⟩, h.received⟩
  rw [hadd, hdht.unique htable]

end Sending

section

variable {ι : Type} [DecidableEq ι] {dhtSk : ι → S.SecretKey} {dhtPk : ι → PublicKey}
  {labels : List (ι × Sending.Event)} {nodes : ι → Sending S}

end

theorem xorBox_strips : xorBox.Strips where
  length_open key nonce cipherText plain h := by
    simp only [xorBox] at h
    split at h
    · next htag =>
      cases h
      have htagged : (XorBox.tag key).length = 16 := List.length_replicate
      rw [← htag, List.length_take] at htagged
      rw [List.length_drop]
      omega
    · cases h

namespace XorBox

/-- The secret keys. -/
def pairKey : Bool → UInt8
  | false => 1
  | true => 2

def pair (a b : Sending xorBox) : Bool → Sending xorBox
  | false => a
  | true => b

theorem pair_start :
    pair (Sending.create (1 : UInt8) (publicKey 1)) (Sending.create (2 : UInt8) (publicKey 2)) =
      fun i => Sending.create (S := xorBox) (pairKey i) (publicKey (pairKey i)) := by
  funext i
  cases i with
  | false => rfl
  | true => rfl

theorem pair_step_false {a b a' : Sending xorBox} {event : Sending.Event}
    (hgenuine : (nodeParty xorBox).Genuine (pair a b) event) (hstep : a.Step event a') :
    (nodeParty xorBox).Step (pair a b) (false, event) (pair a' b) := by
  refine ⟨hgenuine, hstep, ?_⟩
  intro i hi
  cases i with
  | false => exact absurd rfl hi
  | true => rfl

theorem pair_step_true {a b b' : Sending xorBox} {event : Sending.Event}
    (hgenuine : (nodeParty xorBox).Genuine (pair a b) event) (hstep : b.Step event b') :
    (nodeParty xorBox).Step (pair a b) (true, event) (pair a b') := by
  refine ⟨hgenuine, hstep, ?_⟩
  intro i hi
  cases i with
  | false => rfl
  | true => exact absurd rfl hi

/-- A node that has bootstrapped from another one and has not sent the request yet. -/
def asking (own other : UInt8) : Sending xorBox where
  network := network own other
  causes := [.ask (peer own other).cnNode]

def request (own : UInt8) : Packet := .nodesRequest ⟨publicKey own, requestPingId⟩

def requestTo (own other : UInt8) : Datagram where
  ip := (peer own other).cnNode.nAddr
  port := (peer own other).cnNode.nPort
  payload := UInt8.ofNat (request own).kind.toInt :: DhtPacket.body (publicKey own) nonce
    (xorBox.fastBox (peer other own).cnCkey nonce (request own).plainText)

theorem asking_step (own other : UInt8) :
    (Sending.create own (publicKey own) : Sending xorBox).Step
      (.loop (.bootstrap (peer own other).cnNode)) (asking own other) :=
  Sending.step_loop_eq_ok.mpr ⟨network own other, network_step own other, rfl⟩

end XorBox

end Tox4j.DhtNode
