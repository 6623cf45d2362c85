import Tox4j.DhtNode.Proofs.AddressText
import Tox4j.DhtNode.Proofs.RoundTrip
import Tox4j.DhtNode.Proofs.Table
import Tox4j.DhtNode.Sending

/-!
# What a node sends

The node table is the last node asked with each key, and the handlers write the answers to their
causes. So everything that is ever written can be sent, and arrives where it should.
-/

namespace Tox4j.DhtNode

open Tox4j.Misc

variable {S : Sodium} {dhtSk : S.SecretKey} {dhtPk : PublicKey} {table : PublicKey → Option Node}
  {dht : Dht S}

/-! ## Handling a packet -/

namespace Dht

theorem Represents.keysMatch (h : dht.Represents dhtSk dhtPk table) : dht.KeysMatch := by
  intro key entry hentry
  have hfound : dht.nodeByKey key = .ok entry := by rw [nodeByKey, hentry]
  exact h.keys _ _ (h.nodeByKey_eq_ok_iff.mp hfound).1

/-- A node that was just added is found. -/
theorem Represents.addNode_contact (h : dht.Represents dhtSk dhtPk table) (node : Node) :
    ∃ dht', dht.addNode node = .ok dht' ∧
      dht'.Represents dhtSk dhtPk (overwrite Node.nKey table node) ∧
      dht'.nodeByKey node.nKey = .ok (node.contact dhtSk) := by
  obtain ⟨dht', hadd, h'⟩ := h.addNode node
  exact ⟨dht', hadd, h', h'.nodeByKey_eq_ok_iff.mpr ⟨overwrite_self, rfl⟩⟩

/-- What a part of the handler returns: the table with the nodes that were asked, and the answers
    as they are written. -/
structure Handles (dhtSk : S.SecretKey) (dhtPk : PublicKey) (table : PublicKey → Option Node)
    (causes : List (Cause S)) (result : Dht S × List (Output S)) : Prop where
  table : result.1.Represents dhtSk dhtPk
    ((causes.flatMap Cause.asked).foldl (overwrite Node.nKey) table)
  written : result.2.flatMap Output.written = causes.map (Cause.answer dhtSk dhtPk)

theorem Represents.handleNode (h : dht.Represents dhtSk dhtPk table) (node : Node) :
    ∃ result, DhtNode.handleNode dht node = .ok result ∧
      Handles dhtSk dhtPk table (([node].filter Node.isIpv4).map .ask) result := by
  rw [DhtNode.handleNode]
  cases haddr : node.nAddr with
  | ipv6 address =>
    have hnone : [node].filter Node.isIpv4 = [] := by simp [Node.isIpv4, haddr]
    rw [hnone]
    exact ⟨(dht, []), rfl, h, rfl⟩
  | ipv4 address =>
    have hall : [node].filter Node.isIpv4 = [node] := by simp [Node.isIpv4, haddr]
    obtain ⟨dht', hadd, h', hfind⟩ := h.addNode_contact node
    obtain ⟨dist, key, hdist, hkey⟩ :=
      PublicKey.distance_ok (wantedKey dht') (node.contact dhtSk).cnNode.nKey
    simp only [hadd, hfind, okExn, hdist, hkey, bind, Except.bind, hall]
    refine ⟨_, rfl, h', ?_⟩
    have hown : wantedKey dht' = dhtPk := h'.own
    rw [hown]
    rfl

/-- The nodes of a response. -/
theorem Represents.handleNodes (h : dht.Represents dhtSk dhtPk table) (nodes : List Node) :
    ∃ result, DhtNode.handleNodes dht nodes = .ok result ∧
      Handles dhtSk dhtPk table ((nodes.filter Node.isIpv4).map .ask) result := by
  induction nodes generalizing dht table with
  | nil => exact ⟨(dht, []), rfl, h, rfl⟩
  | cons node nodes ih =>
    obtain ⟨⟨dht₁, outputs⟩, hnode, htable, hwritten⟩ := h.handleNode node
    obtain ⟨⟨dht₂, rest⟩, hnodes, htable', hwritten'⟩ := ih htable
    have hfilter : (node :: nodes).filter Node.isIpv4 =
        [node].filter Node.isIpv4 ++ nodes.filter Node.isIpv4 :=
      List.filter_append [node] nodes
    refine ⟨(dht₂, outputs ++ rest), ?_, ?_, ?_⟩
    · simp only [DhtNode.handleNodes, hnode, hnodes, bind, Except.bind]
      rfl
    · rw [hfilter, List.map_append, List.flatMap_append, List.foldl_append]
      exact htable'
    · rw [hfilter, List.map_append, List.map_append, List.flatMap_append]
      exact congrArg₂ (· ++ ·) hwritten hwritten'

/-- Every packet, but for a response that was not expected. -/
theorem Represents.handleNetworkEvent (h : dht.Represents dhtSk dhtPk table)
    (source : ConnectedNode S) {packet : Packet} (hexpected : packet.Expected) :
    ∃ result, DhtNode.handleNetworkEvent dht source packet = .ok result ∧
      Handles dhtSk dhtPk table (packet.causes source) result := by
  cases packet with
  | echoRequest request => exact ⟨_, rfl, h, rfl⟩
  | echoResponse response => exact ⟨_, rfl, h, rfl⟩
  | nodesRequest request => exact ⟨_, rfl, h, rfl⟩
  | nodesResponse response =>
    have hpingId : response.pingId = requestPingId := hexpected
    obtain ⟨⟨dht', outputs⟩, hnodes, htable, hwritten⟩ := h.handleNodes response.nodes
    simp only [DhtNode.handleNetworkEvent, hpingId, ne_eq, not_true_eq_false, if_false, hnodes,
      bind, Except.bind]
    exact ⟨_, rfl, htable, hwritten⟩

end Dht

/-! ## A step of the loops that receive -/

/-- What a step of these loops does: the nodes it asks are added to the table, the answers to its
    causes are written, and who is new in the receive pipe was found in the table. -/
structure Network.Proceeds (dhtSk : S.SecretKey) (dhtPk : PublicKey)
    (table : PublicKey → Option Node) (network : Network S) (event : Network.Event)
    (network' : Network S) : Prop where
  table : network'.dht.Represents dhtSk dhtPk
    (((network.causes event).flatMap Cause.asked).foldl (overwrite Node.nKey) table)
  written : network'.sendPipe =
    network.sendPipe ++ (network.causes event).map (Cause.answer dhtSk dhtPk)
  received : ∀ handled ∈ network'.recvPipe, handled ∈ network.recvPipe ∨
    ∃ key : PublicKey, network.dht.dhtNodes[key]? = some handled.1

namespace Network

variable {network network' : Network S}

theorem Step.proceeds_datagram (h : network.dht.Represents dhtSk dhtPk table)
    {bytes : List UInt8} (hstep : network.Step (.datagram bytes) network') :
    Proceeds dhtSk dhtPk table network (.datagram bytes) network' := by
  have hnone : network.sendPipe =
      network.sendPipe ++ (network.causes (.datagram bytes)).map (Cause.answer dhtSk dhtPk) :=
    (List.append_nil _).symm
  rcases recvLoop_cases network bytes with
      ⟨e, -, herror⟩ | ⟨e, rest, -, hsame⟩ | ⟨⟨source, packet⟩, rest, hunpack, hreceived⟩
  · cases herror.symm.trans hstep
  · cases hsame.symm.trans hstep
    exact ⟨h, hnone, fun _ hmem => .inl hmem⟩
  · cases hreceived.symm.trans hstep
    refine ⟨h, hnone, ?_⟩
    have haccepts : NetworkPacket.Accepts network.dht bytes source packet := ⟨rest, hunpack⟩
    intro handled hmem
    rcases List.mem_append.mp hmem with hold | hnew
    · exact .inl hold
    · rw [List.mem_singleton.mp hnew]
      exact .inr haccepts.source_mem

theorem Step.proceeds_handle (h : network.dht.Represents dhtSk dhtPk table)
    (hstep : network.Step .handle network') :
    Proceeds dhtSk dhtPk table network .handle network' := by
  have hevent : network.eventLoop = .ok network' := hstep
  cases hpipe : network.recvPipe with
  | nil =>
    have hsame : network.eventLoop = .ok network := by rw [eventLoop, hpipe]
    have hcauses : network.causes .handle = [] := by rw [causes, hpipe]; rfl
    cases hsame.symm.trans hevent
    refine ⟨?_, ?_, fun _ hmem => .inl hmem⟩
    · rw [hcauses]
      exact h
    · rw [hcauses]
      exact (List.append_nil _).symm
  | cons handled recvPipe =>
    obtain ⟨source, packet⟩ := handled
    by_cases hexpected : packet.Expected
    · have hcauses : network.causes .handle = packet.causes source := by
        rw [causes, hpipe]
        rfl
      obtain ⟨⟨dht', outputs⟩, hhandle, htable, hwritten⟩ := h.handleNetworkEvent source hexpected
      simp only [eventLoop, hpipe, hhandle, bind, Except.bind] at hevent
      cases Except.ok.inj hevent
      refine ⟨?_, ?_, ?_⟩
      · rw [hcauses]
        exact htable
      · rw [hcauses, ← hwritten]
      · intro handled hmem
        exact .inl (by rw [hpipe]; exact List.mem_cons_of_mem _ hmem)
    · obtain ⟨e, herror⟩ := eventLoop_unexpected hpipe hexpected
      cases herror.symm.trans hevent

theorem Step.proceeds_bootstrap (h : network.dht.Represents dhtSk dhtPk table) {node : Node}
    (hstep : network.Step (.bootstrap node) network') :
    Proceeds dhtSk dhtPk table network (.bootstrap node) network' := by
  obtain ⟨dht', hadd, h', hfind⟩ := h.addNode_contact node
  have hcontrol : network.controlLoop node = .ok network' := hstep
  simp only [controlLoop, hadd, hfind, okExn, bind, Except.bind, h'.own] at hcontrol
  cases Except.ok.inj hcontrol
  exact ⟨h', rfl, fun _ hmem => .inl hmem⟩

theorem Step.proceeds (h : network.dht.Represents dhtSk dhtPk table) {event : Event}
    (hstep : network.Step event network') :
    Proceeds dhtSk dhtPk table network event network' := by
  cases event with
  | datagram bytes => exact proceeds_datagram h hstep
  | handle => exact proceeds_handle h hstep
  | bootstrap node => exact proceeds_bootstrap h hstep

/-- The table of a node represents something, with the keys of that node. -/
theorem Reachable.represents (h : network.Reachable) :
    ∃ table, network.dht.Represents network.dht.dhtSk network.dht.dhtPk table := by
  obtain ⟨dhtSk, dhtPk, events, hrun⟩ := h
  have hexists : ∃ table, network.dht.Represents dhtSk dhtPk table := by
    induction hrun with
    | nil => exact ⟨_, Dht.Represents.create dhtSk dhtPk⟩
    | snoc _ hstep ih =>
      obtain ⟨table, htable⟩ := ih
      exact ⟨_, (Step.proceeds htable hstep).table⟩
  obtain ⟨table, htable⟩ := hexists
  refine ⟨table, ?_⟩
  rw [htable.secret, htable.own]
  exact htable

end Network

/-! ## Sending a packet -/

/-- The entry has the key of the channel to its node, and the address of the node is printed
    unambiguously. -/
structure ConnectedNode.Addressable (dhtSk : S.SecretKey) (node : ConnectedNode S) : Prop where
  channelKey : node.cnCkey = S.precompute dhtSk node.cnNode.nKey
  printable : node.cnNode.nAddr.NoZeroDropped

theorem ConnectedNode.Addressable.sendAddress {node : ConnectedNode S}
    (h : node.Addressable dhtSk) :
    node.sendAddress = some (node.cnNode.nAddr, node.cnNode.nPort) := by
  have hread := (InetAddr.ofString_toString_iff node.cnNode.nAddr).mpr h.printable
  rw [ConnectedNode.sendAddress, hread]
  rfl

/-- An answer has no nodes in it. -/
theorem Cause.answer_noNodes (dhtSk : S.SecretKey) (dhtPk : PublicKey) (cause : Cause S) :
    (cause.answer dhtSk dhtPk).2.NoNodes := by
  cases cause with
  | echo source pingId => trivial
  | ask node => trivial

/-- The box of a packet opens at whoever has the same key for the channel. -/
theorem NetworkPacket.unpack_packed (hS : S.Opens) {receiver : Dht S} {sender : ConnectedNode S}
    {packet : Packet} (hnodes : packet.NoNodes)
    (hsender : receiver.dhtNodes[dhtPk]? = some sender) (nonce : Nonce) :
    unpack receiver (UInt8.ofNat packet.kind.toInt ::
        DhtPacket.body dhtPk nonce (S.fastBox sender.cnCkey nonce packet.plainText)) =
      .ok (.ok (sender, packet), []) := by
  rw [unpack_kind packet.kind.ofByte_toInt, DhtPacket.unpack_eq_ok]
  exact ⟨hsender, rfl, packet.plainText, [], hS.open_box _ _ _, Packet.unpackFields_self hnodes⟩

/-- The datagram is what the packet is packed into, and goes where the text of the address
    says. -/
structure Sending.Posted (dhtPk : PublicKey) (written : ConnectedNode S × Packet)
    (datagram : Datagram) : Prop where
  noNodes : written.2.NoNodes
  payload : ∃ nonce, datagram.payload = UInt8.ofNat written.2.kind.toInt ::
    DhtPacket.body dhtPk nonce (S.fastBox written.1.cnCkey nonce written.2.plainText)
  address : written.1.sendAddress = some (datagram.ip, datagram.port)

/-- Whatever has no nodes in it can be sent. -/
theorem sendPacket_ok (hS : S.Opens) (hown : dht.dhtPk = dhtPk) (node : ConnectedNode S)
    {packet : Packet} (hnodes : packet.NoNodes) (nonce : Nonce) :
    ∃ datagram, sendPacket dht nonce node packet = .ok datagram ∧
      Sending.Posted dhtPk (node, packet) datagram := by
  have hpack := NetworkPacket.pack_ok hS dht node nonce hnodes
  obtain ⟨ip, port, haddress⟩ := InetAddr.exists_sendAddress node
  rw [hown] at hpack
  simp only [sendPacket, hpack, Except.mapError, haddress, bind, Except.bind]
  exact ⟨_, rfl, hnodes, ⟨nonce, rfl⟩, haddress⟩

/-- What was sent to an addressable node arrives there. -/
theorem Sending.Posted.carries (hS : S.Opens) {written : ConnectedNode S × Packet}
    {datagram : Datagram} (h : Posted dhtPk written datagram)
    (hnode : written.1.Addressable dhtSk) : Carries dhtSk dhtPk written datagram := by
  have haddress := h.address
  rw [hnode.sendAddress, Option.some.injEq, Prod.mk.injEq] at haddress
  refine ⟨haddress.1.symm, haddress.2.symm, ?_⟩
  intro receiver sender hreachable hkey hagree hsender
  obtain ⟨table, htable⟩ := hreachable.represents
  obtain ⟨nonce, hpayload⟩ := h.payload
  have hentry : sender.cnCkey = written.1.cnCkey := by
    have hfound : receiver.dht.nodeByKey dhtPk = .ok sender := by rw [Dht.nodeByKey, hsender]
    rw [(htable.nodeByKey_eq_ok_iff.mp hfound).2, hagree, hkey, hnode.channelKey]
  have hunpack := NetworkPacket.unpack_packed hS h.noNodes hsender nonce
  rw [hentry, ← hpayload] at hunpack
  exact hunpack

/-! ## Runs -/

namespace Sending

variable {s s' : Sending S} {taken : List (ConnectedNode S × Packet)}

theorem step_loop_eq_ok {event : Network.Event} :
    s.Step (.loop event) s' ↔ ∃ network', s.network.Step event network' ∧
      s' = { s with network := network', causes := s.causes ++ s.network.causes event } := by
  simp only [Step, step, Network.Step]
  cases s.network.step event with
  | error e => simp [Except.mapError, bind, Except.bind]
  | ok network' => simp [Except.mapError, bind, Except.bind, pure, Except.pure, eq_comm]

/-- What holds along a run; `taken` is what the loop that sends has taken out of its pipe. -/
structure Told (dhtSk : S.SecretKey) (dhtPk : PublicKey) (s : Sending S)
    (taken : List (ConnectedNode S × Packet)) : Prop where
  table : s.network.dht.Represents dhtSk dhtPk
    (overwritten Node.nKey (s.causes.flatMap Cause.asked))
  pipe : taken ++ s.network.sendPipe = s.causes.map (Cause.answer dhtSk dhtPk)
  sent : List.Forall₂ (Posted dhtPk) taken s.sent

theorem told_create (dhtSk : S.SecretKey) (dhtPk : PublicKey) :
    (create dhtSk dhtPk).Told dhtSk dhtPk [] where
  table := Dht.Represents.create dhtSk dhtPk
  pipe := rfl
  sent := .nil

/-- All that was taken out of the pipe answers a cause. -/
theorem Told.exists_cause (h : s.Told dhtSk dhtPk taken) {written : ConnectedNode S × Packet}
    (hmem : written ∈ taken) : ∃ cause ∈ s.causes, cause.answer dhtSk dhtPk = written := by
  rw [← List.mem_map, ← h.pipe]
  exact List.mem_append_left _ hmem

theorem Told.step_loop (h : s.Told dhtSk dhtPk taken) {event : Network.Event}
    (hstep : s.Step (.loop event) s') : s'.Told dhtSk dhtPk taken := by
  obtain ⟨network', hnetwork, rfl⟩ := step_loop_eq_ok.mp hstep
  have hproceeds := Network.Step.proceeds h.table hnetwork
  refine ⟨?_, ?_, h.sent⟩
  · rw [overwritten, List.flatMap_append, List.foldl_append]
    exact hproceeds.table
  · rw [hproceeds.written, List.map_append, ← h.pipe, List.append_assoc]

/-- The loop that sends either waits, or sends the first packet of its pipe. -/
theorem Told.sendLoop (hS : S.Opens) (h : s.Told dhtSk dhtPk taken) (nonce : Nonce) :
    ∃ s' taken', s.sendLoop nonce = .ok s' ∧ s'.Told dhtSk dhtPk taken' := by
  cases hpipe : s.network.sendPipe with
  | nil =>
    refine ⟨s, taken, ?_, h⟩
    rw [Sending.sendLoop, hpipe]
  | cons written sendPipe =>
    obtain ⟨node, packet⟩ := written
    have hmem : (node, packet) ∈ s.causes.map (Cause.answer dhtSk dhtPk) := by
      rw [← h.pipe, hpipe]
      exact List.mem_append_right _ List.mem_cons_self
    obtain ⟨cause, hcause, hanswer⟩ := List.mem_map.mp hmem
    have hnodes := cause.answer_noNodes dhtSk dhtPk
    rw [hanswer] at hnodes
    obtain ⟨datagram, hsend, hposted⟩ := sendPacket_ok hS h.table.own node hnodes nonce
    simp only [Sending.sendLoop, hpipe, hsend, bind, Except.bind]
    refine ⟨_, taken ++ [(node, packet)], rfl, h.table, ?_, ?_⟩
    · rw [← h.pipe, hpipe, List.append_assoc]
      rfl
    · exact List.rel_append h.sent (.cons hposted .nil)

theorem Told.step (hS : S.Opens) (h : s.Told dhtSk dhtPk taken) {event : Event}
    (hstep : s.Step event s') : ∃ taken', s'.Told dhtSk dhtPk taken' := by
  cases event with
  | loop event => exact ⟨taken, h.step_loop hstep⟩
  | send nonce =>
    obtain ⟨s'', taken', hsend, h'⟩ := h.sendLoop hS nonce
    cases hsend.symm.trans hstep
    exact ⟨taken', h'⟩

/-- The loop that sends writes nothing and receives nothing. -/
theorem sendLoop_frame {nonce : Nonce} (h : s.sendLoop nonce = .ok s') :
    s'.causes = s.causes ∧ s'.network.recvPipe = s.network.recvPipe := by
  cases hpipe : s.network.sendPipe with
  | nil =>
    rw [sendLoop, hpipe] at h
    cases h
    exact ⟨rfl, rfl⟩
  | cons written sendPipe =>
    obtain ⟨node, packet⟩ := written
    cases hsend : sendPacket s.network.dht nonce node packet with
    | error e =>
      simp only [sendLoop, hpipe, hsend, bind, Except.bind] at h
      cases h
    | ok datagram =>
      simp only [sendLoop, hpipe, hsend, bind, Except.bind] at h
      cases Except.ok.inj h
      exact ⟨rfl, rfl⟩

/-- Whoever is answered, and whoever an answer will be for, can be addressed. -/
structure Addressed (dhtSk : S.SecretKey) (dhtPk : PublicKey) (s : Sending S) : Prop where
  received : ∀ handled ∈ s.network.recvPipe, handled.1.Addressable dhtSk
  causes : ∀ cause ∈ s.causes, (cause.answer dhtSk dhtPk).1.Addressable dhtSk

theorem addressed_create (dhtSk : S.SecretKey) (dhtPk : PublicKey) :
    (create dhtSk dhtPk).Addressed dhtSk dhtPk where
  received := by simp [create, Network.create]
  causes := by simp [create]

/-- An entry of the table is one of the nodes that were asked. -/
theorem Told.entry (h : s.Told dhtSk dhtPk taken) (ha : s.Addressed dhtSk dhtPk) {key : PublicKey}
    {entry : ConnectedNode S} (hentry : s.network.dht.dhtNodes[key]? = some entry) :
    entry.Addressable dhtSk := by
  have hfound : s.network.dht.nodeByKey key = .ok entry := by rw [Dht.nodeByKey, hentry]
  obtain ⟨hnode, hckey⟩ := h.table.nodeByKey_eq_ok_iff.mp hfound
  have hkey := h.table.keys _ _ hnode
  obtain ⟨before, after, hasked, -, -⟩ := overwritten_eq_some_iff.mp hnode
  have hmem : entry.cnNode ∈ s.causes.flatMap Cause.asked := by
    rw [hasked]
    exact List.mem_append_right _ List.mem_cons_self
  obtain ⟨cause, hcause, hasks⟩ := List.mem_flatMap.mp hmem
  have haddressable := ha.causes cause hcause
  cases cause with
  | echo source pingId => cases hasks
  | ask node =>
    obtain rfl := List.mem_singleton.mp hasks
    exact ⟨by rw [hckey, hkey], haddressable.printable⟩

/-- Whoever a packet goes to for one of the next causes can be addressed. -/
theorem Addressed.next_causes (h : s.Addressed dhtSk dhtPk) {event : Network.Event}
    (hevent : (Event.loop event).Printable) :
    ∀ cause ∈ s.network.causes event, (cause.answer dhtSk dhtPk).1.Addressable dhtSk := by
  intro cause hcause
  cases event with
  | datagram bytes => cases hcause
  | bootstrap node =>
    rw [List.mem_singleton.mp hcause]
    exact ⟨rfl, hevent⟩
  | handle =>
    cases hpipe : s.network.recvPipe with
    | nil =>
      rw [Network.causes, hpipe] at hcause
      cases hcause
    | cons handled recvPipe =>
      obtain ⟨source, packet⟩ := handled
      have hsource := h.received (source, packet) (by rw [hpipe]; exact List.mem_cons_self)
      have hmem : cause ∈ packet.causes source := by
        rw [Network.causes, hpipe] at hcause
        exact hcause
      cases packet with
      | echoRequest request =>
        rw [List.mem_singleton.mp hmem]
        exact hsource
      | echoResponse response => cases hmem
      | nodesRequest request => cases hmem
      | nodesResponse response =>
        obtain ⟨node, hnode, rfl⟩ := List.mem_map.mp hmem
        obtain ⟨-, hipv4⟩ := List.mem_filter.mp hnode
        refine ⟨rfl, ?_⟩
        show node.nAddr.NoZeroDropped
        -- nodes with an IPv6 address are ignored
        cases haddr : node.nAddr with
        | ipv4 address => trivial
        | ipv6 address => simp [Node.isIpv4, haddr] at hipv4

theorem Addressed.step (h : s.Addressed dhtSk dhtPk) (htold : s.Told dhtSk dhtPk taken)
    {event : Event} (hevent : event.Printable) (hstep : s.Step event s') :
    s'.Addressed dhtSk dhtPk := by
  cases event with
  | send nonce =>
    obtain ⟨hcauses, hpipe⟩ := sendLoop_frame hstep
    refine ⟨?_, ?_⟩
    · rw [hpipe]
      exact h.received
    · rw [hcauses]
      exact h.causes
  | loop event =>
    obtain ⟨network', hnetwork, rfl⟩ := step_loop_eq_ok.mp hstep
    refine ⟨?_, ?_⟩
    · intro handled hmem
      rcases (Network.Step.proceeds htold.table hnetwork).received handled hmem with hold | hnew
      · exact h.received handled hold
      · obtain ⟨key, hentry⟩ := hnew
        exact htold.entry h hentry
    · intro cause hmem
      rcases List.mem_append.mp hmem with hold | hnew
      · exact h.causes cause hold
      · exact h.next_causes hevent cause hnew

theorem run_told (hS : S.Opens) {events : List Event} (hevents : ∀ event ∈ events, event.Printable)
    (hrun : Run Step (create dhtSk dhtPk) events s) :
    ∃ taken, s.Told dhtSk dhtPk taken ∧ s.Addressed dhtSk dhtPk := by
  induction hrun with
  | nil => exact ⟨[], told_create dhtSk dhtPk, addressed_create dhtSk dhtPk⟩
  | snoc _ hstep ih =>
    obtain ⟨taken, htold, h⟩ := ih fun event hmem => hevents event (List.mem_append_left _ hmem)
    have hprintable := hevents _ (List.mem_append_right _ (List.mem_singleton_self _))
    obtain ⟨taken', htold'⟩ := htold.step hS hstep
    exact ⟨taken', htold', h.step htold hprintable hstep⟩

/-- All that was taken out of the pipe goes to nodes that can be addressed. -/
theorem Told.carries (hS : S.Opens) (h : s.Told dhtSk dhtPk taken) (ha : s.Addressed dhtSk dhtPk) :
    List.Forall₂ (Carries dhtSk dhtPk) taken s.sent := by
  have haddressable : ∀ written ∈ taken, written.1.Addressable dhtSk := by
    intro written hmem
    obtain ⟨cause, hcause, rfl⟩ := h.exists_cause hmem
    exact ha.causes cause hcause
  refine ((List.forall₂_and_left _ _).mpr ⟨haddressable, h.sent⟩).imp ?_
  intro written datagram hboth
  exact hboth.2.carries hS hboth.1

/-- An echo request of the node 2, for the node 1. -/
def exampleRequest : Datagram where
  ip := (XorBox.peer 2 1).cnNode.nAddr
  port := (XorBox.peer 2 1).cnNode.nPort
  payload := 0x00 :: DhtPacket.body (XorBox.publicKey 2) XorBox.nonce
    (XorBox.tag 3 ++ (Fill.bytesOfInt64 7).bytes)

/-- The node 1 bootstraps from the node 2, is sent an echo request, and sends both packets. -/
def exampleEvents : List Event :=
  [.loop (.bootstrap (XorBox.peer 1 2).cnNode), .loop (.datagram exampleRequest.payload),
    .loop .handle, .send XorBox.nonce, .send XorBox.nonce]

end Sending

end Tox4j.DhtNode
