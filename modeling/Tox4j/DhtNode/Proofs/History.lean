import Tox4j.DhtNode.History
import Tox4j.DhtNode.Proofs.Authenticity

/-!
# No node is lost

Both loops read the table, add to it and write it back within one step, and write the request for
a node in the same step. `Adds` says so for any part of a step; parts that follow each other
compose.
-/

namespace Tox4j.DhtNode

open Tox4j.Misc

variable {S : Sodium}

/-- An entry has the channel key for its node. -/
def ConnectedNode.Keyed (dhtSk : S.SecretKey) (node : ConnectedNode S) : Prop :=
  node.cnCkey = S.precompute dhtSk node.cnNode.nKey

/-- A table with these keys, whose entries have the key they are stored under and the channel key
    for it. -/
structure Dht.Keyed (dhtSk : S.SecretKey) (dhtPk : PublicKey) (dht : Dht S) : Prop where
  secret : dht.dhtSk = dhtSk
  own : dht.dhtPk = dhtPk
  keys : dht.KeysMatch
  channelKeys : ∀ (key : PublicKey) (node : ConnectedNode S),
    dht.dhtNodes[key]? = some node → node.Keyed dhtSk

/-- From `dht`, adding the nodes leads to `dht'`; a request was written for every new key, and all
    that was written has the right channel key. -/
structure Adds (dhtSk : S.SecretKey) (dhtPk : PublicKey) (dht : Dht S) (nodes : List Node)
    (dht' : Dht S) (written : List (ConnectedNode S × Packet)) : Prop where
  added : nodes.foldlM Dht.addNode dht = .ok dht'
  keyed : dht'.Keyed dhtSk dhtPk
  requested : ∀ (key : PublicKey) (node : ConnectedNode S), dht'.dhtNodes[key]? = some node →
    (∃ old, dht.dhtNodes[key]? = some old) ∨
      ∃ target, (target, History.request dhtPk) ∈ written ∧ target.cnNode.nKey = key
  channelKeys : ∀ w ∈ written, w.1.Keyed dhtSk

section

variable {dhtSk : S.SecretKey} {dhtPk : PublicKey} {dht dht' dht'' : Dht S}
  {nodes nodes' : List Node} {written written' : List (ConnectedNode S × Packet)}

/-- A part of a step that leaves the table alone. -/
theorem Dht.Keyed.adds_nil (h : dht.Keyed dhtSk dhtPk)
    (hwritten : ∀ w ∈ written, w.1.Keyed dhtSk) :
    Adds dhtSk dhtPk dht [] dht written where
  added := rfl
  keyed := h
  requested _ node hnode := .inl ⟨node, hnode⟩
  channelKeys := hwritten

theorem Adds.append (h : Adds dhtSk dhtPk dht nodes dht' written)
    (h' : Adds dhtSk dhtPk dht' nodes' dht'' written') :
    Adds dhtSk dhtPk dht (nodes ++ nodes') dht'' (written ++ written') where
  added := by
    rw [List.foldlM_append, h.added]
    exact h'.added
  keyed := h'.keyed
  requested key node hnode := by
    rcases h'.requested key node hnode with hold | hnew
    · obtain ⟨old, hold⟩ := hold
      rcases h.requested key old hold with holder | hnew
      · exact .inl holder
      · obtain ⟨target, hmem, hkey⟩ := hnew
        exact .inr ⟨target, List.mem_append_left _ hmem, hkey⟩
    · obtain ⟨target, hmem, hkey⟩ := hnew
      exact .inr ⟨target, List.mem_append_right _ hmem, hkey⟩
  channelKeys w hw := by
    rcases List.mem_append.mp hw with hw | hw
    · exact h.channelKeys w hw
    · exact h'.channelKeys w hw

theorem Dht.Keyed.addDhtNode (h : dht.Keyed dhtSk dhtPk) {dhtNode : ConnectedNode S}
    (hnode : dhtNode.Keyed dhtSk) : (dht.addDhtNode dhtNode).Keyed dhtSk dhtPk where
  secret := h.secret
  own := h.own
  keys := Dht.addDhtNode_keysMatch dhtNode h.keys
  channelKeys key node hfind := by
    simp only [Dht.addDhtNode, Std.ExtTreeMap.getElem?_insert] at hfind
    split at hfind
    · cases hfind
      exact hnode
    · exact h.channelKeys key node hfind

/-- A node that is found after it was added, and is sent a request. -/
structure Added (dhtSk : S.SecretKey) (dhtPk : PublicKey) (dht : Dht S) (node : Node)
    (dht' : Dht S) (dhtNode : ConnectedNode S) : Prop where
  added : dht.addNode node = .ok dht'
  found : dht'.nodeByKey node.nKey = .ok dhtNode
  adds : Adds dhtSk dhtPk dht [node] dht' [(dhtNode, History.request dhtPk)]

theorem adds_singleton {node : Node} {dhtNode : ConnectedNode S}
    (hadd : dht.addNode node = .ok dht') (hkeyed : dht'.Keyed dhtSk dhtPk)
    (hnode : dhtNode.Keyed dhtSk) (hkey : dhtNode.cnNode.nKey = node.nKey)
    (hother : ∀ key, key ≠ node.nKey → dht'.dhtNodes[key]? = dht.dhtNodes[key]?) :
    Adds dhtSk dhtPk dht [node] dht' [(dhtNode, History.request dhtPk)] where
  added := by
    rw [List.foldlM_cons, hadd]
    rfl
  keyed := hkeyed
  requested key entry hentry := by
    by_cases heq : key = node.nKey
    · exact .inr ⟨dhtNode, List.mem_singleton_self _, hkey.trans heq.symm⟩
    · exact .inl ⟨entry, (hother key heq).symm.trans hentry⟩
  channelKeys w hw := by
    rw [List.mem_singleton.mp hw]
    exact hnode

/-- A new entry for the node. -/
theorem Dht.Keyed.added_addDhtNode (h : dht.Keyed dhtSk dhtPk) {dhtNode : ConnectedNode S}
    (hnode : dhtNode.Keyed dhtSk)
    (hadd : dht.addNode dhtNode.cnNode = .ok (dht.addDhtNode dhtNode)) :
    Added dhtSk dhtPk dht dhtNode.cnNode (dht.addDhtNode dhtNode) dhtNode where
  added := hadd
  found := by rw [Dht.nodeByKey, Dht.addDhtNode_self]
  adds := by
    refine adds_singleton hadd (h.addDhtNode hnode) hnode rfl ?_
    intro key hne
    simp only [Dht.addDhtNode, Std.ExtTreeMap.getElem?_insert, Std.LawfulEqCmp.compare_eq_iff_eq]
    exact if_neg (Ne.symm hne)

/-- Both when the node is new and when it is known, with this address or another one. -/
theorem Dht.Keyed.addNode (h : dht.Keyed dhtSk dhtPk) (node : Node) :
    ∃ dht' dhtNode, Added dhtSk dhtPk dht node dht' dhtNode := by
  cases hfind : dht.dhtNodes[node.nKey]? with
  | none =>
    have hnode : ConnectedNode.Keyed dhtSk
        ({ cnNode := node, cnCkey := S.precompute dht.dhtSk node.nKey } : ConnectedNode S) := by
      rw [h.secret]
      rfl
    refine ⟨_, _, h.added_addDhtNode hnode ?_⟩
    rw [Dht.addNode, hfind]
  | some dhtNode =>
    have hkey := h.keys node.nKey dhtNode hfind
    have hkeyed := h.channelKeys node.nKey dhtNode hfind
    by_cases hsame : dhtNode.cnNode = node
    · have hadd : dht.addNode node = .ok dht := by
        simp only [Dht.addNode, hfind, hsame, ne_eq, not_true_eq_false, if_false, if_true]
      refine ⟨dht, dhtNode, hadd, ?_, adds_singleton hadd h hkeyed hkey fun _ _ => rfl⟩
      rw [Dht.nodeByKey, hfind]
    · have hnode : ConnectedNode.Keyed dhtSk { dhtNode with cnNode := node } := by
        rw [ConnectedNode.Keyed, hkeyed, hkey]
      refine ⟨_, _, h.added_addDhtNode hnode ?_⟩
      simp only [Dht.addNode, hfind, hkey, hsame, ne_eq, not_true_eq_false, if_false]

theorem Dht.Keyed.handleNode (h : dht.Keyed dhtSk dhtPk) (node : Node) :
    ∃ dht' outputs, DhtNode.handleNode dht node = .ok (dht', outputs) ∧
      Adds dhtSk dhtPk dht ([node].filter Node.isIpv4) dht' (outputs.flatMap Output.written) := by
  rw [DhtNode.handleNode]
  cases haddr : node.nAddr with
  | ipv6 address =>
    have hnone : [node].filter Node.isIpv4 = [] := by simp [Node.isIpv4, haddr]
    rw [hnone]
    exact ⟨dht, [], rfl, h.adds_nil (by simp)⟩
  | ipv4 address =>
    have hall : [node].filter Node.isIpv4 = [node] := by simp [Node.isIpv4, haddr]
    obtain ⟨dht', dhtNode, hadded⟩ := h.addNode node
    obtain ⟨dist, key, hdist, hkey⟩ :=
      PublicKey.distance_ok (wantedKey dht') dhtNode.cnNode.nKey
    simp only [hadded.added, hadded.found, okExn, hdist, hkey, bind, Except.bind, hall]
    refine ⟨dht', _, rfl, ?_⟩
    have hown : wantedKey dht' = dhtPk := hadded.adds.keyed.own
    rw [hown]
    exact hadded.adds

/-- The nodes of a response. -/
theorem Dht.Keyed.handleNodes (h : dht.Keyed dhtSk dhtPk) (nodes : List Node) :
    ∃ dht' outputs, DhtNode.handleNodes dht nodes = .ok (dht', outputs) ∧
      Adds dhtSk dhtPk dht (nodes.filter Node.isIpv4) dht' (outputs.flatMap Output.written) := by
  induction nodes generalizing dht with
  | nil => exact ⟨dht, [], rfl, h.adds_nil (by simp)⟩
  | cons node nodes ih =>
    obtain ⟨dht₁, outputs, hnode, hadds₁⟩ := h.handleNode node
    obtain ⟨dht₂, rest, hnodes, hadds₂⟩ := ih hadds₁.keyed
    refine ⟨dht₂, outputs ++ rest, ?_, ?_⟩
    · simp only [DhtNode.handleNodes, hnode, hnodes, bind, Except.bind]
      rfl
    · have hfilter : (node :: nodes).filter Node.isIpv4 =
          [node].filter Node.isIpv4 ++ nodes.filter Node.isIpv4 :=
        List.filter_append [node] nodes
      rw [hfilter, List.flatMap_append]
      exact hadds₁.append hadds₂

/-- Handling a packet, unless that raises an exception. -/
theorem Dht.Keyed.handleNetworkEvent (h : dht.Keyed dhtSk dhtPk) {source : ConnectedNode S}
    (hsource : source.Keyed dhtSk) {packet : Packet} {outputs : List (Output S)}
    (hhandle : DhtNode.handleNetworkEvent dht source packet = .ok (dht', outputs)) :
    Adds dhtSk dhtPk dht packet.ipv4Nodes dht' (outputs.flatMap Output.written) := by
  cases packet with
  | echoRequest request =>
    cases hhandle
    refine h.adds_nil ?_
    intro w hw
    rw [List.mem_singleton.mp hw]
    exact hsource
  | echoResponse response =>
    cases hhandle
    exact h.adds_nil (by simp [Output.written])
  | nodesRequest request =>
    cases hhandle
    exact h.adds_nil (by simp [Output.written])
  | nodesResponse response =>
    by_cases hexpected : (Packet.nodesResponse response).Expected
    · have hpingId : response.pingId = requestPingId := hexpected
      obtain ⟨dht₁, rest, hnodes, hadds⟩ := h.handleNodes response.nodes
      simp only [DhtNode.handleNetworkEvent, hpingId, ne_eq, not_true_eq_false, if_false, hnodes,
        bind, Except.bind] at hhandle
      cases hhandle
      exact hadds
    · rw [handleNetworkEvent_unexpected dht source hexpected] at hhandle
      cases hhandle

end

namespace History

variable {dhtSk : S.SecretKey} {dhtPk : PublicKey} {h h' : History S} {event : Network.Event}

/-- All that was done so far, seen as one addition to the empty table, and who is waiting in the
    receive pipe. -/
structure Ok (dhtSk : S.SecretKey) (dhtPk : PublicKey) (h : History S) : Prop where
  adds : Adds dhtSk dhtPk (Dht.create dhtSk dhtPk) h.processed h.network.dht h.network.sendPipe
  sources : ∀ handled ∈ h.network.recvPipe, handled.1.Keyed dhtSk

theorem ok_create (dhtSk : S.SecretKey) (dhtPk : PublicKey) :
    (create dhtSk dhtPk : History S).Ok dhtSk dhtPk where
  adds := by
    have hempty : (Dht.create dhtSk dhtPk : Dht S).Keyed dhtSk dhtPk :=
      ⟨rfl, rfl, Network.create_keysMatch dhtSk dhtPk, by simp [Dht.create]⟩
    exact hempty.adds_nil (by simp [create, Network.create])
  sources := by simp [create, Network.create]

/-- What a part of a step adds, with what was there before. -/
theorem Ok.step_of_adds (hok : h.Ok dhtSk dhtPk) (written : List (ConnectedNode S × Packet))
    (hprocessed : h'.processed = h.processed ++ h.network.processed event)
    (hadds : Adds dhtSk dhtPk h.network.dht (h.network.processed event) h'.network.dht written)
    (hsend : h'.network.sendPipe = h.network.sendPipe ++ written)
    (hsources : ∀ handled ∈ h'.network.recvPipe, handled.1.Keyed dhtSk) : h'.Ok dhtSk dhtPk where
  adds := by
    rw [hprocessed, hsend]
    exact hok.adds.append hadds
  sources := hsources

theorem Ok.step_datagram (hok : h.Ok dhtSk dhtPk) {bytes : List UInt8}
    (hstep : h.Step (.datagram bytes) h') : h'.Ok dhtSk dhtPk := by
  have hkeyed := hok.adds.keyed
  obtain ⟨hnetwork, hprocessed⟩ := hstep
  have hnone : Adds dhtSk dhtPk h.network.dht [] h.network.dht [] := hkeyed.adds_nil (by simp)
  rcases Network.recvLoop_cases h.network bytes with
      ⟨e, -, herror⟩ | ⟨e, rest, -, hsame⟩ | ⟨handled, rest, hunpack, hwritten⟩
  · cases herror.symm.trans hnetwork
  · have heq : h.network = h'.network := Except.ok.inj (hsame.symm.trans hnetwork)
    refine hok.step_of_adds [] hprocessed ?_ ?_ ?_
    · rw [← heq]
      exact hnone
    · rw [← heq, List.append_nil]
    · rw [← heq]
      exact hok.sources
  · have heq := Except.ok.inj (hwritten.symm.trans hnetwork)
    refine hok.step_of_adds [] hprocessed ?_ ?_ ?_
    · rw [← heq]
      exact hnone
    · rw [← heq, List.append_nil]
    · rw [← heq]
      intro handled' hmem
      rcases List.mem_append.mp hmem with hold | hnew
      · exact hok.sources handled' hold
      · obtain ⟨source, packet⟩ := handled
        have haccepts : NetworkPacket.Accepts h.network.dht bytes source packet := ⟨rest, hunpack⟩
        obtain ⟨key, hfind⟩ := haccepts.source_mem
        rw [List.mem_singleton.mp hnew]
        exact hkeyed.channelKeys key source hfind

theorem Ok.step_handle (hok : h.Ok dhtSk dhtPk) (hstep : h.Step .handle h') :
    h'.Ok dhtSk dhtPk := by
  have hkeyed := hok.adds.keyed
  obtain ⟨hnetwork, hprocessed⟩ := hstep
  cases hpipe : h.network.recvPipe with
  | nil =>
    have hsame : h.network.eventLoop = .ok h.network := by rw [Network.eventLoop, hpipe]
    have heq : h.network = h'.network := Except.ok.inj (hsame.symm.trans hnetwork)
    refine hok.step_of_adds [] hprocessed ?_ ?_ ?_
    · rw [← heq, Network.processed, hpipe]
      exact hkeyed.adds_nil (by simp)
    · rw [← heq, List.append_nil]
    · rw [← heq]
      exact hok.sources
  | cons handled recvPipe =>
    obtain ⟨source, packet⟩ := handled
    have hsource : source.Keyed dhtSk := hok.sources (source, packet) (by rw [hpipe]; simp)
    have hevent : h.network.eventLoop = .ok h'.network := hnetwork
    cases hhandle : handleNetworkEvent h.network.dht source packet with
    | error e =>
      simp only [Network.eventLoop, hpipe, hhandle, bind, Except.bind] at hevent
      cases hevent
    | ok result =>
      obtain ⟨dht', outputs⟩ := result
      simp only [Network.eventLoop, hpipe, hhandle, bind, Except.bind] at hevent
      have heq := Except.ok.inj hevent
      refine hok.step_of_adds (outputs.flatMap Output.written) hprocessed ?_ ?_ ?_
      · rw [← heq, Network.processed, hpipe]
        exact hkeyed.handleNetworkEvent hsource hhandle
      · rw [← heq]
      · rw [← heq]
        intro handled hmem
        exact hok.sources handled (by rw [hpipe]; exact List.mem_cons_of_mem _ hmem)

theorem Ok.step_bootstrap (hok : h.Ok dhtSk dhtPk) {node : Node}
    (hstep : h.Step (.bootstrap node) h') : h'.Ok dhtSk dhtPk := by
  obtain ⟨hnetwork, hprocessed⟩ := hstep
  obtain ⟨dht', dhtNode, hadded⟩ := hok.adds.keyed.addNode node
  have hcontrol : h.network.controlLoop node = .ok h'.network := hnetwork
  simp only [Network.controlLoop, hadded.added, hadded.found, okExn, bind, Except.bind] at hcontrol
  have heq := Except.ok.inj hcontrol
  refine hok.step_of_adds [(dhtNode, request dhtPk)] hprocessed ?_ ?_ ?_
  · rw [← heq]
    exact hadded.adds
  · rw [← heq, ← hadded.adds.keyed.own]
    rfl
  · rw [← heq]
    exact hok.sources

theorem Ok.step (hok : h.Ok dhtSk dhtPk) (hstep : h.Step event h') : h'.Ok dhtSk dhtPk := by
  cases event with
  | datagram bytes => exact hok.step_datagram hstep
  | handle => exact hok.step_handle hstep
  | bootstrap node => exact hok.step_bootstrap hstep

/-- In every state of a run, all processed nodes are in the table, all nodes of the table were sent
    a request, and all packets have the channel key of the node they go to. -/
theorem bookkept {events : List Network.Event} (hrun : Run Step (create dhtSk dhtPk) events h) :
    h.Bookkept dhtSk dhtPk := by
  have hok : h.Ok dhtSk dhtPk :=
    hrun.invariant (ok_create dhtSk dhtPk) fun _ _ _ hok hstep => hok.step hstep
  refine ⟨?_, hok.adds.added, hok.adds.channelKeys⟩
  intro key node hnode
  rcases hok.adds.requested key node hnode with hold | hnew
  · obtain ⟨old, hold⟩ := hold
    simp [Dht.create] at hold
  · exact hnew

/-- The node 1 bootstraps from the node 2. -/
theorem bookkept_bootstrap :
    Bookkept (S := xorBox) (1 : UInt8) (XorBox.publicKey 1)
      ⟨XorBox.network 1 2, [(XorBox.peer 1 2).cnNode]⟩ := by
  have hstep : Step ⟨XorBox.fresh 1, []⟩ (.bootstrap (XorBox.peer 1 2).cnNode)
      ⟨XorBox.network 1 2, [(XorBox.peer 1 2).cnNode]⟩ := ⟨XorBox.network_step 1 2, rfl⟩
  exact bookkept (.single hstep)

end History

end Tox4j.DhtNode
