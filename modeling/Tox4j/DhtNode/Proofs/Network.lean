import Tox4j.DhtNode.Network
import Tox4j.DhtNode.Proofs.Main

/-!
# What the loops of a node can do

`recv_loop` adds an accepted packet to a pipe and changes nothing else, `event_loop` and
`control_loop` change the node table only by adding nodes to it. In every reachable state the
entries of the table therefore have the keys they are stored under.
-/

namespace Tox4j.DhtNode

open Tox4j.Misc

variable {S : Sodium}

namespace Network

variable {network network' : Network S}

theorem create_keysMatch (dhtSk : S.SecretKey) (dhtPk : PublicKey) :
    (Dht.create dhtSk dhtPk).KeysMatch := by
  intro key node h
  simp [Dht.create] at h

/-- Receiving raises what reading raises; otherwise an accepted packet waits for its handler. -/
theorem recvLoop_cases (network : Network S) (datagram : List UInt8) :
    (∃ e, NetworkPacket.unpack network.dht datagram = .error e ∧
        network.recvLoop datagram = .error e) ∨
      (∃ e rest, NetworkPacket.unpack network.dht datagram = .ok (.error e, rest) ∧
        network.recvLoop datagram = .ok network) ∨
      ∃ handled rest, NetworkPacket.unpack network.dht datagram = .ok (.ok handled, rest) ∧
        network.recvLoop datagram =
          .ok { network with recvPipe := network.recvPipe ++ [handled] } := by
  cases hunpack : NetworkPacket.unpack network.dht datagram with
  | error e =>
    refine .inl ⟨e, rfl, ?_⟩
    simp only [recvLoop, hunpack, bind, Except.bind]
  | ok result =>
    obtain ⟨e | handled, rest⟩ := result
    · refine .inr (.inl ⟨e, rest, rfl, ?_⟩)
      simp only [recvLoop, hunpack, bind, Except.bind]
      rfl
    · refine .inr (.inr ⟨handled, rest, rfl, ?_⟩)
      simp only [recvLoop, hunpack, bind, Except.bind]
      rfl

theorem controlLoop_ok (h : network.dht.KeysMatch) (node : Node) :
    ∃ network', network.controlLoop node = .ok network' ∧ network'.dht.KeysMatch ∧
      network'.recvPipe = network.recvPipe := by
  obtain ⟨dht', dhtNode, hadd, hkeys, hfind⟩ := Dht.addNode_ok h node
  simp only [controlLoop, hadd, hfind, okExn, bind, Except.bind]
  exact ⟨_, rfl, hkeys, rfl⟩

theorem eventLoop_ok (h : network.dht.KeysMatch)
    (hexpected : ∀ handled ∈ network.recvPipe.head?, handled.2.Expected) :
    ∃ network', network.eventLoop = .ok network' ∧ network'.dht.KeysMatch ∧
      network'.recvPipe = network.recvPipe.tail := by
  cases hpipe : network.recvPipe with
  | nil =>
    refine ⟨network, ?_, h, hpipe⟩
    rw [eventLoop, hpipe]
  | cons handled recvPipe =>
    obtain ⟨source, packet⟩ := handled
    have hpacket : packet.Expected := hexpected (source, packet) (by rw [hpipe]; rfl)
    obtain ⟨dht', outputs, hhandle, hkeys⟩ := handleNetworkEvent_ok h source hpacket
    simp only [eventLoop, hpipe, hhandle, bind, Except.bind]
    exact ⟨_, rfl, hkeys, rfl⟩

/-- A packet that was not expected stops the loop. -/
theorem eventLoop_unexpected {source : ConnectedNode S} {packet : Packet}
    {recvPipe : List (ConnectedNode S × Packet)}
    (hpipe : network.recvPipe = (source, packet) :: recvPipe) (h : ¬ packet.Expected) :
    ∃ e, network.eventLoop = .error e := by
  have hhandle := handleNetworkEvent_unexpected network.dht source h
  simp only [eventLoop, hpipe, hhandle, bind, Except.bind]
  exact ⟨_, rfl⟩

theorem step_keysMatch {event : Event} (h : network.dht.KeysMatch)
    (hstep : network.Step event network') : network'.dht.KeysMatch := by
  cases event with
  | datagram bytes =>
    rcases recvLoop_cases network bytes with
        ⟨e, -, herror⟩ | ⟨e, rest, -, hsame⟩ | ⟨handled, rest, -, hwritten⟩
    · cases herror.symm.trans hstep
    · cases hsame.symm.trans hstep
      exact h
    · cases hwritten.symm.trans hstep
      exact h
  | handle =>
    by_cases hexpected : ∀ handled ∈ network.recvPipe.head?, handled.2.Expected
    · obtain ⟨network'', hevent, hkeys, -⟩ := eventLoop_ok h hexpected
      cases hevent.symm.trans hstep
      exact hkeys
    · cases hpipe : network.recvPipe with
      | nil => simp [hpipe] at hexpected
      | cons handled recvPipe =>
        obtain ⟨source, packet⟩ := handled
        have hpacket : ¬ packet.Expected := by simpa [hpipe] using hexpected
        obtain ⟨e, herror⟩ := eventLoop_unexpected hpipe hpacket
        cases herror.symm.trans hstep
  | bootstrap node =>
    obtain ⟨network'', hcontrol, hkeys, -⟩ := controlLoop_ok h node
    cases hcontrol.symm.trans hstep
    exact hkeys

theorem Reachable.keysMatch (h : network.Reachable) : network.dht.KeysMatch := by
  obtain ⟨dhtSk, dhtPk, events, hrun⟩ := h
  induction hrun with
  | nil => exact create_keysMatch dhtSk dhtPk
  | snoc _ hstep ih => exact step_keysMatch ih hstep

end Network

end Tox4j.DhtNode
