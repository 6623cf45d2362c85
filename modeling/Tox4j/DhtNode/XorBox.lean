import Tox4j.DhtNode.Network

/-!
# Boxes that show their key

Keys are single bytes. The public key of a secret key repeats it, both ends of a channel have the
exclusive or of their secret keys as its key, and a box is its plain text behind a tag of 16 bytes
with the channel key.
-/

namespace Tox4j.DhtNode

open Tox4j.Misc

namespace XorBox

/-- The public key of a secret key. -/
def publicKey (secretKey : UInt8) : PublicKey := ⟨List.replicate 32 secretKey, rfl⟩

def nonce : Nonce := ⟨List.replicate 24 0, rfl⟩

def tag (channelKey : UInt8) : List UInt8 := List.replicate 16 channelKey

theorem tag_inj {key key' : UInt8} (h : tag key = tag key') : key = key' := by
  simpa [tag] using h

end XorBox

/-- Boxes that are tagged with their channel key. -/
def xorBox : Sodium where
  SecretKey := UInt8
  ChannelKey := UInt8
  precompute secretKey publicKey := secretKey ^^^ publicKey.bytes.headD 0
  fastBox channelKey _ plain := XorBox.tag channelKey ++ plain
  fastBoxOpen channelKey _ cipherText :=
    if cipherText.take 16 = XorBox.tag channelKey then some (cipherText.drop 16) else none

theorem xorBox_unforgeable : xorBox.Unforgeable where
  open_box key nonce plain := by
    have htake : (XorBox.tag key ++ plain).take 16 = XorBox.tag key := List.take_left' rfl
    have hdrop : (XorBox.tag key ++ plain).drop 16 = plain := List.drop_left' rfl
    simp only [xorBox, htake, hdrop, if_true]
  key_of_open key key' nonce plain plain' h := by
    have htake : (XorBox.tag key ++ plain).take 16 = XorBox.tag key := List.take_left' rfl
    simp only [xorBox, htake] at h
    split at h
    · next htag => exact (XorBox.tag_inj htag).symm
    · cases h

namespace XorBox

/-- A node as another one knows it. -/
def peer (own other : UInt8) : ConnectedNode xorBox where
  cnNode := ⟨.udp, .ipv4 ⟨[10, 0, 0, other], rfl⟩, ⟨33445, by decide, by decide⟩, publicKey other⟩
  cnCkey := own ^^^ other

@[simp] theorem peer_nKey (own other : UInt8) : (peer own other).cnNode.nKey = publicKey other :=
  rfl

/-- A fresh node. -/
def fresh (own : UInt8) : Network xorBox := Network.create own (publicKey own)

/-- A node that has bootstrapped from another one. -/
def network (own other : UInt8) : Network xorBox where
  dht := (fresh own).dht.addDhtNode (peer own other)
  sendPipe := [(peer own other, .nodesRequest ⟨publicKey own, requestPingId⟩)]

theorem fresh_reachable (own : UInt8) : (fresh own).Reachable := ⟨_, _, [], .nil⟩

theorem network_peer (own other : UInt8) :
    (network own other).dht.dhtNodes[publicKey other]? = some (peer own other) := by
  simp [network, Dht.addDhtNode]

theorem network_step (own other : UInt8) :
    (fresh own).Step (.bootstrap (peer own other).cnNode) (network own other) := by
  have hadd : (fresh own).dht.addNode (peer own other).cnNode = .ok (network own other).dht := rfl
  have hfind : (network own other).dht.nodeByKey (peer own other).cnNode.nKey =
      .ok (peer own other) := by
    simp only [Dht.nodeByKey, peer_nKey, network_peer]
  simp only [Network.Step, Network.step, Network.controlLoop, hadd, hfind, okExn, bind,
    Except.bind]
  rfl

theorem network_reachable (own other : UInt8) : (network own other).Reachable :=
  ⟨_, _, _, .single (network_step own other)⟩

end XorBox

end Tox4j.DhtNode
