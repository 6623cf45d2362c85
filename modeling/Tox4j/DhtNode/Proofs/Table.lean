import Tox4j.DhtNode.Proofs.History
import Tox4j.Misc.LastWrite

/-!
# The node table as a map

`Dht.add_node` writes the node under its key, and the channel key that it keeps from the old entry
is the one it would compute: the table is determined by the last node added with each key.
-/

namespace Tox4j.DhtNode

open Tox4j.Misc

variable {S : Sodium} {dhtSk : S.SecretKey} {dhtPk : PublicKey}

namespace Dht

/-- The keys of the table's owner, and for every node the channel key for it. -/
structure Represents (dhtSk : S.SecretKey) (dhtPk : PublicKey) (table : PublicKey → Option Node)
    (dht : Dht S) : Prop where
  secret : dht.dhtSk = dhtSk
  own : dht.dhtPk = dhtPk
  keys : ∀ key node, table key = some node → node.nKey = key
  entries : ∀ key : PublicKey, dht.dhtNodes[key]? =
    (table key).map fun node => { cnNode := node, cnCkey := S.precompute dhtSk key }

variable {table : PublicKey → Option Node} {dht dht' : Dht S}

theorem Represents.create (dhtSk : S.SecretKey) (dhtPk : PublicKey) :
    (Dht.create dhtSk dhtPk).Represents dhtSk dhtPk fun _ => none where
  secret := rfl
  own := rfl
  keys _ _ h := by cases h
  entries _ := Std.ExtTreeMap.getElem?_empty

/-- There is one node table for what it represents. -/
theorem Represents.unique (h : dht.Represents dhtSk dhtPk table)
    (h' : dht'.Represents dhtSk dhtPk table) : dht = dht' := by
  have hnodes : dht.dhtNodes = dht'.dhtNodes :=
    Std.ExtTreeMap.ext_getElem? fun key => (h.entries key).trans (h'.entries key).symm
  have hsecret := h.secret.trans h'.secret.symm
  have hown := h.own.trans h'.own.symm
  cases dht
  cases dht'
  simp_all

/-- An entry for the node under its key. -/
theorem Represents.addDhtNode (h : dht.Represents dhtSk dhtPk table) (node : Node) :
    (dht.addDhtNode { cnNode := node, cnCkey := S.precompute dhtSk node.nKey }).Represents
      dhtSk dhtPk (overwrite Node.nKey table node) where
  secret := h.secret
  own := h.own
  keys key entry hentry := by
    by_cases heq : key = node.nKey
    · rw [heq, overwrite_self] at hentry
      cases hentry
      exact heq.symm
    · rw [overwrite_of_ne heq] at hentry
      exact h.keys key entry hentry
  entries key := by
    simp only [Dht.addDhtNode, Std.ExtTreeMap.getElem?_insert, Std.LawfulEqCmp.compare_eq_iff_eq]
    by_cases heq : node.nKey = key
    · rw [if_pos heq, ← heq, overwrite_self]
      rfl
    · rw [if_neg heq, overwrite_of_ne (Ne.symm heq)]
      exact h.entries key

/-- Adding a node fails no assertion and overwrites what is under its key. -/
theorem Represents.addNode (h : dht.Represents dhtSk dhtPk table) (node : Node) :
    ∃ dht', dht.addNode node = .ok dht' ∧
      dht'.Represents dhtSk dhtPk (overwrite Node.nKey table node) := by
  have hentry := h.entries node.nKey
  have hadded := h.addDhtNode node
  cases hfind : table node.nKey with
  | none =>
    rw [hfind] at hentry
    refine ⟨_, ?_, hadded⟩
    rw [Dht.addNode, hentry, h.secret]
    rfl
  | some old =>
    have hkey := h.keys _ _ hfind
    rw [hfind] at hentry
    by_cases hsame : old = node
    · refine ⟨dht, ?_, ?_⟩
      · simp [Dht.addNode, hentry, hsame]
      · rw [hsame] at hfind
        rw [overwrite_eq_self hfind]
        exact h
    · refine ⟨_, ?_, hadded⟩
      simp [Dht.addNode, hentry, hkey, hsame]

/-- What the table represents after any sequence of nodes. -/
theorem Represents.foldlM (h : dht.Represents dhtSk dhtPk table) (nodes : List Node) :
    ∃ dht', nodes.foldlM Dht.addNode dht = .ok dht' ∧
      dht'.Represents dhtSk dhtPk (nodes.foldl (overwrite Node.nKey) table) := by
  induction nodes generalizing dht table with
  | nil => exact ⟨dht, rfl, h⟩
  | cons node nodes ih =>
    obtain ⟨dht₁, hadd, h₁⟩ := h.addNode node
    obtain ⟨dht₂, hrest, h₂⟩ := ih h₁
    refine ⟨dht₂, ?_, h₂⟩
    rw [List.foldlM_cons, hadd]
    exact hrest

/-- Sequences of nodes with the same effect on what is represented lead to the same table. -/
theorem Represents.foldlM_congr (h : dht.Represents dhtSk dhtPk table) {nodes nodes' : List Node}
    (heq : nodes.foldl (overwrite Node.nKey) table = nodes'.foldl (overwrite Node.nKey) table) :
    nodes.foldlM Dht.addNode dht = nodes'.foldlM Dht.addNode dht := by
  obtain ⟨dht₁, hadd₁, h₁⟩ := h.foldlM nodes
  obtain ⟨dht₂, hadd₂, h₂⟩ := h.foldlM nodes'
  rw [heq] at h₁
  rw [hadd₁, hadd₂, h₁.unique h₂]

theorem Represents.nodeByKey_eq_ok_iff (h : dht.Represents dhtSk dhtPk table) {key : PublicKey}
    {entry : ConnectedNode S} :
    dht.nodeByKey key = .ok entry ↔
      table key = some entry.cnNode ∧ entry.cnCkey = S.precompute dhtSk key := by
  rw [nodeByKey, h.entries]
  cases table key with
  | none => simp
  | some node =>
    cases entry
    simp [eq_comm]

/-- The node table is a map in which the last node with a key counts, and every channel key is the
    one for the key. -/
theorem lastWriteWins (dhtSk : S.SecretKey) (dhtPk : PublicKey) (nodes : List Node) :
    ∃ dht, nodes.foldlM Dht.addNode (Dht.create dhtSk dhtPk) = .ok dht ∧
      dht.dhtSk = dhtSk ∧ dht.dhtPk = dhtPk ∧
      (∀ key, (∃ entry, dht.nodeByKey key = .ok entry) ↔ ∃ node ∈ nodes, node.nKey = key) ∧
      (∀ key entry, dht.nodeByKey key = .ok entry ↔
        IsLast Node.nKey nodes key entry.cnNode ∧ entry.cnCkey = S.precompute dhtSk key) ∧
      (∀ node, [node, node].foldlM Dht.addNode dht = [node].foldlM Dht.addNode dht) ∧
      ∀ a b : Node, a.nKey ≠ b.nKey →
        [a, b].foldlM Dht.addNode dht = [b, a].foldlM Dht.addNode dht := by
  obtain ⟨dht, hadd, h⟩ := (Represents.create dhtSk dhtPk).foldlM nodes
  have hentry : ∀ key entry, dht.nodeByKey key = .ok entry ↔
      IsLast Node.nKey nodes key entry.cnNode ∧ entry.cnCkey = S.precompute dhtSk key := by
    intro key entry
    rw [h.nodeByKey_eq_ok_iff, ← overwritten_eq_some_iff]
    rfl
  refine ⟨dht, hadd, h.secret, h.own, ?_, hentry, ?_, ?_⟩
  · intro key
    rw [← exists_isLast_iff]
    constructor
    · intro hfound
      obtain ⟨entry, hentry'⟩ := hfound
      exact ⟨entry.cnNode, ((hentry key entry).mp hentry').1⟩
    · intro hlast
      obtain ⟨node, hnode⟩ := hlast
      exact ⟨⟨node, S.precompute dhtSk key⟩, (hentry key _).mpr ⟨hnode, rfl⟩⟩
  · intro node
    exact h.foldlM_congr overwrite_overwrite
  · intro a b hne
    exact h.foldlM_congr (overwrite_comm hne)

end Dht

end Tox4j.DhtNode
