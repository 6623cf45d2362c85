import Tox4j.DhtNode.Proofs.Framing

/-!
# How many bytes nodes take

A node is a protocol byte, an address of 4 or 16 bytes, a port and a key. `NodesThen` says of the
bytes alone how reading some nodes goes on.
-/

namespace Tox4j.DhtNode

open Tox4j.Misc

namespace Port

theorem ofInt_toInt (port : Port) : ofInt port.toInt = some port :=
  dif_pos ⟨port.min_le, port.le_max⟩

/-- Every two bytes are a port. -/
theorem unpack_append (bs : Sized 2) (left : List UInt8) :
    ∃ port, unpack (bs.bytes ++ left) = .ok (.ok port, left) := by
  obtain ⟨port, hport⟩ := uint16Be_append bs left
  refine ⟨port, (Reader.bind_ok hport).trans ?_⟩
  rw [ofInt_toInt]
  rfl

theorem unpack_short {buf : List UInt8} (h : buf.length < 2) : unpack buf = .error .iobuf :=
  Reader.bind_error (uint16Be_short h)

end Port

namespace Node

variable {buf : List UInt8}

/-- The length of the address that follows a protocol byte. -/
def addressSize (protocol : UInt8) : Option ℕ :=
  match protocol &&& 0x7f with
  | 0b0010 => some 4
  | 0b1010 => some 16
  | _ => none

theorem unpackAfterProto_short (nProto : Protocol) (nAddr : InetAddr) (h : buf.length < 34) :
    unpackAfterProto nProto nAddr buf = .error .iobuf := by
  by_cases hport : buf.length < 2
  · exact Reader.onOk_raises (Port.unpack_short hport)
  · obtain ⟨bs, left, rfl⟩ := Reader.exists_append (Nat.not_lt.mp hport)
    obtain ⟨port, hunpack⟩ := Port.unpack_append bs left
    have hleft : left.length < 32 := by
      simp only [List.length_append, bs.size] at h
      omega
    apply (Reader.onOk_ok hunpack).trans
    exact Reader.bind_error (publicKey_unpack_short hleft)

theorem unpackAfterProto_ok (nProto : Protocol) (nAddr : InetAddr) (h : 34 ≤ buf.length) :
    ∃ node, unpackAfterProto nProto nAddr buf = .ok (.ok node, buf.drop 34) := by
  have hport : 2 ≤ buf.length := by omega
  obtain ⟨bs, rest, rfl⟩ := Reader.exists_append hport
  have hrest : 32 ≤ rest.length := by
    simp only [List.length_append, bs.size] at h
    omega
  obtain ⟨key, left, rfl⟩ := Reader.exists_append hrest
  obtain ⟨port, hunpack⟩ := Port.unpack_append bs (key.bytes ++ left)
  refine ⟨⟨nProto, nAddr, port, key⟩, (Reader.onOk_ok hunpack).trans ?_⟩
  apply (Reader.bind_ok (publicKey_unpack_append key left)).trans
  have hdrop : (bs.bytes ++ (key.bytes ++ left)).drop 34 = left := by
    rw [← List.append_assoc]
    exact List.drop_left' (by rw [List.length_append, bs.size, key.size])
  rw [hdrop]
  rfl

/-- The address, and what follows it. -/
def unpackAddress (nProto : Protocol) (n : ℕ) (wrap : Sized n → InetAddr) :
    Consume (OrError Node) := do
  let address ← Consume.string n
  unpackAfterProto nProto (wrap address)

theorem unpackAddress_short {n : ℕ} (nProto : Protocol) (wrap : Sized n → InetAddr)
    (h : buf.length < n + 34) : unpackAddress nProto n wrap buf = .error .iobuf := by
  by_cases haddress : buf.length < n
  · exact Reader.bind_error (string_short haddress)
  · obtain ⟨address, left, rfl⟩ := Reader.exists_append (Nat.not_lt.mp haddress)
    have hleft : left.length < 34 := by
      simp only [List.length_append, address.size] at h
      omega
    apply (Reader.bind_ok (string_append address left)).trans
    exact unpackAfterProto_short nProto (wrap address) hleft

theorem unpackAddress_ok {n : ℕ} (nProto : Protocol) (wrap : Sized n → InetAddr)
    (h : n + 34 ≤ buf.length) :
    ∃ node, unpackAddress nProto n wrap buf = .ok (.ok node, buf.drop (n + 34)) := by
  have haddress : n ≤ buf.length := by omega
  obtain ⟨address, left, rfl⟩ := Reader.exists_append haddress
  have hleft : 34 ≤ left.length := by
    simp only [List.length_append, address.size] at h
    omega
  obtain ⟨node, hnode⟩ := unpackAfterProto_ok nProto (wrap address) hleft
  refine ⟨node, (Reader.bind_ok (string_append address left)).trans ?_⟩
  rw [hnode, ← List.drop_drop, List.drop_left' address.size]

theorem unpack_nil : unpack [] = .error .iobuf := rfl

/-- What follows the protocol byte. -/
def unpackFamily (nProto : Protocol) (family : UInt8) : Consume (OrError Node) :=
  match family with
  | 0b0010 => unpackAddress nProto 4 .ipv4
  | 0b1010 => unpackAddress nProto 16 .ipv6
  | _ => pure (.error (.formatError "Node:protocol"))

theorem unpack_cons (protocol : UInt8) (buf : List UInt8) :
    unpack (protocol :: buf) =
      unpackFamily (if protocol >>> 7 = 0 then .udp else .tcp) (protocol &&& 0x7f) buf := rfl

/-- No address is read after an unknown protocol. -/
theorem unpack_unknown {protocol : UInt8} (h : addressSize protocol = none) :
    unpack (protocol :: buf) = .ok (.error (.formatError "Node:protocol"), buf) := by
  rw [unpack_cons]
  unfold addressSize at h
  unfold unpackFamily
  split at h
  · cases h
  · cases h
  · rfl

/-- A node with an address is read like the address. -/
theorem unpack_known {protocol : UInt8} {n : ℕ} (h : addressSize protocol = some n)
    (buf : List UInt8) :
    ∃ nProto wrap, unpack (protocol :: buf) = unpackAddress nProto n wrap buf := by
  rw [unpack_cons]
  unfold addressSize at h
  unfold unpackFamily
  split at h
  case h_1 hfamily =>
    cases h
    rw [hfamily]
    exact ⟨_, .ipv4, rfl⟩
  case h_2 hfamily =>
    cases h
    rw [hfamily]
    exact ⟨_, .ipv6, rfl⟩
  case h_3 => cases h

theorem addressSize_ge {protocol : UInt8} {n : ℕ} (h : addressSize protocol = some n) : 4 ≤ n := by
  rw [addressSize] at h
  split at h
  · cases h
    decide
  · cases h
    decide
  · cases h

theorem unpack_length {node : Node} {left : List UInt8} (h : unpack buf = .ok (.ok node, left)) :
    39 + left.length ≤ buf.length := by
  cases buf with
  | nil => cases h
  | cons protocol buf =>
    cases hsize : addressSize protocol with
    | none =>
      rw [unpack_unknown hsize] at h
      cases h
    | some n =>
      obtain ⟨nProto, wrap, hunpack⟩ := unpack_known hsize buf
      have hge := addressSize_ge hsize
      rw [hunpack] at h
      by_cases hshort : buf.length < n + 34
      · rw [unpackAddress_short nProto wrap hshort] at h
        cases h
      · obtain ⟨node', hok⟩ := unpackAddress_ok nProto wrap (Nat.not_lt.mp hshort)
        rw [hok] at h
        cases h
        simp only [List.length_drop, List.length_cons]
        omega

end Node

/-- Reading `n` nodes goes to its end and what follows has the property, or it stops at a node
    with an unknown protocol before it runs out of bytes. -/
def NodesThen (Q : List UInt8 → Prop) : ℕ → List UInt8 → Prop
  | 0, bytes => Q bytes
  | _ + 1, [] => False
  | n + 1, protocol :: bytes =>
    match Node.addressSize protocol with
    | none => True
    | some size => size + 34 ≤ bytes.length ∧ NodesThen Q n (bytes.drop (size + 34))

theorem nodesThen_unknown {Q : List UInt8 → Prop} {n : ℕ} {protocol : UInt8} {bytes : List UInt8}
    (h : Node.addressSize protocol = none) : NodesThen Q (n + 1) (protocol :: bytes) := by
  simp only [NodesThen, h]

theorem nodesThen_known {Q : List UInt8 → Prop} {n size : ℕ} {protocol : UInt8}
    {bytes : List UInt8} (h : Node.addressSize protocol = some size) :
    NodesThen Q (n + 1) (protocol :: bytes) ↔
      size + 34 ≤ bytes.length ∧ NodesThen Q n (bytes.drop (size + 34)) := by
  simp only [NodesThen, h]

theorem unpackNodes_length {nodes : List Node} {n : ℕ} {buf left : List UInt8}
    (h : unpackLoop Node.unpack [] n buf = .ok (.ok nodes, left)) :
    39 * n + left.length ≤ buf.length := by
  rcases unpackLoop_eq_ok.mp h with ⟨hlength, hreads⟩
  rw [← hlength]
  exact hreads.length_le Node.unpack_length

/-- What is done after the loop is safe exactly if it is safe on the bytes that are left. -/
theorem safe_unpackLoop_iff {α : Type} {f : List Node → Consume (OrError α)} {Q : α → Prop}
    {P : List UInt8 → Prop} (hf : ∀ nodes buf, (f nodes).Safe Q buf ↔ P buf)
    (acc : List Node) (n : ℕ) (buf : List UInt8) :
    ((unpackLoop Node.unpack acc n).onOk f).Safe Q buf ↔ NodesThen P n buf := by
  induction n generalizing acc buf with
  | zero =>
    rw [NodesThen, ← hf acc.reverse buf]
    exact Reader.safe_onOk_of_ok rfl
  | succ n ih =>
    cases buf with
    | nil =>
      apply iff_of_false _ id
      exact Reader.not_safe_onOk_of_raises (Reader.onOk_raises Node.unpack_nil)
    | cons protocol buf =>
      cases hsize : Node.addressSize protocol with
      | none =>
        apply iff_of_true _ (nodesThen_unknown hsize)
        exact Reader.safe_onOk_of_err (Reader.onOk_err (Node.unpack_unknown hsize))
      | some size =>
        obtain ⟨nProto, wrap, hunpack⟩ := Node.unpack_known hsize buf
        rw [nodesThen_known hsize]
        by_cases hshort : buf.length < size + 34
        · rw [Node.unpackAddress_short nProto wrap hshort] at hunpack
          apply iff_of_false _ (by omega)
          exact Reader.not_safe_onOk_of_raises (Reader.onOk_raises hunpack)
        · obtain ⟨node, hok⟩ := Node.unpackAddress_ok nProto wrap (Nat.not_lt.mp hshort)
          have hloop : unpackLoop Node.unpack acc (n + 1) (protocol :: buf) =
              unpackLoop Node.unpack (node :: acc) n (buf.drop (size + 34)) :=
            Reader.onOk_ok (hunpack.trans hok)
          rw [and_iff_right (Nat.not_lt.mp hshort), ← ih (node :: acc)]
          exact Reader.safe_congr (Reader.onOk_congr hloop)

end Tox4j.DhtNode
