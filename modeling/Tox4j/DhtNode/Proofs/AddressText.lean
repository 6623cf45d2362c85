import Tox4j.DhtNode.AddressText
import Tox4j.Misc.Checked

/-!
# Reading addresses back

The two bytes of a group are printed without leading zeros and read as one number. The second byte
shifts the first one by as many digits as it was printed with.
-/

namespace Tox4j.DhtNode

open Tox4j.Misc

namespace InetAddr

theorem readByte_decimal (b : UInt8) : readByte (decimal b) = some b := by
  rw [readByte, decimal, readNumeral_toDigits (by decide) (by decide), Option.bind_eq_bind,
    Option.bind_some, if_pos b.toNat_lt, UInt8.ofNat_toNat]

theorem length_hexadecimal (b : UInt8) :
    (hexadecimal b).length = if b.toNat < 16 then 1 else 2 := by
  have hpos : 0 < (hexadecimal b).length := Nat.length_toDigits_pos
  have hone : (hexadecimal b).length ≤ 1 ↔ b.toNat < 16 ^ 1 :=
    Nat.length_toDigits_le_iff (by decide) (by decide)
  have htwo : (hexadecimal b).length ≤ 2 ↔ b.toNat < 16 ^ 2 :=
    Nat.length_toDigits_le_iff (by decide) (by decide)
  have hlt := b.toNat_lt
  split <;> omega

/-- The number that the text of a group denotes. -/
def groupNumber (group : UInt8 × UInt8) : ℕ :=
  group.1.toNat * 16 ^ (hexadecimal group.2).length + group.2.toNat

def groupBytes (group : UInt8 × UInt8) : List UInt8 :=
  [UInt8.ofNat (groupNumber group / 256), UInt8.ofNat (groupNumber group % 256)]

theorem readGroup_groupText (group : UInt8 × UInt8) :
    readGroup (groupText group) = some (groupBytes group) := by
  have hlength : (groupText group).length ≤ 4 := by
    rw [groupText, List.length_append, length_hexadecimal, length_hexadecimal]
    split <;> split <;> decide
  rw [readGroup, if_pos hlength, groupText, hexadecimal, hexadecimal,
    readNumeral_append (by decide) (by decide)]
  rfl

/-- A group is read back as the bytes it is made of, unless a digit was dropped between two
    others. -/
theorem groupBytes_eq_iff (group : UInt8 × UInt8) :
    groupBytes group = [group.1, group.2] ↔ group.1 = 0 ∨ 16 ≤ group.2 := by
  have hhi := group.1.toNat_lt
  have hlo := group.2.toNat_lt
  have hlength := length_hexadecimal group.2
  have hle : 16 ≤ group.2 ↔ 16 ≤ group.2.toNat := Iff.rfl
  have hnumber : groupNumber group =
      if group.2.toNat < 16 then group.1.toNat * 16 + group.2.toNat
      else group.1.toNat * 256 + group.2.toNat := by
    rw [groupNumber, hlength]
    split <;> rfl
  rw [groupBytes, List.cons_eq_cons, List.cons_eq_cons, hle, ← UInt8.toNat_inj,
    ← UInt8.toNat_inj, ← UInt8.toNat_inj, UInt8.toNat_ofNat', UInt8.toNat_ofNat',
    UInt8.toNat_zero]
  simp only [and_true]
  split at hnumber <;> omega

theorem bytes_eq_groups (ip : Sized 16) :
    ip.bytes = (groups ip).flatMap fun group => [group.1, group.2] :=
  ip.bytes_eq_map

/-- Nothing that is printed for a byte has a separator in it. -/
theorem not_mem_decimal {c : Char} (hc : digitValue c = none) (b : UInt8) : c ∉ decimal b :=
  not_mem_toDigits (by decide) (by decide) hc _

theorem not_mem_groupText {c : Char} (hc : digitValue c = none) (group : UInt8 × UInt8) :
    c ∉ groupText group := by
  intro hmem
  rcases List.mem_append.mp hmem with hmem | hmem
  · exact not_mem_toDigits (by decide) (by decide) hc _ hmem
  · exact not_mem_toDigits (by decide) (by decide) hc _ hmem

theorem readIpv4_ipv4ToString (ip : Sized 4) : readIpv4 (ipv4ToString ip) = some ip := by
  have hfields : ∀ field ∈ ip.bytes.map decimal, '.' ∉ field := by
    intro field hfield
    obtain ⟨b, _, rfl⟩ := List.mem_map.mp hfield
    exact not_mem_decimal rfl b
  have hbytes : ip.bytes = [ip.byte 0, ip.byte 1, ip.byte 2, ip.byte 3] := ip.bytes_eq_map
  have hne : ip.bytes.map decimal ≠ [] := by
    rw [hbytes]
    exact List.cons_ne_nil _ _
  have htext : ipv4ToString ip = ['.'].intercalate (ip.bytes.map decimal) := by
    rw [hbytes]
    rfl
  have hread : (ip.bytes.map decimal).mapM readByte = some ip.bytes := by
    rw [mapM_map_pure readByte_decimal, List.map_id']
    rfl
  rw [readIpv4, htext, List.splitOn_intercalate '.' hfields hne, hread]
  exact dif_pos ip.size

/-- A text without dots is a single field. -/
theorem readIpv4_eq_none {text : List Char} (h : '.' ∉ text) : readIpv4 text = none := by
  rw [readIpv4, List.splitOn_eq_singleton h, List.mapM_cons, List.mapM_nil]
  cases readByte text <;> rfl

theorem readIpv6_ipv6ToString (ip : Sized 16) :
    readIpv6 (ipv6ToString ip) = ofBytes 16 ((groups ip).flatMap groupBytes) := by
  have hfields : ∀ field ∈ (groups ip).map groupText, ':' ∉ field := by
    intro field hfield
    obtain ⟨group, _, rfl⟩ := List.mem_map.mp hfield
    exact not_mem_groupText rfl group
  have hread : ((groups ip).map groupText).mapM readGroup = some ((groups ip).map groupBytes) :=
    mapM_map_pure readGroup_groupText (groups ip)
  rw [readIpv6, ipv6ToString, List.splitOn_intercalate ':' hfields (List.cons_ne_nil _ _), hread]
  rfl

/-- What the text of an address with groups is read as. -/
def regrouped (ip : Sized 16) : Sized 16 := ⟨(groups ip).flatMap groupBytes, rfl⟩

theorem flatMap_groupBytes_eq_iff (gs : List (UInt8 × UInt8)) :
    (gs.flatMap groupBytes = gs.flatMap fun group => [group.1, group.2]) ↔
      ∀ group ∈ gs, group.1 = 0 ∨ 16 ≤ group.2 := by
  induction gs with
  | nil => simp
  | cons group gs ih =>
    rw [List.flatMap_cons, List.flatMap_cons, List.forall_mem_cons, ← groupBytes_eq_iff, ← ih]
    constructor
    · intro h
      exact List.append_inj h rfl
    · intro h
      rw [h.1, h.2]

theorem regrouped_eq_iff (ip : Sized 16) :
    regrouped ip = ip ↔ ∀ group ∈ groups ip, group.1 = 0 ∨ 16 ≤ group.2 := by
  rw [← flatMap_groupBytes_eq_iff, ← bytes_eq_groups]
  exact Sized.ext_iff

theorem not_mem_intercalate {sep c : Char} (hc : c ≠ sep) {fields : List (List Char)}
    (h : ∀ field ∈ fields, c ∉ field) : c ∉ [sep].intercalate fields := by
  induction fields with
  | nil => exact List.not_mem_nil
  | cons field fields ih =>
    have hhead := h field List.mem_cons_self
    cases fields with
    | nil =>
      rw [List.intercalate_singleton]
      exact hhead
    | cons next fields =>
      have htail := ih fun f hf => h f (List.mem_cons_of_mem _ hf)
      rw [List.intercalate_cons_cons, List.append_assoc, List.singleton_append]
      intro hmem
      rcases List.mem_append.mp hmem with hmem | hmem
      · exact hhead hmem
      · rcases List.mem_cons.mp hmem with heq | hmem
        · exact hc heq
        · exact htail hmem

theorem ofString_ipv4 (ip : Sized 4) : ofString (toString (.ipv4 ip)) = some (.ipv4 ip) := by
  rw [ofString, toString, readIpv4_ipv4ToString]

/-- The text of an address with groups is the text of some such address. -/
theorem ofString_ipv6 (ip : Sized 16) :
    ofString (toString (.ipv6 ip)) = some (.ipv6 (regrouped ip)) := by
  have hdot : '.' ∉ ipv6ToString ip := by
    apply not_mem_intercalate (by decide)
    intro field hfield
    obtain ⟨group, _, rfl⟩ := List.mem_map.mp hfield
    exact not_mem_groupText rfl group
  rw [ofString, toString, readIpv4_eq_none hdot, readIpv6_ipv6ToString]
  rfl

/-- An address is read back as it was exactly when no digit that counts was dropped. -/
theorem ofString_toString_iff (addr : InetAddr) :
    ofString addr.toString = some addr ↔ addr.NoZeroDropped := by
  cases addr with
  | ipv4 ip => exact iff_of_true (ofString_ipv4 ip) trivial
  | ipv6 ip =>
    rw [ofString_ipv6, Option.some.injEq, InetAddr.ipv6.injEq]
    exact regrouped_eq_iff ip

/-- What is printed for an address can be read, if not as the same address. -/
theorem exists_sendAddress {S : Sodium} (node : ConnectedNode S) :
    ∃ ip port, node.sendAddress = some (ip, port) := by
  rw [ConnectedNode.sendAddress]
  cases node.cnNode.nAddr with
  | ipv4 ip =>
    rw [ofString_ipv4]
    exact ⟨_, _, rfl⟩
  | ipv6 ip =>
    rw [ofString_ipv6]
    exact ⟨_, _, rfl⟩

/-- Text denotes the address it was printed for, addresses have texts of their own, and packets go
    to the address of their node, exactly when no digit that counts was dropped. -/
theorem text_denotes_address {S : Sodium} :
    (∀ addr : InetAddr, ofString addr.toString = some addr ↔ addr.NoZeroDropped) ∧
      Set.InjOn InetAddr.toString {addr | addr.NoZeroDropped} ∧
      ∀ node : ConnectedNode S,
        node.sendAddress = some (node.cnNode.nAddr, node.cnNode.nPort) ↔
          node.cnNode.nAddr.NoZeroDropped := by
  refine ⟨ofString_toString_iff, ?_, ?_⟩
  · intro addr haddr addr' haddr' htext
    have hread := (ofString_toString_iff addr).mpr haddr
    have hread' := (ofString_toString_iff addr').mpr haddr'
    rw [htext, hread'] at hread
    exact (Option.some.inj hread).symm
  · intro node
    rw [← ofString_toString_iff, ConnectedNode.sendAddress]
    cases ofString node.cnNode.nAddr.toString with
    | none => simp
    | some addr => simp

/-- `2001:db8::1` is read back as another address, and groups of the bytes `12 03` and `01 23` have
    the same text. -/
theorem text_ambiguous :
    (∃ ip : Sized 16, ip.bytes = [0x20, 0x01, 0x0d, 0xb8, 0, 0, 0, 0, 0, 0, 0, 0, 0, 0, 0, 1] ∧
      ofString (toString (.ipv6 ip)) ≠ some (.ipv6 ip)) ∧
    ∃ ip ip' : Sized 16, ip ≠ ip' ∧ toString (.ipv6 ip) = toString (.ipv6 ip') := by
  refine ⟨⟨⟨_, rfl⟩, rfl, ?_⟩, ?_⟩
  · intro h
    have hkept := (ofString_toString_iff _).mp h (0x20, 0x01) (by decide)
    exact absurd hkept (by decide)
  · refine ⟨⟨[0x12, 0x03] ++ List.replicate 14 0, rfl⟩,
      ⟨[0x01, 0x23] ++ List.replicate 14 0, rfl⟩, by decide, ?_⟩
    decide

end InetAddr

end Tox4j.DhtNode
