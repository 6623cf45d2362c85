import Tox4j.DhtNode.Distance
import Tox4j.DhtNode.Proofs.Main
import Tox4j.Misc.SignedXor

/-!
# Distances of keys

A byte of the Tox distance is the absolute value of an exclusive or that is read with its sign.
-/

namespace Tox4j.DhtNode

open Tox4j.Misc

theorem toNat_absInt8 (x : UInt8) : (absInt8 x).toNat = x.toBitVec.toInt.natAbs :=
  UInt8.toNat_ofNat_of_lt' (Nat.lt_of_le_of_lt (natAbs_toInt_le x) (by decide))

theorem charOfIntExn_toNat (x : UInt8) : charOfIntExn x.toNat = .ok x := by
  have hlt := x.toNat_lt
  refine (if_pos (by omega)).trans ?_
  rw [Int.toNat_natCast, UInt8.ofNat_toNat]

/-- On bytes without a sign, the native operation is the one on bytes. -/
theorem lxor_toNat (x y : UInt8) : lxor x.toNat y.toNat = (x ^^^ y).toNat := by
  have hx : x.toNat < 2 ^ 63 := Nat.lt_of_lt_of_le x.toNat_lt (by decide)
  have hy : y.toNat < 2 ^ 63 := Nat.lt_of_lt_of_le y.toNat_lt (by decide)
  have hxor := (x ^^^ y).toNat_lt
  have hnat : (BitVec.ofNat 63 x.toNat ^^^ BitVec.ofNat 63 y.toNat).toNat = (x ^^^ y).toNat := by
    rw [BitVec.toNat_xor, BitVec.toNat_ofNat, BitVec.toNat_ofNat, Nat.mod_eq_of_lt hx,
      Nat.mod_eq_of_lt hy, UInt8.toNat_xor]
  rw [lxor, BitVec.ofInt_natCast, BitVec.ofInt_natCast, BitVec.toInt_eq_toNat_of_lt (by omega),
    hnat]

namespace PublicKey

theorem kadDistance_eq (a b : PublicKey) :
    kadDistance a b = .ok ((List.finRange 32).map fun i => a.byte i ^^^ b.byte i) := by
  rw [kadDistance, Sized.zip_bytes]
  apply mapM_map_pure
  intro i
  show charOfIntExn (lxor (a.byte i).toNat (b.byte i).toNat) = _
  rw [lxor_toNat]
  exact charOfIntExn_toNat _

end PublicKey

namespace Haskell

theorem dist1_toNat (x y : UInt8) : dist1 x.toNat y.toNat = (absInt8 (x ^^^ y)).toNat := by
  have hx : int8 x.toNat = x.toBitVec.toInt := int8_toNat x
  have hy : int8 y.toNat = y.toBitVec.toInt := int8_toNat y
  rw [dist1, hx, hy, int_xor_toInt, toNat_absInt8]
  rfl

/-- One step of the recursion. -/
theorem toxDist_concat (m n : ℕ) (x y : UInt8) :
    toxDist (m * 256 + x.toNat) (n * 256 + y.toNat) =
      toxDist m n * 256 + (absInt8 (x ^^^ y)).toNat := by
  rw [toxDist]
  split
  · next hzero =>
    have hx : x = 0 := UInt8.toNat_inj.mp (by rw [UInt8.toNat_zero]; omega)
    have hy : y = 0 := UInt8.toNat_inj.mp (by rw [UInt8.toNat_zero]; omega)
    have hm : m = 0 := by omega
    have hn : n = 0 := by omega
    rw [hx, hy, hm, hn, toxDist]
    rfl
  · simp only [and_ff_concat, shiftRight_concat]
    rw [dist1_toNat, or_shiftLeft_eq]

theorem toxDist_bigEndian {α : Type} (f g : α → UInt8) (as : List α) :
    toxDist (bigEndian (as.map f)) (bigEndian (as.map g)) =
      bigEndian (as.map fun a => absInt8 (f a ^^^ g a)) := by
  induction as using List.reverseRecOn with
  | nil => simp [toxDist]
  | append_singleton as a ih =>
    simp only [List.map_append, List.map_cons, List.map_nil, bigEndian_concat, toxDist_concat, ih]

end Haskell

namespace PublicKey

/-- What the two functions write is the same number as in the other implementation. -/
theorem distances_agree (a b : PublicKey) :
    ∃ tox kad, toxDistance a b = .ok tox ∧ kadDistance a b = .ok kad ∧
      bigEndian tox = Haskell.toxDist (bigEndian a.bytes) (bigEndian b.bytes) ∧
      bigEndian kad = Haskell.kadDist (bigEndian a.bytes) (bigEndian b.bytes) := by
  refine ⟨_, _, toxDistance_eq a b, kadDistance_eq a b, ?_, ?_⟩
  · rw [Sized.bytes_eq_map a, Sized.bytes_eq_map b, Haskell.toxDist_bigEndian]
  · rw [Sized.bytes_eq_map a, Sized.bytes_eq_map b, Haskell.kadDist, bigEndian_map_xor]

theorem absInt8_eq_zero_iff (x y : UInt8) : absInt8 (x ^^^ y) = 0 ↔ x = y := by
  rw [← UInt8.toNat_inj, toNat_absInt8, UInt8.toNat_zero, Int.natAbs_eq_zero]
  constructor
  · intro h
    have hxor : x ^^^ y = 0 := UInt8.toBitVec_inj.mp (BitVec.toInt_inj.mp h)
    exact UInt8.xor_eq_zero_iff.mp hxor
  · intro h
    rw [h, UInt8.xor_self]
    rfl

/-- Byte by byte, the way over a third key is not shorter. -/
theorem absInt8_triangle (x y z : UInt8) :
    (absInt8 (x ^^^ z)).toNat ≤ (absInt8 (x ^^^ y)).toNat + (absInt8 (y ^^^ z)).toNat := by
  have hway : x ^^^ z = (x ^^^ y) ^^^ (y ^^^ z) := by
    rw [UInt8.xor_assoc, ← UInt8.xor_assoc y y z, UInt8.xor_self, UInt8.zero_xor]
  rw [hway, toNat_absInt8, toNat_absInt8, toNat_absInt8, UInt8.toBitVec_xor, ← int_xor_toInt]
  exact int_natAbs_xor_le _ _

/-- Compared as numbers, the distances are those of a metric. -/
theorem distance_isMetric :
    ∃ dist : PublicKey → PublicKey → ℕ,
      (∀ a b, bigEndian <$> distance a b = .ok (dist a b)) ∧ IsMetric dist := by
  refine ⟨fun a b => bigEndian ((List.finRange 32).map fun i => absInt8 (a.byte i ^^^ b.byte i)),
    fun a b => ?_, ?_, ?_, ?_⟩
  · rw [distance, toxDistance_eq]
    rfl
  · intro a b
    rw [bigEndian_map_eq_zero, Sized.eq_iff_byte]
    simp only [List.mem_finRange, true_imp_iff, absInt8_eq_zero_iff]
  · intro a b
    simp only [UInt8.xor_comm (b.byte _)]
  · intro a b c
    apply bigEndian_map_le_add
    intro i
    exact absInt8_triangle _ _ _

/-- The absolute value in terms of the number without a sign. -/
theorem toNat_absInt8_eq (x : UInt8) :
    (absInt8 x).toNat = if x.toNat < 128 then x.toNat else 256 - x.toNat := by
  have hlt := x.toNat_lt
  rw [toNat_absInt8, ← int8_toNat, int8]
  split <;> split <;> omega

theorem absInt8_inj_iff (x y : UInt8) : absInt8 x = absInt8 y ↔ SameButSign x y := by
  have hx := x.toNat_lt
  have hy := y.toNat_lt
  have hsize : UInt8.size = 256 := rfl
  rw [SameButSign, ← UInt8.toNat_inj, ← UInt8.toNat_inj, ← UInt8.toNat_inj, toNat_absInt8_eq,
    toNat_absInt8_eq, UInt8.toNat_neg, hsize]
  split <;> split <;> omega

/-- Two keys have the same distance from a third one when their bytes differ from its bytes by
    the same amounts, but for the signs. -/
theorem distance_eq_iff (t a b : PublicKey) :
    (distance t a = distance t b ↔
      ∀ i, SameButSign (t.byte i ^^^ a.byte i) (t.byte i ^^^ b.byte i)) ∧
    (kadDistance t a = kadDistance t b ↔ a = b) := by
  constructor
  · rw [distance, distance, toxDistance_eq, toxDistance_eq]
    simp only [Except.ok.injEq, List.map_inj_left, List.mem_finRange, true_imp_iff,
      absInt8_inj_iff]
  · rw [kadDistance_eq, kadDistance_eq, Sized.eq_iff_byte]
    simp only [Except.ok.injEq, List.map_inj_left, List.mem_finRange, true_imp_iff,
      UInt8.xor_right_inj]

/-- The keys `0…01` and `0…0ff` are equally far from the key `0…0`. -/
theorem distance_not_injective :
    ∃ t a b : PublicKey, a ≠ b ∧ distance t a = distance t b := by
  refine ⟨⟨List.replicate 32 0, rfl⟩, ⟨List.replicate 31 0 ++ [0x01], rfl⟩,
    ⟨List.replicate 31 0 ++ [0xff], rfl⟩, by decide, ?_⟩
  rw [distance, distance, toxDistance_eq, toxDistance_eq]
  decide

end PublicKey

end Tox4j.DhtNode
