import Mathlib.Data.Int.Bitwise

/-!
# Exclusive or of numbers with a sign

The operation on integers is the one on bit vectors, whatever their width, and absolute values
satisfy a triangle inequality for it.
-/

namespace Tox4j.Misc

theorem nat_xor_le_add (m n : ℕ) : m ^^^ n ≤ m + n := by
  induction m using Nat.strongRecOn generalizing n with
  | ind m ih =>
    by_cases hm : m = 0
    · rw [hm, Nat.zero_xor, Nat.zero_add]
    · have hhalf := ih (m / 2) (by omega) (n / 2)
      have hdiv : (m ^^^ n) / 2 = m / 2 ^^^ n / 2 := Nat.xor_div_two
      have hmod : (m ^^^ n) % 2 = m % 2 ^^^ n % 2 := Nat.xor_mod_two_pow (n := 1)
      have hbit : m % 2 ^^^ n % 2 ≤ m % 2 + n % 2 := by
        rcases Nat.mod_two_eq_zero_or_one m with hm2 | hm2 <;>
          rcases Nat.mod_two_eq_zero_or_one n with hn2 | hn2 <;>
            rw [hm2, hn2] <;> decide
      omega

theorem int_natAbs_xor_le (a b : ℤ) : (Int.xor a b).natAbs ≤ a.natAbs + b.natAbs := by
  cases a with
  | ofNat m =>
    cases b with
    | ofNat n => exact nat_xor_le_add m n
    | negSucc n => exact Nat.succ_le_succ (nat_xor_le_add m n)
  | negSucc m =>
    cases b with
    | ofNat n =>
      have hle := nat_xor_le_add m n
      show (m ^^^ n) + 1 ≤ m + 1 + n
      omega
    | negSucc n =>
      have hle := nat_xor_le_add m n
      show m ^^^ n ≤ m + 1 + (n + 1)
      omega

/-- A negative number has the bits of its predecessor's absolute value inverted. -/
theorem toInt_eq_negSucc {w : ℕ} {x : BitVec w} (h : x.msb = true) :
    x.toInt = Int.negSucc (~~~x).toNat := by
  have hlt := x.isLt
  rw [BitVec.toInt_eq_msb_cond, if_pos h, BitVec.toNat_not]
  omega

theorem int_xor_toInt {w : ℕ} (x y : BitVec w) : Int.xor x.toInt y.toInt = (x ^^^ y).toInt := by
  cases hx : x.msb with
  | false =>
    rw [BitVec.toInt_eq_toNat_of_msb hx]
    cases hy : y.msb with
    | false =>
      rw [BitVec.toInt_eq_toNat_of_msb hy, BitVec.toInt_eq_toNat_of_msb (by simp [hx, hy])]
      exact congrArg Int.ofNat (BitVec.toNat_xor ..).symm
    | true =>
      rw [toInt_eq_negSucc hy, toInt_eq_negSucc (by simp [hx, hy]), BitVec.not_xor_right]
      exact congrArg Int.negSucc (BitVec.toNat_xor ..).symm
  | true =>
    rw [toInt_eq_negSucc hx]
    cases hy : y.msb with
    | false =>
      rw [BitVec.toInt_eq_toNat_of_msb hy, toInt_eq_negSucc (by simp [hx, hy]),
        BitVec.not_xor_left]
      exact congrArg Int.negSucc (BitVec.toNat_xor ..).symm
    | true =>
      rw [toInt_eq_negSucc hy, BitVec.toInt_eq_toNat_of_msb (by simp [hx, hy])]
      have hnot : x ^^^ y = ~~~x ^^^ ~~~y := by
        rw [← BitVec.not_xor_left, ← BitVec.not_xor_right, BitVec.not_not]
      rw [hnot]
      exact congrArg Int.ofNat (BitVec.toNat_xor ..).symm

end Tox4j.Misc
