import Mathlib.Data.Int.Bitwise
import Tox4j.DhtNode.Main
import Tox4j.Misc.BigEndian

/-!
# `publicKey.ml` and `distance.hs`: distances of keys

`PublicKey.tox_distance` is in the module of the handler. Here are the other distance of
`publicKey.ml`, the functions of `distance.hs`, and what a distance should be.
-/

namespace Tox4j.DhtNode

open Tox4j.Misc

/-- `PublicKey.kad_distance`. -/
def PublicKey.kadDistance (a b : PublicKey) : Except Exn (List UInt8) :=
  (a.bytes.zip b.bytes).mapM fun (x, y) => charOfIntExn (lxor x.toNat y.toNat)

/-! ## `distance.hs` -/

namespace Haskell

/-- `kadDist`. -/
def kadDist (a b : ℕ) : ℕ := a ^^^ b

/-- `int8_t`. -/
def int8 (x : ℤ) : ℤ := if 128 ≤ x then -(256 - x) else x

/-- `dist1`. -/
def dist1 (byteA byteB : ℕ) : ℕ := (Int.xor (int8 byteA) (int8 byteB)).natAbs

/-- `toxDist`, on numbers that are not negative: for others it does not end. -/
def toxDist (a b : ℕ) : ℕ :=
  if a = 0 ∧ b = 0 then 0
  else
    let byteA := a &&& 0xff
    let byteB := b &&& 0xff
    let a' := a >>> 8
    let b' := b >>> 8
    dist1 byteA byteB ||| toxDist a' b' <<< 8
termination_by a + b
decreasing_by
  rw [Nat.shiftRight_eq_div_pow, Nat.shiftRight_eq_div_pow]
  omega

end Haskell

/-- A distance with numbers as values. -/
structure IsMetric {α : Type} (dist : α → α → ℕ) : Prop where
  eq_zero_iff : ∀ a b, dist a b = 0 ↔ a = b
  comm : ∀ a b, dist a b = dist b a
  triangle : ∀ a b c, dist a c ≤ dist a b + dist b c

/-- Two bytes that are the same, but for the sign if they are read as numbers with one. -/
def SameButSign (x y : UInt8) : Prop := x = y ∨ x = -y

instance (x y : UInt8) : Decidable (SameButSign x y) := inferInstanceAs (Decidable (_ ∨ _))

end Tox4j.DhtNode
