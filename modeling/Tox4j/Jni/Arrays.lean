import Mathlib.Tactic

/-!
# `jniutil.h`: Java arrays in native code

A Java array has less than `2 ^ 31` elements. `ByteArray` and `ShortArray` take a reference to one,
which may be null.
-/

namespace Tox4j.Jni

/-- A Java array. -/
structure JavaArray (α : Type) where
  elements : List α
  length_lt : elements.length < 2 ^ 31
  deriving DecidableEq, Repr

namespace JavaArray

variable {α : Type}

/-- `GetArrayLength`, and 0 for null. -/
def length : Option (JavaArray α) → ℕ
  | none => 0
  | some array => array.elements.length

theorem length_lt_two_pow (array : Option (JavaArray α)) : length array < 2 ^ 31 := by
  cases array with
  | none => exact Nat.two_pow_pos 31
  | some array => exact array.length_lt

end JavaArray

/-- `ByteArray`. -/
structure ByteArray where
  byteArray : Option (JavaArray Int8)

namespace ByteArray

/-- A null pointer for null. -/
def data (self : ByteArray) : Option (List UInt8) :=
  self.byteArray.map fun array => array.elements.map Int8.toUInt8

def size (self : ByteArray) : UInt64 := UInt64.ofNat (JavaArray.length self.byteArray)

def empty (self : ByteArray) : Bool := self.size == 0

end ByteArray

/-- `ShortArray`. -/
structure ShortArray where
  jArray : Option (JavaArray Int16)

namespace ShortArray

/-- The constructor, which takes an array without elements for null. -/
def ofJava (jArray : Option (JavaArray Int16)) : ShortArray where
  jArray := if JavaArray.length jArray ≠ 0 then jArray else none

def data (self : ShortArray) : Option (List Int16) :=
  self.jArray.map JavaArray.elements

def size (self : ShortArray) : UInt64 := UInt64.ofNat (JavaArray.length self.jArray)

end ShortArray

end Tox4j.Jni
