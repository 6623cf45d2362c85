import Mathlib.Data.List.Induction
import Mathlib.Data.Nat.Bitwise
import Tox4j.Misc.Reader

/-!
# Byte strings as numbers

The number of a byte string has the most significant byte first. Byte strings of one length are
given here as the images of one list, so that what holds byte by byte carries over to the numbers.
-/

namespace Tox4j.Misc

/-- The number with the given bytes. -/
def bigEndian (bytes : List UInt8) : ℕ := bytes.foldl (fun n b => n * 256 + b.toNat) 0

@[simp] theorem bigEndian_nil : bigEndian [] = 0 := rfl

@[simp] theorem bigEndian_concat (bytes : List UInt8) (b : UInt8) :
    bigEndian (bytes ++ [b]) = bigEndian bytes * 256 + b.toNat := by
  rw [bigEndian, List.foldl_append]
  rfl

theorem bigEndian_lt (bytes : List UInt8) : bigEndian bytes < 256 ^ bytes.length := by
  induction bytes using List.reverseRecOn with
  | nil => exact Nat.zero_lt_one
  | append_singleton bytes b ih =>
    have hb := b.toNat_lt
    rw [bigEndian_concat, List.length_append, List.length_singleton, Nat.pow_succ]
    omega

theorem map_reverse_range_succ {α : Type} (f : ℕ → α) (k : ℕ) :
    (List.range (k + 1)).reverse.map f =
      ((List.range k).reverse.map fun i => f (i + 1)) ++ [f 0] := by
  rw [List.range_succ_eq_map, List.reverse_cons, List.map_append, ← List.map_reverse,
    List.map_map]
  rfl

/-- The bytes that a number has in base 256 are those of the number. -/
theorem bigEndian_digits (k n : ℕ) :
    bigEndian ((List.range k).reverse.map fun i => UInt8.ofNat (n / 256 ^ i)) = n % 256 ^ k := by
  induction k generalizing n with
  | zero => exact (Nat.mod_one n).symm
  | succ k ih =>
    have hshift : ((List.range k).reverse.map fun i => UInt8.ofNat (n / 256 ^ (i + 1))) =
        (List.range k).reverse.map fun i => UInt8.ofNat (n / 256 / 256 ^ i) := by
      simp only [Nat.pow_succ', Nat.div_div_eq_div_mul]
    rw [map_reverse_range_succ, hshift, bigEndian_concat, ih, Nat.pow_zero, Nat.div_one,
      UInt8.toNat_ofNat', Nat.pow_succ' (m := 256), Nat.mod_mul]
    omega

theorem and_ff_concat (n : ℕ) (b : UInt8) : (n * 256 + b.toNat) &&& 0xff = b.toNat := by
  have hb := b.toNat_lt
  have hmask : (n * 256 + b.toNat) &&& 0xff = (n * 256 + b.toNat) % 256 :=
    Nat.and_two_pow_sub_one_eq_mod _ 8
  omega

theorem shiftRight_concat (n : ℕ) (b : UInt8) : (n * 256 + b.toNat) >>> 8 = n := by
  have hb := b.toNat_lt
  have hshift : (n * 256 + b.toNat) >>> 8 = (n * 256 + b.toNat) / 256 :=
    Nat.shiftRight_eq_div_pow _ 8
  omega

/-- Putting a last byte on, with bitwise operations. -/
theorem or_shiftLeft_eq (n : ℕ) (b : UInt8) : b.toNat ||| n <<< 8 = n * 256 + b.toNat := by
  rw [Nat.or_comm, ← Nat.shiftLeft_add_eq_or_of_lt b.toNat_lt, Nat.shiftLeft_eq]

theorem concat_xor (m n : ℕ) (b c : UInt8) :
    (m * 256 + b.toNat) ^^^ (n * 256 + c.toNat) = (m ^^^ n) * 256 + (b ^^^ c).toNat := by
  have hb : (b ^^^ c).toNat < 2 ^ 8 := (b ^^^ c).toNat_lt
  have hdiv : ((m * 256 + b.toNat) ^^^ (n * 256 + c.toNat)) / 2 ^ 8 = m ^^^ n := by
    rw [Nat.xor_div_two_pow, ← Nat.shiftRight_eq_div_pow, ← Nat.shiftRight_eq_div_pow,
      shiftRight_concat, shiftRight_concat]
  have hmod : ((m * 256 + b.toNat) ^^^ (n * 256 + c.toNat)) % 2 ^ 8 = (b ^^^ c).toNat := by
    rw [Nat.xor_mod_two_pow, ← Nat.and_two_pow_sub_one_eq_mod, ← Nat.and_two_pow_sub_one_eq_mod,
      UInt8.toNat_xor]
    exact congrArg₂ _ (and_ff_concat m b) (and_ff_concat n c)
  omega

section

variable {α : Type} {f g h : α → UInt8} {as : List α}

theorem bigEndian_map_inj :
    bigEndian (as.map f) = bigEndian (as.map g) ↔ ∀ a ∈ as, f a = g a := by
  induction as using List.reverseRecOn with
  | nil => simp
  | append_singleton as a ih =>
    have hf := (f a).toNat_lt
    have hg := (g a).toNat_lt
    have hbytes : f a = g a ↔ (f a).toNat = (g a).toNat := UInt8.toNat_inj.symm
    simp only [List.mem_append, List.mem_singleton, or_imp, forall_and, forall_eq]
    rw [← ih, hbytes, List.map_append, List.map_append, List.map_singleton, List.map_singleton,
      bigEndian_concat, bigEndian_concat]
    omega

theorem bigEndian_map_eq_zero : bigEndian (as.map f) = 0 ↔ ∀ a ∈ as, f a = 0 := by
  have hzero : bigEndian (as.map fun _ => 0) = 0 := by
    induction as using List.reverseRecOn with
    | nil => rfl
    | append_singleton as a ih =>
      rw [List.map_append, List.map_singleton, bigEndian_concat, ih]
      rfl
  have hinj : bigEndian (as.map f) = bigEndian (as.map fun _ => 0) ↔ ∀ a ∈ as, f a = 0 :=
    bigEndian_map_inj
  rwa [hzero] at hinj

/-- Byte strings add up to at least a third one, when their bytes do. -/
theorem bigEndian_map_le_add (hle : ∀ a, (f a).toNat ≤ (g a).toNat + (h a).toNat) :
    bigEndian (as.map f) ≤ bigEndian (as.map g) + bigEndian (as.map h) := by
  induction as using List.reverseRecOn with
  | nil => exact Nat.le_refl 0
  | append_singleton as a ih =>
    have ha := hle a
    simp only [List.map_append, List.map_cons, List.map_nil, bigEndian_concat]
    omega

theorem bigEndian_map_xor :
    bigEndian (as.map fun a => f a ^^^ g a) = bigEndian (as.map f) ^^^ bigEndian (as.map g) := by
  induction as using List.reverseRecOn with
  | nil => exact (Nat.xor_self 0).symm
  | append_singleton as a ih =>
    simp only [List.map_append, List.map_cons, List.map_nil, bigEndian_concat, ih, concat_xor]

end

namespace Sized

variable {n : ℕ}

/-- The byte at a position. -/
def byte (bs : Sized n) (i : Fin n) : UInt8 := bs.bytes.get (i.cast bs.size.symm)

theorem bytes_eq_map (bs : Sized n) : bs.bytes = (List.finRange n).map bs.byte := by
  apply List.ext_getElem
  · rw [bs.size, List.length_map, List.length_finRange]
  · intro i _ _
    simp [byte]

theorem eq_iff_byte {as bs : Sized n} : as = bs ↔ ∀ i, as.byte i = bs.byte i := by
  constructor
  · intro h i
    rw [h]
  · intro h
    apply Sized.ext
    rw [bytes_eq_map as, bytes_eq_map bs, funext h]

/-- Byte strings of one size are told apart by their numbers. -/
theorem bigEndian_inj {as bs : Sized n} : bigEndian as.bytes = bigEndian bs.bytes ↔ as = bs := by
  rw [bytes_eq_map as, bytes_eq_map bs, bigEndian_map_inj, eq_iff_byte]
  simp only [List.mem_finRange, true_imp_iff]

theorem zip_bytes (as bs : Sized n) :
    as.bytes.zip bs.bytes = (List.finRange n).map fun i => (as.byte i, bs.byte i) := by
  rw [bytes_eq_map as, bytes_eq_map bs, List.zip_map']

end Sized

end Tox4j.Misc
