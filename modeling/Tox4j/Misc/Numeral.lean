import Mathlib.Tactic.IntervalCases
import Mathlib.Tactic.Common

/-!
# Numerals

Reading back what `Nat.toDigits` writes, in any base up to 16.
-/

namespace Tox4j.Misc

/-- The value of a digit, in either case. -/
def digitValue (c : Char) : Option ℕ :=
  if '0' ≤ c ∧ c ≤ '9' then some (c.toNat - '0'.toNat)
  else if 'a' ≤ c ∧ c ≤ 'f' then some (c.toNat - 'a'.toNat + 10)
  else if 'A' ≤ c ∧ c ≤ 'F' then some (c.toNat - 'A'.toNat + 10)
  else none

/-- Reads on after the number `n`. -/
def readDigits (base : ℕ) : ℕ → List Char → Option ℕ
  | n, [] => some n
  | n, c :: cs =>
    match digitValue c with
    | none => none
    | some d => if d < base then readDigits base (n * base + d) cs else none

/-- A number, of at least one digit. -/
def readNumeral (base : ℕ) (text : List Char) : Option ℕ :=
  if text = [] then none else readDigits base 0 text

variable {base : ℕ}

theorem digitValue_digitChar {d : ℕ} (h : d < 16) : digitValue d.digitChar = some d := by
  interval_cases d <;> rfl

theorem readDigits_digitChar {d : ℕ} (hbase : base ≤ 16) (h : d < base) (n : ℕ) :
    readDigits base n [d.digitChar] = some (n * base + d) := by
  have hd : d < 16 := Nat.lt_of_lt_of_le h hbase
  simp only [readDigits, digitValue_digitChar hd, if_pos h]

theorem readDigits_append (n : ℕ) (xs ys : List Char) :
    readDigits base n (xs ++ ys) =
      (readDigits base n xs).bind fun m => readDigits base m ys := by
  induction xs generalizing n with
  | nil => rfl
  | cons x xs ih =>
    rw [List.cons_append, readDigits, readDigits]
    cases digitValue x with
    | none => rfl
    | some d =>
      show (if d < base then readDigits base (n * base + d) (xs ++ ys) else none) =
        (if d < base then readDigits base (n * base + d) xs else none).bind _
      split
      · exact ih _
      · rfl

/-- What is written behind a number shifts it to the left. -/
theorem readDigits_toDigits (hone : 1 < base) (hbase : base ≤ 16) (n m : ℕ) :
    readDigits base n (Nat.toDigits base m) =
      some (n * base ^ (Nat.toDigits base m).length + m) := by
  induction m using Nat.strongRecOn with
  | ind m ih =>
    by_cases hm : m < base
    · rw [Nat.toDigits_of_lt_base hm, readDigits_digitChar hbase hm, List.length_singleton,
        Nat.pow_one]
    · have hle : base ≤ m := Nat.not_lt.mp hm
      have hdiv : m / base < m := Nat.div_lt_self (by omega) hone
      have hmod : m % base < base := Nat.mod_lt m (by omega)
      rw [Nat.toDigits_of_base_le hone hle, readDigits_append, ih (m / base) hdiv,
        Option.bind_some, readDigits_digitChar hbase hmod, List.length_append,
        List.length_singleton, Nat.pow_succ, Nat.add_mul, Nat.mul_assoc, Nat.add_assoc,
        Nat.div_add_mod']

theorem readNumeral_toDigits (hone : 1 < base) (hbase : base ≤ 16) (m : ℕ) :
    readNumeral base (Nat.toDigits base m) = some m := by
  rw [readNumeral, if_neg Nat.toDigits_ne_nil, readDigits_toDigits hone hbase, Nat.zero_mul,
    Nat.zero_add]

/-- Two numerals without anything between them. -/
theorem readNumeral_append (hone : 1 < base) (hbase : base ≤ 16) (n m : ℕ) :
    readNumeral base (Nat.toDigits base n ++ Nat.toDigits base m) =
      some (n * base ^ (Nat.toDigits base m).length + m) := by
  have hne : Nat.toDigits base n ++ Nat.toDigits base m ≠ [] := by
    intro h
    exact Nat.toDigits_ne_nil (List.append_eq_nil_iff.mp h).1
  rw [readNumeral, if_neg hne, readDigits_append, readDigits_toDigits hone hbase,
    Option.bind_some, readDigits_toDigits hone hbase, Nat.zero_mul, Nat.zero_add]

/-- Numerals are made of digits. -/
theorem exists_digitChar_of_mem (hone : 1 < base) {m : ℕ} {c : Char}
    (hc : c ∈ Nat.toDigits base m) : ∃ d < base, c = d.digitChar := by
  induction m using Nat.strongRecOn with
  | ind m ih =>
    by_cases hm : m < base
    · rw [Nat.toDigits_of_lt_base hm] at hc
      exact ⟨m, hm, List.mem_singleton.mp hc⟩
    · have hle : base ≤ m := Nat.not_lt.mp hm
      rw [Nat.toDigits_of_base_le hone hle] at hc
      rcases List.mem_append.mp hc with hc | hc
      · exact ih (m / base) (Nat.div_lt_self (by omega) hone) hc
      · exact ⟨m % base, Nat.mod_lt m (by omega), List.mem_singleton.mp hc⟩

theorem not_mem_toDigits (hone : 1 < base) (hbase : base ≤ 16) {c : Char}
    (hc : digitValue c = none) (m : ℕ) : c ∉ Nat.toDigits base m := by
  intro hmem
  obtain ⟨d, hd, rfl⟩ := exists_digitChar_of_mem hone hmem
  rw [digitValue_digitChar (Nat.lt_of_lt_of_le hd hbase)] at hc
  cases hc

end Tox4j.Misc
