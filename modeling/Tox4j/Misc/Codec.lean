import Tox4j.Misc.Reader

/-!
# Elements one after the other

`Reader.Reads` says which elements a reader returns when it goes on with what it left, and
`Reader.ReadsCount` what comes of reading a number of them. A codec is a reader for what a writer
appends; then it also reads the elements that were written one after the other.
-/

namespace Tox4j.Misc

variable {ε δ α : Type}

namespace Reader

/-- The elements are returned one after the other. -/
inductive Reads (r : Reader ε (Except δ α)) : List α → List UInt8 → List UInt8 → Prop
  | nil (buf : List UInt8) : Reads r [] buf buf
  | cons {a : α} {as : List α} {buf mid left : List UInt8} :
      r buf = .ok (.ok a, mid) → Reads r as mid left → Reads r (a :: as) buf left

variable {r : Reader ε (Except δ α)} {as : List α} {buf left : List UInt8}

theorem reads_nil : r.Reads [] buf left ↔ buf = left := by
  constructor
  · intro h
    cases h
    rfl
  · intro h
    rw [h]
    exact .nil left

theorem reads_cons {a : α} :
    r.Reads (a :: as) buf left ↔ ∃ mid, r buf = .ok (.ok a, mid) ∧ r.Reads as mid left := by
  constructor
  · intro h
    cases h with
    | cons ha has => exact ⟨_, ha, has⟩
  · intro h
    rcases h with ⟨mid, ha, has⟩
    exact .cons ha has

/-- A reader for a layout reads the elements that are laid out. -/
theorem reads_iff_of_layout {layout : α → List UInt8}
    (h : ∀ {a : α} {buf left : List UInt8}, r buf = .ok (.ok a, left) ↔ buf = layout a ++ left) :
    r.Reads as buf left ↔ buf = as.flatMap layout ++ left := by
  induction as generalizing buf with
  | nil => exact reads_nil
  | cons a as ih =>
    rw [reads_cons, List.flatMap_cons, List.append_assoc]
    constructor
    · intro hreads
      rcases hreads with ⟨mid, ha, has⟩
      rw [h.mp ha, ih.mp has]
    · intro hbuf
      exact ⟨as.flatMap layout ++ left, h.mpr hbuf, ih.mpr rfl⟩

/-- What a number of elements takes of the buffer, if each takes `k` bytes at least. -/
theorem Reads.length_le {k : ℕ}
    (hk : ∀ {a : α} {buf left : List UInt8}, r buf = .ok (.ok a, left) →
      k + left.length ≤ buf.length) (h : r.Reads as buf left) :
    k * as.length + left.length ≤ buf.length := by
  induction h with
  | nil buf =>
    have hnone : k * ([] : List α).length = 0 := Nat.mul_zero k
    omega
  | @cons a as buf mid left ha has ih =>
    have hfirst := hk ha
    rw [List.length_cons, Nat.mul_succ]
    omega

/-- What comes of reading `n` elements: all of them, or what the reader made of the first bytes
    that are no element. -/
inductive ReadsCount (r : Reader ε (Except δ α)) (n : ℕ) (buf : List UInt8) :
    Except ε (Except δ (List α) × List UInt8) → Prop
  | all {as : List α} {left : List UInt8} :
      r.Reads as buf left → as.length = n → ReadsCount r n buf (.ok (.ok as, left))
  | fails {as : List α} {mid left : List UInt8} {e : δ} :
      r.Reads as buf mid → as.length < n → r mid = .ok (.error e, left) →
      ReadsCount r n buf (.ok (.error e, left))
  | raises {as : List α} {mid : List UInt8} {e : ε} :
      r.Reads as buf mid → as.length < n → r mid = .error e → ReadsCount r n buf (.error e)

/-- Something always comes of it. -/
theorem exists_readsCount (r : Reader ε (Except δ α)) (n : ℕ) (buf : List UInt8) :
    ∃ result, r.ReadsCount n buf result := by
  induction n generalizing buf with
  | zero => exact ⟨_, .all (.nil buf) rfl⟩
  | succ n ih =>
    cases ha : r buf with
    | error e => exact ⟨_, .raises (.nil buf) (Nat.succ_pos n) ha⟩
    | ok result =>
      rcases result with ⟨e | a, mid⟩
      · exact ⟨_, .fails (.nil buf) (Nat.succ_pos n) ha⟩
      · rcases ih mid with ⟨result, hcount⟩
        cases hcount with
        | all has hlength => exact ⟨_, .all (.cons ha has) (congrArg Nat.succ hlength)⟩
        | fails has hlength he => exact ⟨_, .fails (.cons ha has) (Nat.succ_lt_succ hlength) he⟩
        | raises has hlength he => exact ⟨_, .raises (.cons ha has) (Nat.succ_lt_succ hlength) he⟩

variable {n : ℕ}

theorem readsCount_ok : r.ReadsCount n buf (.ok (.ok as, left)) ↔
    as.length = n ∧ r.Reads as buf left := by
  constructor
  · intro h
    cases h with
    | all has hlength => exact ⟨hlength, has⟩
  · intro h
    exact .all h.2 h.1

theorem readsCount_fails {e : δ} : r.ReadsCount n buf (.ok (.error e, left)) ↔
    ∃ as mid, as.length < n ∧ r.Reads as buf mid ∧ r mid = .ok (.error e, left) := by
  constructor
  · intro h
    cases h with
    | fails has hlt he => exact ⟨_, _, hlt, has, he⟩
  · intro h
    rcases h with ⟨as, mid, hlt, has, he⟩
    exact .fails has hlt he

theorem readsCount_raises {e : ε} : r.ReadsCount n buf (.error e) ↔
    ∃ as mid, as.length < n ∧ r.Reads as buf mid ∧ r mid = .error e := by
  constructor
  · intro h
    cases h with
    | raises has hlt he => exact ⟨_, _, hlt, has, he⟩
  · intro h
    rcases h with ⟨as, mid, hlt, has, he⟩
    exact .raises has hlt he

end Reader

/-- What is written is appended, and it is read again whatever follows it. -/
structure Codec (r : Reader ε (Except δ α)) (w : α → List UInt8 → Except ε (List UInt8)) :
    Prop where
  read_written : ∀ {a : α} {buf buf' : List UInt8}, w a buf = .ok buf' →
    ∃ written, buf' = buf ++ written ∧ ∀ left, r (written ++ left) = .ok (.ok a, left)

/-- The same for elements that are written one after the other. -/
theorem Codec.reads_written {r : Reader ε (Except δ α)}
    {w : α → List UInt8 → Except ε (List UInt8)} (codec : Codec r w) {as : List α}
    {buf buf' : List UInt8} (h : as.foldlM (fun buf a => w a buf) buf = .ok buf') :
    ∃ written, buf' = buf ++ written ∧ ∀ left, r.Reads as (written ++ left) left := by
  induction as generalizing buf with
  | nil =>
    cases h
    exact ⟨[], (List.append_nil _).symm, .nil⟩
  | cons a as ih =>
    rw [List.foldlM_cons] at h
    cases hwrite : w a buf with
    | error e =>
      rw [hwrite] at h
      cases h
    | ok mid =>
      rw [hwrite] at h
      rcases codec.read_written hwrite with ⟨first, rfl, hread⟩
      rcases ih h with ⟨others, rfl, hreads⟩
      refine ⟨first ++ others, List.append_assoc buf first others, fun left => ?_⟩
      rw [List.append_assoc]
      exact .cons (hread (others ++ left)) (hreads left)

end Tox4j.Misc
