import Mathlib.Tactic.Common

/-!
# Readers of byte strings

A reader takes bytes from the front of a buffer, and raises an exception when there are too
few. Its value may itself be a result: an error that is returned, not raised. `Reader.Safe` says
that a reader raises nothing, whatever it returns.
-/

namespace Tox4j.Misc

/-- A byte string of a fixed size. -/
@[ext]
structure Sized (n : ℕ) where
  bytes : List UInt8
  size : bytes.length = n
  deriving DecidableEq, Repr

theorem Sized.exists_cons {n : ℕ} (bs : Sized (n + 1)) :
    ∃ (b : UInt8) (rest : Sized n), bs.bytes = b :: rest.bytes := by
  obtain ⟨bytes, size⟩ := bs
  cases bytes with
  | nil => cases size
  | cons b rest => exact ⟨b, ⟨rest, by simpa using size⟩, rfl⟩

/-- A reader that may raise exceptions of the type `ε`. -/
def Reader (ε α : Type) := List UInt8 → Except ε (α × List UInt8)

namespace Reader

variable {ε δ α β : Type}

instance : Monad (Reader ε) where
  pure a := fun buf => .ok (a, buf)
  bind r f := fun buf =>
    match r buf with
    | .error e => .error e
    | .ok (a, rest) => f a rest

/-- The next `n` bytes. -/
def take (short : ε) (n : ℕ) : Reader ε (Sized n) := fun buf =>
  if h : n ≤ buf.length then .ok (⟨buf.take n, by simp [h]⟩, buf.drop n) else .error short

/-- Everything that is left. -/
def rest : Reader ε (List UInt8) := fun buf => .ok (buf, [])

/-- Reads from another buffer. -/
def within (other : List UInt8) (r : Reader ε α) : Reader ε α := fun buf =>
  match r other with
  | .error e => .error e
  | .ok (a, _) => .ok (a, buf)

/-- Goes on only with a value: the `>>=` of results, inside a reader. -/
def onOk (r : Reader ε (Except δ α)) (f : α → Reader ε (Except δ β)) : Reader ε (Except δ β) := do
  match ← r with
  | .error e => return .error e
  | .ok a => f a

/-- Changes the value: the `>>|` of results, inside a reader. -/
def mapOk (r : Reader ε (Except δ α)) (f : α → β) : Reader ε (Except δ β) :=
  r.onOk fun a => pure (.ok (f a))

section

variable {r : Reader ε α} {f : α → Reader ε β} {buf left : List UInt8} {a : α} {e : ε}

theorem bind_ok (h : r buf = .ok (a, left)) : (r >>= f) buf = f a left := by
  simp only [bind, h]

theorem bind_error (h : r buf = .error e) : (r >>= f) buf = .error e := by
  simp only [bind, h]

theorem take_append {n : ℕ} (short : ε) (bs : Sized n) (left : List UInt8) :
    take short n (bs.bytes ++ left) = .ok (bs, left) := by
  have hle : n ≤ (bs.bytes ++ left).length := by simp [bs.size]
  rw [take, dif_pos hle]
  simp only [Except.ok.injEq, Prod.mk.injEq]
  exact ⟨Sized.ext (List.take_left' bs.size), List.drop_left' bs.size⟩

theorem take_short {n : ℕ} (short : ε) (h : buf.length < n) : take short n buf = .error short :=
  dif_neg (Nat.not_le.mpr h)

/-- How a result is reached in two stages. -/
theorem bind_eq_ok {x : β × List UInt8} :
    (r >>= f) buf = .ok x ↔ ∃ a mid, r buf = .ok (a, mid) ∧ f a mid = .ok x := by
  constructor
  · intro h
    cases hr : r buf with
    | error e =>
      rw [bind_error hr] at h
      cases h
    | ok result =>
      obtain ⟨a, mid⟩ := result
      rw [bind_ok hr] at h
      exact ⟨a, mid, rfl, h⟩
  · intro h
    obtain ⟨a, mid, hr, hf⟩ := h
    rw [bind_ok hr, hf]

theorem exists_append {n : ℕ} (h : n ≤ buf.length) :
    ∃ (bs : Sized n) (left : List UInt8), buf = bs.bytes ++ left :=
  ⟨⟨buf.take n, by simp [h]⟩, buf.drop n, (List.take_append_drop n buf).symm⟩

theorem take_eq_ok {n : ℕ} {short : ε} {bs : Sized n} :
    take short n buf = .ok (bs, left) ↔ buf = bs.bytes ++ left := by
  constructor
  · intro h
    by_cases hshort : buf.length < n
    · rw [take_short short hshort] at h
      cases h
    · obtain ⟨bs', left', rfl⟩ := exists_append (Nat.not_lt.mp hshort)
      rw [take_append] at h
      cases h
      rfl
  · intro h
    rw [h, take_append]

end

theorem within_ok {other buf left : List UInt8} {r : Reader ε α} {a : α}
    (h : r other = .ok (a, left)) : within other r buf = .ok (a, buf) := by
  simp only [within, h]

theorem within_raises {other buf : List UInt8} {r : Reader ε α} {e : ε}
    (h : r other = .error e) : within other r buf = .error e := by
  simp only [within, h]

section

variable {r : Reader ε (Except δ α)} {f : α → Reader ε (Except δ β)} {buf left : List UInt8}

theorem onOk_ok {a : α} (h : r buf = .ok (.ok a, left)) : r.onOk f buf = f a left := bind_ok h

theorem onOk_err {e : δ} (h : r buf = .ok (.error e, left)) :
    r.onOk f buf = .ok (.error e, left) := bind_ok h

theorem onOk_raises {e : ε} (h : r buf = .error e) : r.onOk f buf = .error e := bind_error h

/-- Only what the reader makes of the buffer matters. -/
theorem onOk_congr {r' : Reader ε (Except δ α)} {buf' : List UInt8} (h : r buf = r' buf') :
    r.onOk f buf = r'.onOk f buf' := by
  simp only [onOk, bind, h]

/-- How a value is reached in two stages. -/
theorem onOk_eq_ok {b : β} :
    r.onOk f buf = .ok (.ok b, left) ↔
      ∃ a mid, r buf = .ok (.ok a, mid) ∧ f a mid = .ok (.ok b, left) := by
  constructor
  · intro h
    cases hr : r buf with
    | error e =>
      rw [onOk_raises hr] at h
      cases h
    | ok result =>
      obtain ⟨a | a, mid⟩ := result
      · rw [onOk_err hr] at h
        cases h
      · rw [onOk_ok hr] at h
        exact ⟨a, mid, rfl, h⟩
  · rintro ⟨a, mid, hr, hf⟩
    rw [onOk_ok hr, hf]

theorem mapOk_ok {g : α → β} {a : α} (h : r buf = .ok (.ok a, left)) :
    r.mapOk g buf = .ok (.ok (g a), left) := onOk_ok h

theorem mapOk_err {g : α → β} {e : δ} (h : r buf = .ok (.error e, left)) :
    r.mapOk g buf = .ok (.error e, left) := onOk_err h

theorem mapOk_raises {g : α → β} {e : ε} (h : r buf = .error e) :
    r.mapOk g buf = .error e := onOk_raises h

theorem mapOk_congr {r' : Reader ε (Except δ α)} {buf' : List UInt8} {g : α → β}
    (h : r buf = r' buf') : r.mapOk g buf = r'.mapOk g buf' := onOk_congr h

theorem mapOk_mapOk {γ : Type} (g : α → β) (k : β → γ) :
    (r.mapOk g).mapOk k = r.mapOk (fun a => k (g a)) := by
  funext buf
  cases hr : r buf with
  | error e => rw [mapOk_raises (mapOk_raises hr), mapOk_raises hr]
  | ok result =>
    obtain ⟨e | a, left⟩ := result
    · rw [mapOk_err (mapOk_err hr), mapOk_err hr]
    · rw [mapOk_ok (mapOk_ok hr), mapOk_ok hr]

theorem mapOk_within {other : List UInt8} (g : α → β) :
    (within other r).mapOk g = within other (r.mapOk g) := by
  funext buf
  cases hr : r other with
  | error e => rw [within_raises (mapOk_raises hr), mapOk_raises (within_raises hr)]
  | ok result =>
    obtain ⟨e | a, left⟩ := result
    · rw [within_ok (mapOk_err hr), mapOk_err (within_ok hr)]
    · rw [within_ok (mapOk_ok hr), mapOk_ok (within_ok hr)]

theorem mapOk_eq_ok {g : α → β} {b : β} :
    r.mapOk g buf = .ok (.ok b, left) ↔ ∃ a, r buf = .ok (.ok a, left) ∧ g a = b := by
  constructor
  · intro h
    obtain ⟨a, mid, hr, hg⟩ := onOk_eq_ok.mp h
    cases hg
    exact ⟨a, hr, rfl⟩
  · rintro ⟨a, hr, rfl⟩
    exact onOk_eq_ok.mpr ⟨a, left, hr, rfl⟩

end

/-- The reader raises no exception on the buffer, and if it returns a value, that satisfies
    `Q`. -/
def Safe (r : Reader ε (Except δ α)) (Q : α → Prop) (buf : List UInt8) : Prop :=
  ∃ result left, r buf = .ok (result, left) ∧ ∀ a, result = .ok a → Q a

section

variable {r : Reader ε (Except δ α)} {f : α → Reader ε (Except δ β)} {buf left : List UInt8}
  {Q : α → Prop} {P : β → Prop}

theorem safe_of_ok {a : α} (h : r buf = .ok (.ok a, left)) : r.Safe Q buf ↔ Q a := by
  constructor
  · rintro ⟨result, left', hr, hQ⟩
    rw [h] at hr
    cases hr
    exact hQ a rfl
  · intro hQ
    refine ⟨.ok a, left, h, fun a' ha' => ?_⟩
    cases ha'
    exact hQ

theorem safe_of_err {e : δ} (h : r buf = .ok (.error e, left)) : r.Safe Q buf :=
  ⟨.error e, left, h, by simp⟩

theorem not_safe_of_raises {e : ε} (h : r buf = .error e) : ¬ r.Safe Q buf := by
  rintro ⟨result, left, hr, -⟩
  rw [h] at hr
  cases hr

theorem safe_congr {r' : Reader ε (Except δ α)} {buf' : List UInt8} (h : r buf = r' buf') :
    r.Safe Q buf ↔ r'.Safe Q buf' := by
  rw [Safe, Safe, h]

/-- Going on after a reader that returned a value. -/
theorem safe_onOk_of_ok {a : α} (h : r buf = .ok (.ok a, left)) :
    (r.onOk f).Safe P buf ↔ (f a).Safe P left := safe_congr (onOk_ok h)

theorem safe_onOk_of_err {e : δ} (h : r buf = .ok (.error e, left)) : (r.onOk f).Safe P buf :=
  safe_of_err (onOk_err h)

theorem not_safe_onOk_of_raises {e : ε} (h : r buf = .error e) : ¬ (r.onOk f).Safe P buf :=
  not_safe_of_raises (onOk_raises h)

theorem safe_within {other : List UInt8} : (within other r).Safe Q buf ↔ r.Safe Q other := by
  cases hr : r other with
  | error e => exact iff_of_false (not_safe_of_raises (within_raises hr)) (not_safe_of_raises hr)
  | ok result =>
    obtain ⟨e | a, left⟩ := result
    · exact iff_of_true (safe_of_err (within_ok hr)) (safe_of_err hr)
    · rw [safe_of_ok (within_ok hr), safe_of_ok hr]

theorem safe_mapOk {g : α → β} : (r.mapOk g).Safe P buf ↔ r.Safe (fun a => P (g a)) buf := by
  cases hr : r buf with
  | error e => exact iff_of_false (not_safe_onOk_of_raises hr) (not_safe_of_raises hr)
  | ok result =>
    obtain ⟨e | a, left⟩ := result
    · exact iff_of_true (safe_onOk_of_err hr) (safe_of_err hr)
    · rw [safe_of_ok hr, safe_of_ok (mapOk_ok hr)]

end

end Reader

end Tox4j.Misc
