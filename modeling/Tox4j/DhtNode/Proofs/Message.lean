import Tox4j.DhtNode.Types
import Tox4j.Misc.BigEndian

/-!
# Reading back what was filled in
-/

namespace Tox4j.DhtNode

open Tox4j.Misc

theorem string_append {n : ℕ} (bs : Sized n) (left : List UInt8) :
    Consume.string n (bs.bytes ++ left) = .ok (bs, left) := Reader.take_append Exn.iobuf bs left

theorem string_short {n : ℕ} {buf : List UInt8} (h : buf.length < n) :
    Consume.string n buf = .error .iobuf := Reader.take_short Exn.iobuf h

theorem publicKey_unpack_append (publicKey : PublicKey) (left : List UInt8) :
    PublicKey.unpack (publicKey.bytes ++ left) = .ok (publicKey, left) :=
  string_append publicKey left

theorem publicKey_unpack_short {buf : List UInt8} (h : buf.length < 32) :
    PublicKey.unpack buf = .error .iobuf := string_short h

theorem nonce_unpack_append (nonce : Nonce) (left : List UInt8) :
    Nonce.unpack (nonce.bytes ++ left) = .ok (nonce, left) := string_append nonce left

theorem nonce_unpack_short {buf : List UInt8} (h : buf.length < 24) :
    Nonce.unpack buf = .error .iobuf := string_short h

/-- What is filled in two stages. -/
theorem fill_bind_eq_ok {x : Except Exn (List UInt8)} {fill : Fill} {buf : List UInt8} :
    (x >>= fill) = .ok buf ↔ ∃ mid, x = .ok mid ∧ fill mid = .ok buf := by
  cases x with
  | error e => simp [bind, Except.bind]
  | ok mid => simp [bind, Except.bind]

theorem fill_string_eq_ok {s buf buf' : List UInt8} (h : Fill.string s buf = .ok buf') :
    buf' = buf ++ s := by
  rw [Fill.string] at h
  split at h
  · cases h
    rfl
  · cases h

theorem all_eq (buf : List UInt8) : Consume.all buf = .ok (buf, []) := rfl

theorem uint8_cons (b : UInt8) (rest : List UInt8) : Consume.uint8 (b :: rest) = .ok (b, rest) :=
  rfl

/-- Two bytes make a number that is a port. -/
theorem uint16Be_append (bs : Sized 2) (left : List UInt8) :
    ∃ port : Port, Consume.uint16Be (bs.bytes ++ left) = .ok (port.toInt, left) := by
  obtain ⟨bytes, size⟩ := bs
  obtain ⟨hi, lo, rfl⟩ := List.length_eq_two.mp size
  have hhi := hi.toNat_lt
  have hlo := lo.toNat_lt
  exact ⟨⟨hi.toNat * 256 + lo.toNat, by omega, by omega⟩, rfl⟩

theorem uint16Be_short {buf : List UInt8} (h : buf.length < 2) :
    Consume.uint16Be buf = .error .iobuf := by
  rcases buf with _ | ⟨_, _ | ⟨_, rest⟩⟩
  · rfl
  · rfl
  · simp only [List.length_cons] at h
    omega

theorem bigEndian_bytesOfInt64 (i : Int64) :
    bigEndian (Fill.bytesOfInt64 i).bytes = i.toUInt64.toNat := by
  have hlt := i.toUInt64.toNat_lt
  calc bigEndian (Fill.bytesOfInt64 i).bytes
    _ = i.toUInt64.toNat % 256 ^ 8 := bigEndian_digits 8 i.toUInt64.toNat
    _ = i.toUInt64.toNat := Nat.mod_eq_of_lt hlt

theorem toNat_int64OfBytes (bs : Sized 8) :
    (Consume.int64OfBytes bs).toUInt64.toNat = bigEndian bs.bytes := by
  have hlt := bigEndian_lt bs.bytes
  rw [bs.size] at hlt
  rw [Consume.int64OfBytes, UInt64.toUInt64_toInt64, UInt64.toNat_ofNat']
  exact Nat.mod_eq_of_lt hlt

theorem bytesOfInt64_int64OfBytes (bs : Sized 8) :
    Fill.bytesOfInt64 (Consume.int64OfBytes bs) = bs := by
  rw [← Sized.bigEndian_inj, bigEndian_bytesOfInt64, toNat_int64OfBytes]

theorem int64OfBytes_bytesOfInt64 (i : Int64) :
    Consume.int64OfBytes (Fill.bytesOfInt64 i) = i := by
  show (UInt64.ofNat (bigEndian (Fill.bytesOfInt64 i).bytes)).toInt64 = i
  rw [bigEndian_bytesOfInt64, UInt64.ofNat_toNat, Int64.toInt64_toUInt64]

/-- The bytes of a number are the only ones that are read as it. -/
theorem int64OfBytes_eq_iff {bs : Sized 8} {i : Int64} :
    Consume.int64OfBytes bs = i ↔ bs = Fill.bytesOfInt64 i := by
  constructor
  · rintro rfl
    exact (bytesOfInt64_int64OfBytes bs).symm
  · rintro rfl
    exact int64OfBytes_bytesOfInt64 i

theorem int64Be_append (bs : Sized 8) (left : List UInt8) :
    Consume.int64Be (bs.bytes ++ left) = .ok (Consume.int64OfBytes bs, left) :=
  Reader.bind_ok (string_append bs left)

theorem int64Be_short {buf : List UInt8} (h : buf.length < 8) :
    Consume.int64Be buf = .error .iobuf :=
  Reader.bind_error (string_short h)

end Tox4j.DhtNode
