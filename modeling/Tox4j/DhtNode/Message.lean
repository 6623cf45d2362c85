import Mathlib.Tactic
import Tox4j.Misc.Reader

/-!
# `message.ml`: buffers that are consumed and filled

A buffer is the list of the bytes in its window. The operations raise exceptions; besides,
functions return an `Or_error`.
-/

namespace Tox4j.DhtNode

open Tox4j.Misc

/-- The errors an `Or_error` is made of. -/
inductive Error where
  /-- `Dht.No_such_key`. -/
  | noSuchKey
  /-- `Packet.Format_error`. -/
  | formatError (what : String)
  /-- `Port.Range_error`. -/
  | rangeError
  /-- What `Or_error.try_with` makes of the exception of `Box.Bytes.fast_box_open`. -/
  | boxOpen
  deriving DecidableEq, Repr

/-- `Or_error.t`. -/
abbrev OrError (α : Type) := Except Error α

/-- An exception that is raised. -/
inductive Exn where
  /-- Of an `Iobuf`: less than what was asked for is left in the window. -/
  | iobuf
  /-- `Box.Size_mismatch`. -/
  | sizeMismatch
  /-- `Assert_failure`. -/
  | assertFailure (text : String)
  /-- `Char.of_int_exn`. -/
  | charOfInt (i : ℤ)
  /-- `Or_error.ok_exn`. -/
  | okExn (e : Error)
  deriving DecidableEq, Repr

/-- `Message.Consume.t`. -/
abbrev Consume := Reader Exn

namespace Consume

/-- A string of `len` bytes. -/
def string (len : ℕ) : Consume (Sized len) := Reader.take .iobuf len

/-- A string of everything that is left. -/
def all : Consume (List UInt8) := Reader.rest

def uint8 : Consume UInt8
  | [] => .error .iobuf
  | b :: rest => .ok (b, rest)

def uint16Be : Consume ℤ
  | hi :: lo :: rest => .ok (hi.toNat * 256 + lo.toNat, rest)
  | _ => .error .iobuf

/-- Eight bytes as a number, the most significant byte first. -/
def int64OfBytes (s : Sized 8) : Int64 :=
  (UInt64.ofNat (s.bytes.foldl (fun n b => n * 256 + b.toNat) 0)).toInt64

def int64Be : Consume Int64 := do
  let s ← string 8
  return int64OfBytes s

end Consume

/-- `Async.Std.Udp.default_capacity`. -/
def defaultCapacity : ℕ := 1472

/-- `Message.Fill.t`: what is in the buffer afterwards. -/
abbrev Fill := List UInt8 → Except Exn (List UInt8)

namespace Fill

def string (s : List UInt8) : Fill := fun buf =>
  if (buf ++ s).length ≤ defaultCapacity then .ok (buf ++ s) else .error .iobuf

def uint8 (i : ℕ) : Fill := string [UInt8.ofNat i]

/-- The bytes of a number, the most significant byte first. -/
def bytesOfInt64 (i : Int64) : Sized 8 :=
  ⟨[56, 48, 40, 32, 24, 16, 8, 0].map fun shift => UInt8.ofNat (i.toUInt64.toNat / 2 ^ shift), rfl⟩

def int64Be (i : Int64) : Fill := string (bytesOfInt64 i).bytes

end Fill

end Tox4j.DhtNode
