import Tox4j.DhtNode.Types
import Tox4j.Misc.BigEndian
import Tox4j.Misc.Numeral

/-!
# `inetAddr.ml` and `network.ml`: addresses as text

`send_loop` prints the address of a node and reads the text back to get the address it sends to.
-/

namespace Tox4j.DhtNode

open Tox4j.Misc

namespace InetAddr

/-- `%d`. -/
def decimal (b : UInt8) : List Char := Nat.toDigits 10 b.toNat

/-- `%x`. -/
def hexadecimal (b : UInt8) : List Char := Nat.toDigits 16 b.toNat

/-- `InetAddr.ipv4_to_string`. -/
def ipv4ToString (ip : Sized 4) : List Char :=
  ['.'].intercalate
    [decimal (ip.byte 0), decimal (ip.byte 1), decimal (ip.byte 2), decimal (ip.byte 3)]

/-- The pairs of bytes with no colon between them. -/
def groups (ip : Sized 16) : List (UInt8 × UInt8) :=
  [(ip.byte 0, ip.byte 1), (ip.byte 2, ip.byte 3), (ip.byte 4, ip.byte 5),
    (ip.byte 6, ip.byte 7), (ip.byte 8, ip.byte 9), (ip.byte 10, ip.byte 11),
    (ip.byte 12, ip.byte 13), (ip.byte 14, ip.byte 15)]

/-- `%x%x`. -/
def groupText (group : UInt8 × UInt8) : List Char :=
  hexadecimal group.1 ++ hexadecimal group.2

/-- `InetAddr.ipv6_to_string`. -/
def ipv6ToString (ip : Sized 16) : List Char := [':'].intercalate ((groups ip).map groupText)

/-- `InetAddr.to_string`. -/
def toString : InetAddr → List Char
  | .ipv4 ip => ipv4ToString ip
  | .ipv6 ip => ipv6ToString ip

/-- A byte in decimal. -/
def readByte (text : List Char) : Option UInt8 := do
  let n ← readNumeral 10 text
  if n < 256 then some (UInt8.ofNat n) else none

/-- Two bytes as one number, in up to four hexadecimal digits. -/
def readGroup (text : List Char) : Option (List UInt8) :=
  if text.length ≤ 4 then
    (readNumeral 16 text).map fun n => [UInt8.ofNat (n / 256), UInt8.ofNat (n % 256)]
  else none

/-- A byte string, if it has the size. -/
def ofBytes (n : ℕ) (bytes : List UInt8) : Option (Sized n) :=
  if h : bytes.length = n then some ⟨bytes, h⟩ else none

/-- Four bytes with dots between them. -/
def readIpv4 (text : List Char) : Option (Sized 4) := do
  let bytes ← (text.splitOn '.').mapM readByte
  ofBytes 4 bytes

/-- Eight groups with colons between them. -/
def readIpv6 (text : List Char) : Option (Sized 16) := do
  let bytes ← (text.splitOn ':').mapM readGroup
  ofBytes 16 bytes.flatten

/-- `Unix.Inet_addr.of_string`, on the forms above. -/
def ofString (text : List Char) : Option InetAddr :=
  match readIpv4 text with
  | some ip => some (.ipv4 ip)
  | none => (readIpv6 text).map .ipv6

/-- The second byte of every group is printed with two digits, or it has nothing in front of it
    that they could be counted to. -/
def NoZeroDropped : InetAddr → Prop
  | .ipv4 _ => True
  | .ipv6 ip => ∀ group ∈ groups ip, group.1 = 0 ∨ 16 ≤ group.2

end InetAddr

/-- Where `send_read_loop` sends the packets for a node. -/
def ConnectedNode.sendAddress {S : Sodium} (node : ConnectedNode S) : Option (InetAddr × Port) :=
  (InetAddr.ofString node.cnNode.nAddr.toString).map fun ip => (ip, node.cnNode.nPort)

end Tox4j.DhtNode
