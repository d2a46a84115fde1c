import StoreBridge.Number.HexDigit
import StoreBridge.Number.Power

/-!
# Bytes as hexadecimal text
-/

namespace StoreBridge

/-- A sequence of bytes. -/
abbrev Bytes := List UInt8

namespace Bytes

/-- Two hexadecimal digits. -/
def hexOfByte (b : UInt8) : List Char :=
  [hexChar (b.toNat / 16), hexChar (b.toNat % 16)]

/-- The bytes in hexadecimal, in lower case. -/
def toHex (bs : Bytes) : List Char :=
  bs.flatMap hexOfByte

/-- The bytes that pairs of hexadecimal digits of either case spell. -/
def ofHex? : List Char → Option Bytes
  | [] => some []
  | [_] => none
  | a :: b :: rest => do
    let high ← hexValue? a
    let low ← hexValue? b
    let bytes ← ofHex? rest
    return UInt8.ofNat (16 * high + low) :: bytes

/-- An unsigned number, most significant byte first. -/
def toNat (bs : Bytes) : Nat :=
  bs.foldl (fun n b => 256 * n + b.toNat) 0

/-- The signed number that an unsigned one of `bits` bits stands for. -/
def signed (bits n : Nat) : Int :=
  if n < pow2 (bits - 1) then n else (n : Int) - pow2 bits

/-- The text that bytes encode, if they are well-formed UTF-8. -/
def toText? (bs : Bytes) : Option String :=
  String.fromUTF8? ⟨bs.toArray⟩

/-- The bytes of a text in UTF-8. -/
def ofText (s : String) : Bytes :=
  s.toUTF8.toList

end Bytes

end StoreBridge
