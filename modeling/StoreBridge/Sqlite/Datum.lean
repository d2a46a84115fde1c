import StoreBridge.Argument
import StoreBridge.Bytes.Hex
import StoreBridge.Number.Reading
import StoreBridge.Number.Shortest

/-!
# Stored values

The values of the embedded engine: null, integers of 64 bits, doubles, text and bytes. Every kind
can be read as every other one, and any two values can be compared: null comes first, then numbers
by their exact value, then text, then bytes.
-/

namespace StoreBridge

/-- A value of the embedded engine. -/
inductive Datum where
  | null
  | int (i : Int)
  | real (x : Binary64)
  | text (s : String)
  | blob (bytes : Bytes)
  deriving DecidableEq, Repr, Inhabited

/-- The blanks that may stand around a number. -/
def isNumberBlank (c : Char) : Bool :=
  c = ' ' || ('\t' ≤ c && c ≤ '\r')

/-- The number at the beginning of a text. -/
structure LeadingNumber where
  negative : Bool
  decimal : DecimalText
  /-- There is neither a point nor an exponent. -/
  isWhole : Bool
  /-- The number has digits, and only blanks follow. -/
  isAll : Bool

namespace LeadingNumber

/-- An exponent with at least one digit, and what follows it. -/
def exponent? : List Char → Option (Int × List Char)
  | c :: rest =>
    if c = 'e' ∨ c = 'E' then
      let (negative, rest) := readSign rest
      let digits := rest.takeWhile isDigit
      if digits = [] then none
      else
        let n : Int := natOfDigits digits
        some (if negative then -n else n, rest.dropWhile isDigit)
    else none
  | [] => none

/-- Reads the number at the beginning of a text. -/
def read (cs : List Char) : LeadingNumber :=
  let (negative, cs) := readSign (cs.dropWhile isNumberBlank)
  let whole := cs.takeWhile isDigit
  let rest := cs.dropWhile isDigit
  let (fraction, pointed, rest) :=
    match rest with
    | '.' :: after => (after.takeWhile isDigit, true, after.dropWhile isDigit)
    | _ => ([], false, rest)
  let hasDigits := whole ≠ [] || fraction ≠ []
  -- An exponent needs digits in front of it; without them it is text behind the number.
  match if hasDigits then exponent? rest else none with
  | some (e, rest) =>
    ⟨negative, ⟨whole, fraction, e⟩, false, rest.all isNumberBlank⟩
  | none => ⟨negative, ⟨whole, fraction, 0⟩, !pointed, hasDigits && rest.all isNumberBlank⟩

/-- The number as a double. -/
def toReal (n : LeadingNumber) : Binary64 :=
  n.decimal.toDouble n.negative

/-- The digits before the point as an integer. -/
def wholePart (n : LeadingNumber) : Int :=
  let magnitude : Int := natOfDigits n.decimal.whole
  if n.negative then -magnitude else magnitude

/-- The number as a value: an integer if it is written as one and fits 64 bits. -/
def toDatum (n : LeadingNumber) : Datum :=
  if n.isWhole && isInt64 n.wholePart then .int n.wholePart else .real n.toReal

end LeadingNumber

namespace Datum

/-- A truth value. -/
def ofBool (b : Bool) : Datum := .int (if b then 1 else 0)

/-- A double; one that is no number becomes null. -/
def ofReal (x : Binary64) : Datum :=
  if x.isNaN then .null else .real x

/-- The value of a bound argument. -/
def ofArgument : Argument → Datum
  | .null => .null
  | .bool b => ofBool b
  | .int i => .int i
  | .float x => ofReal x
  | .text s => .text s
  | .json value => .text value.text

/-- Cuts an integer to 64 bits. -/
def clampInt64 (i : Int) : Int :=
  max minInt64 (min maxInt64 i)

/-- Bytes read as text; bytes that are no UTF-8 are replaced one by one. -/
def textOfBytes (bs : Bytes) : String :=
  (Bytes.toText? bs).getD (String.ofList (bs.map fun b => Char.ofNat b.toNat))

/-- The value as text; null has none. -/
def toText : Datum → String
  | .null => ""
  | .int i => intText i
  | .real x => String.ofList x.fifteenDigits
  | .text s => s
  | .blob bs => textOfBytes bs

/-- The value as an integer: doubles are cut toward zero and to 64 bits, of text the leading digits
count. -/
def toInt : Datum → Int
  | .null => 0
  | .int i => i
  | .real x => x.saturate minInt64 maxInt64
  | .text s => clampInt64 (LeadingNumber.read s.toList).wholePart
  | .blob bs => clampInt64 (LeadingNumber.read (textOfBytes bs).toList).wholePart

/-- The value as a double; of text the leading number counts. -/
def toReal : Datum → Binary64
  | .null => Binary64.zero false
  | .int i => Binary64.ofInt i
  | .real x => x
  | .text s => (LeadingNumber.read s.toList).toReal
  | .blob bs => (LeadingNumber.read (textOfBytes bs).toList).toReal

/-- The value as a number, for arithmetic: an integer where it is written as one. -/
def toNumber : Datum → Datum
  | .text s => (LeadingNumber.read s.toList).toDatum
  | .blob bs => (LeadingNumber.read (textOfBytes bs).toList).toDatum
  | d => d

/-- The value as bytes. -/
def toBytes : Datum → Bytes
  | .blob bs => bs
  | d => Bytes.ofText d.toText

/-- The truth of a value; null is neither true nor false. -/
def truth? : Datum → Option Bool
  | .null => none
  | .int i => some (i != 0)
  | d => some (d.toReal.units != 0 || !d.toReal.isFinite)

/-- The name of a value's kind. -/
def kindName : Datum → String
  | .null => "null"
  | .int _ => "integer"
  | .real _ => "real"
  | .text _ => "text"
  | .blob _ => "blob"

/-- A double that is a whole number inside the range of integers, as an integer. -/
def wholeInt? (x : Binary64) : Option Int :=
  if x.isIntegral && minInt64 < x.truncate && x.truncate < maxInt64 then some x.truncate else none

end Datum

/-- How two texts are compared. -/
inductive Collation where
  | binary
  /-- ASCII letters count the same in both cases. -/
  | nocase
  /-- Blanks at the end do not count. -/
  | rtrim
  deriving DecidableEq, Repr, Inhabited

namespace Collation

/-- The collation with a name. -/
def ofName? (name : String) : Option Collation :=
  let cs := name.toList.map asciiLower
  if cs = "binary".toList then some .binary
  else if cs = "nocase".toList then some .nocase
  else if cs = "rtrim".toList then some .rtrim
  else none

/-- The characters that count in a comparison. -/
def key : Collation → String → List Char
  | .binary, s => s.toList
  | .nocase, s => s.toList.map asciiLower
  | .rtrim, s => (s.toList.reverse.dropWhile (· = ' ')).reverse

end Collation

/-- Compares two lists item by item; a list comes before the lists that continue it. -/
def compareLists {α : Type} (order : α → α → Ordering) : List α → List α → Ordering
  | [], [] => .eq
  | [], _ :: _ => .lt
  | _ :: _, [] => .gt
  | a :: as, b :: bs => (order a b).then (compareLists order as bs)

namespace Datum

/-- The place of a value's kind in the order of kinds. -/
def rank : Datum → Nat
  | .null => 0
  | .int _ => 1
  | .real _ => 1
  | .text _ => 2
  | .blob _ => 3

/-- The order of two values. Null equals null here. -/
def order (c : Collation) : Datum → Datum → Ordering
  | .int a, .int b => compare a b
  | .int a, .real y => ((y.compareInt? a).getD .eq).swap
  | .real x, .int b => (x.compareInt? b).getD .eq
  | .real x, .real y => (x.compare? y).getD .eq
  | .text a, .text b => compareLists (fun x y => compare x.toNat y.toNat) (c.key a) (c.key b)
  | .blob a, .blob b => compareLists (fun x y => compare x.toNat y.toNat) a b
  | a, b => compare a.rank b.rank

/-- Whether two values are the same in an order. -/
def same (c : Collation) (a b : Datum) : Bool :=
  order c a b == .eq

end Datum

end StoreBridge
