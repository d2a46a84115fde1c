import StoreBridge.Sqlite.Datum
import StoreBridge.Text.Fold

/-!
# Affinities

A column prefers a kind of value, its affinity, which its declared type decides. A value that can be
turned into the preferred kind without loss is turned into it when it is stored, and before it is
compared with a value of that column. Every other value is kept as it is.
-/

namespace StoreBridge

/-- The kind of value that a column prefers. -/
inductive Affinity where
  | blob
  | text
  | numeric
  | integer
  | real
  deriving DecidableEq, Repr, Inhabited

namespace Affinity

/-- The affinity of a declared type: the first word it contains decides. A column without a type
prefers nothing, one whose type has none of the words prefers numbers. -/
def ofType (declared : String) : Affinity :=
  let cs := declared.toList.map asciiLower
  let has (word : String) : Bool := occursIn word.toList cs
  if has "int" then .integer
  else if has "char" || has "clob" || has "text" then .text
  else if has "blob" || cs.isEmpty then .blob
  else if has "real" || has "floa" || has "doub" then .real
  else .numeric

/-- Whether numbers are preferred. -/
def isNumeric : Affinity → Bool
  | .numeric => true
  | .integer => true
  | .real => true
  | _ => false

/-- Text that is a number, blanks around it aside, as that number. A whole number becomes an integer
where it is exact. -/
def numberOfText (s : String) : Datum :=
  let n := LeadingNumber.read s.toList
  if !n.isAll then .text s
  else
    match n.toDatum with
    | .real x => (Datum.wholeInt? x).elim (.real x) .int
    | d => d

/-- A number as text. -/
def textOfNumber : Datum → Datum
  | .int i => .text (Datum.int i).toText
  | .real x => .text (Datum.real x).toText
  | d => d

/-- What a column stores for a value. -/
def store : Affinity → Datum → Datum
  | .blob, d => d
  | .text, d => textOfNumber d
  | .real, .int i => .real (Binary64.ofInt i)
  | .real, .text s =>
    match numberOfText s with
    | .int i => .real (Binary64.ofInt i)
    | d => d
  | .real, d => d
  | _, .real x => (Datum.wholeInt? x).elim (.real x) .int
  | _, .text s => numberOfText s
  | _, d => d

/-- What is done to two values before they are compared: nothing, numbers are made of both, or text
is made of both. -/
inductive Conversion where
  | none
  | numbers
  | texts
  deriving DecidableEq, Repr, Inhabited

/-- The conversion for two values, each with the affinity of the column it comes from. If both come
from columns, only a column of numbers matters; otherwise the one column decides. -/
def conversion : Option Affinity → Option Affinity → Conversion
  | some a, some b => if a.isNumeric || b.isNumeric then .numbers else .none
  | some a, none => single a
  | none, some b => single b
  | none, none => .none
where
  /-- The conversion that one column asks for. -/
  single (a : Affinity) : Conversion :=
    if a.isNumeric then .numbers else if a = .text then .texts else .none

/-- Text that is a number, as that number. -/
def toNumbers : Datum → Datum
  | .text s => numberOfText s
  | d => d

/-- Whether a value is text. -/
def isText : Datum → Bool
  | .text _ => true
  | _ => false

/-- Converts two values before they are compared. Numbers become text only next to a text. -/
def Conversion.apply : Conversion → Datum → Datum → Datum × Datum
  | .none, a, b => (a, b)
  | .numbers, a, b => (toNumbers a, toNumbers b)
  | .texts, a, b =>
    if isText a || isText b then (textOfNumber a, textOfNumber b) else (a, b)

/-- Up to this size a whole number that is written like a fraction becomes an integer in a cast. -/
def wholeCastLimit : Int := pow2 51

/-- A double that a text spells, in a cast to a number. -/
def castReal (x : Binary64) : Datum :=
  if x.isIntegral && -wholeCastLimit ≤ x.truncate && x.truncate < wholeCastLimit then
    .int x.truncate
  else .real x

/-- The value of a cast. -/
def cast : Affinity → Datum → Datum
  | _, .null => .null
  | .blob, d => .blob d.toBytes
  | .text, d => .text d.toText
  | .integer, d => .int d.toInt
  | .real, d => .real d.toReal
  | .numeric, d =>
    match d.toNumber with
    | .real x =>
      -- What was read from a text becomes whole if it can, and a real itself stays what it is.
      match d with
      | .real _ => .real x
      | _ => castReal x
    | n => n

end Affinity

end StoreBridge
