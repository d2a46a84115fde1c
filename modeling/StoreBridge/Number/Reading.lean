import StoreBridge.Number.Binary64
import StoreBridge.Number.Digits
import StoreBridge.Text.Fold

/-!
# Reading numbers

Numbers as people and databases write them: an optional sign, digits with an optional point and an
optional exponent, or one of the words `inf`, `infinity` and `nan` in any letter case. At least one
digit has to stand before the exponent. Nothing is skipped, blanks are not allowed.
-/

namespace StoreBridge

/-- The sign in front of a number, and the rest. -/
def readSign : List Char → Bool × List Char
  | '-' :: rest => (true, rest)
  | '+' :: rest => (false, rest)
  | cs => (false, cs)

/-- A text of one or more digits and nothing else. -/
def natOfText? (cs : List Char) : Option Nat :=
  if cs ≠ [] ∧ cs.all isDigit then some (natOfDigits cs) else none

/-- An integer with an optional sign. -/
def intOfText? (cs : List Char) : Option Int :=
  let (negative, digits) := readSign cs
  (natOfText? digits).map fun n => if negative then -(n : Int) else n

/-- The parts of a decimal number: the digits before and after the point and the exponent. -/
structure DecimalText where
  whole : List Char
  fraction : List Char
  exponent : Int

namespace DecimalText

/-- The exponent of a decimal number; nothing at all stands for zero. -/
def readExponent : List Char → Option Int
  | [] => some 0
  | c :: rest => if c = 'e' ∨ c = 'E' then intOfText? rest else none

/-- Reads a decimal number without sign. -/
def read? (cs : List Char) : Option DecimalText :=
  let whole := cs.takeWhile isDigit
  let (fraction, rest) :=
    match cs.dropWhile isDigit with
    | '.' :: rest => (rest.takeWhile isDigit, rest.dropWhile isDigit)
    | rest => ([], rest)
  if whole = [] ∧ fraction = [] then none
  else (readExponent rest).map fun e => ⟨whole, fraction, e⟩

/-- The double nearest to the number. -/
def toDouble (negative : Bool) (d : DecimalText) : Binary64 :=
  Binary64.ofDecimal negative (natOfDigits (d.whole ++ d.fraction))
    (d.exponent - (d.fraction.length : Int))

end DecimalText

/-- The double that a text spells. -/
def Binary64.ofText? (cs : List Char) : Option Binary64 :=
  let (negative, rest) := readSign cs
  let word := rest.map asciiLower
  if word = "inf".toList ∨ word = "infinity".toList then some (infinity negative)
  else if word = "nan".toList then some (if negative then nan.neg else nan)
  else (DecimalText.read? rest).map (DecimalText.toDouble negative)

end StoreBridge
