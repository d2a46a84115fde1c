import StoreBridge.Number.Reading

/-!
# Decimals of 128 bits

A decimal is a coefficient of at most 34 digits and a power of ten, or it is infinite, or no number.
A text is read exactly or not at all: to make a number fit, zeros at its end are given up or added,
and nothing else. So `1e6112` has a coefficient of ten, while a number with 35 digits that matter is
refused.
-/

namespace StoreBridge

/-- The size of a decimal. -/
inductive DecimalSize where
  | finite (coefficient : Nat) (exponent : Int)
  | infinity
  | nan (signalling : Bool)
  deriving DecidableEq, Repr, Inhabited

/-- A decimal of 128 bits. -/
structure Decimal128 where
  negative : Bool
  size : DecimalSize
  deriving DecidableEq, Repr, Inhabited

namespace DecimalSize

/-- The most digits that a coefficient has. -/
def maxDigits : Nat := 34

/-- The least exponent. -/
def minExponent : Int := -6176

/-- The greatest exponent. -/
def maxExponent : Int := 6111

/-- The digits but for the last `k`, which have to be zeros. -/
def dropZeros? (k : Nat) (ds : List Char) : Option (List Char) :=
  if k ≤ ds.length ∧ (ds.drop (ds.length - k)).all (· == '0') then some (ds.take (ds.length - k))
  else none

/-- The number that digits stand for in front of a power of ten. -/
def ofDigits? (digits : List Char) (exponent : Int) : Option DecimalSize :=
  match digits.dropWhile (· == '0') with
  | [] => some (.finite 0 (max minExponent (min exponent maxExponent)))
  | ds => do
    -- As many digits have to go as are too many, or as the exponent is too small.
    let surplus := max (ds.length - maxDigits) (minExponent - exponent).toNat
    let kept ← dropZeros? surplus ds
    let missing := (exponent + surplus - maxExponent).toNat
    if kept.length + missing ≤ maxDigits then
      return .finite (natOfDigits (kept ++ List.replicate missing '0'))
        (exponent + surplus - missing)
    else none

/-- The number of a text without a sign. The exponent has 16 bits, also when the digits after the
point are counted off. -/
def ofText? (cs : List Char) : Option DecimalSize := do
  let d ← DecimalText.read? cs
  let exponent := d.exponent - (d.fraction.length : Int)
  if -(pow2 15) ≤ exponent ∧ -(pow2 15) ≤ d.exponent ∧ d.exponent < pow2 15 then
    ofDigits? (d.whole ++ d.fraction) exponent
  else none

/-- The digits with a point in front of the last `places`. -/
def pointed (ds : List Char) (places : Nat) : List Char :=
  if places = 0 then ds
  else
    let filled := List.replicate (places + 1 - ds.length) '0' ++ ds
    filled.take (filled.length - places) ++ '.' :: filled.drop (filled.length - places)

/-- The spelling of a number: plain if it is neither a multiple of ten by its exponent nor very
small. -/
def numberText (coefficient : Nat) (exponent : Int) : List Char :=
  let ds := natDigits coefficient
  let leading := exponent + ds.length - 1
  if exponent ≤ 0 ∧ -6 ≤ leading then pointed ds exponent.natAbs
  else
    ds.take 1 ++ (if ds.length = 1 then [] else '.' :: ds.drop 1) ++
      'E' :: (if 0 < leading then '+' :: intDigits leading else intDigits leading)

/-- The spelling of a size. -/
def text : DecimalSize → List Char
  | .finite coefficient exponent => numberText coefficient exponent
  | .infinity => "Infinity".toList
  | .nan signalling => if signalling then "sNaN".toList else "NaN".toList

end DecimalSize

namespace Decimal128

/-- The decimal that a text spells. -/
def ofText? (cs : List Char) : Option Decimal128 :=
  let (negative, rest) := readSign cs
  let word := rest.map asciiLower
  let size :=
    if word = "nan".toList then some (.nan false)
    else if word = "snan".toList then some (.nan true)
    else if word = "inf".toList ∨ word = "infinity".toList then some .infinity
    else DecimalSize.ofText? rest
  size.map (⟨negative, ·⟩)

/-- The spelling of a decimal. -/
def text (d : Decimal128) : List Char :=
  if d.negative then '-' :: d.size.text else d.size.text

end Decimal128

end StoreBridge
