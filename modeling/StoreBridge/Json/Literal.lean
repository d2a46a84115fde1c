import StoreBridge.Json.Basic
import StoreBridge.Number.Digits

/-!
# Number literals of JSON

`Literal` is the grammar of a number: a sign, a whole part without superfluous zeros, an optional
fraction and an optional exponent. A literal without fraction and exponent that fits 64 bits is an
exact integer. Every other one becomes a double: the digits are gathered into a significand of at
most 64 bits, further digits only count as powers of ten, and the significand is scaled by that
power in one multiplication or division. A literal too large for a double has no value.
-/

namespace StoreBridge

/-- The parts of a number literal. -/
structure Literal where
  negative : Bool
  whole : List Char
  fraction : List Char
  exponent : Option Int
  deriving Repr

namespace Literal

/-- The largest significand that is kept. -/
def maxSignificand : Nat := pow2 64 - 1

/-- Adds the digits of the whole part while the significand fits; the others raise the exponent. -/
def gatherWhole : Nat → List Char → Nat × Int
  | n, [] => (n, 0)
  | n, c :: cs =>
    let next := 10 * n + digitValue c
    if maxSignificand < next then (n, ((c :: cs).length : Int)) else gatherWhole next cs

/-- Adds the digits of the fraction while the significand fits and leaves out the others. -/
def gatherFraction : Nat → Int → List Char → Nat × Int
  | n, e, [] => (n, e)
  | n, e, c :: cs =>
    let next := 10 * n + digitValue c
    if maxSignificand < next then (n, e) else gatherFraction next (e - 1) cs

/-- A positive significand times a power of ten, in steps that a double can hold: one
multiplication, or divisions by at most `10^308` each. -/
def scale : Nat → Binary64 → Int → Option Binary64
  | 0, x, _ => some x
  | steps + 1, x, e =>
    if e.natAbs ≤ 308 then
      let power := Binary64.ofDecimal false 1 e.natAbs
      if 0 ≤ e then
        let y := x.mul power
        if y.isFinite then some y else none
      else some (x.div power)
    else if x.units = 0 then some x
    else if 0 ≤ e then none
    else scale steps (x.div (Binary64.ofDecimal false 1 308)) (e + 308)

/-- The double of a significand and a power of ten. Three divisions by `10^308` bring every 64-bit
significand to zero, so five steps are enough. -/
def toDouble (negative : Bool) (significand : Nat) (exponent : Int) : Option Json := do
  let x ← scale 5 (Binary64.ofInt significand) exponent
  return .double (if negative then x.neg else x)

/-- The largest exponent that is read. -/
def maxExponent : Int := pow2 31 - 1

/-- Whether the literal spells an integer: no fraction, no exponent. -/
def isWhole (l : Literal) : Bool :=
  l.fraction.isEmpty && l.exponent.isNone

/-- The value of a literal, if it is not too large. -/
def value? (l : Literal) : Option Json :=
  let (n, skipped) := gatherWhole 0 l.whole
  -- A whole number that fits is exact, and minus zero is not a whole number.
  if l.isWhole ∧ skipped = 0 then
    if l.negative then
      if 0 < n ∧ n ≤ pow2 63 then some (.int (-n)) else toDouble true n 0
    else some (.int n)
  else
    let (n, e) := gatherFraction n skipped l.fraction
    match l.exponent with
    | none => toDouble l.negative n e
    | some x =>
      -- An exponent that is too large to compute with decides by its sign.
      if x.natAbs ≤ maxExponent then toDouble l.negative n (e + x)
      else if n ≠ 0 ∧ 0 < x then none
      else some (.double (Binary64.zero l.negative))

end Literal

end StoreBridge
