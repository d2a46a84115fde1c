import StoreBridge.Number.Binary64
import StoreBridge.Number.Digits

/-!
# Shortest decimal of a double

`Decimal` is `coefficient * 10^exponent`. `Binary64.shortest` is the decimal with the fewest digits
among those that read back as the given double, and the nearest to it among those: for 1, 2, … 17
digits the two neighbours of the value on that decimal grid are tested in exact arithmetic, and the
first grid with a hit wins. `Binary64.rounded` is the nearest decimal of a fixed number of digits.
The layouts say how such a decimal is written.
-/

namespace StoreBridge

/-- A non-negative decimal number `coefficient * 10^exponent`. -/
structure Decimal where
  coefficient : Nat
  exponent : Int
  deriving DecidableEq, Repr

namespace Decimal

/-- Moves trailing zeros of the coefficient into the exponent. -/
def normalizeFrom : Nat → Nat → Int → Decimal
  | 0, c, e => ⟨c, e⟩
  | fuel + 1, c, e =>
    if c ≠ 0 ∧ c % 10 = 0 then normalizeFrom fuel (c / 10) (e + 1) else ⟨c, e⟩

/-- The same number without trailing zeros in the coefficient. A coefficient has fewer digits than
its value, so the value bounds the steps; 400 suffice for every decimal built here. -/
def normalize (d : Decimal) : Decimal :=
  normalizeFrom 400 d.coefficient d.exponent

/-- The digits of the coefficient. -/
def digits (d : Decimal) : List Char :=
  natDigits d.coefficient

/-- The power of ten of the leading digit. -/
def leadingExponent (d : Decimal) : Int :=
  d.exponent + (d.digits.length : Int) - 1

/-- Plain notation with a point and at least one digit after it. -/
def positional (d : Decimal) : List Char :=
  let ds := d.digits
  if 0 ≤ d.exponent then
    ds ++ List.replicate d.exponent.toNat '0' ++ ['.', '0']
  else
    let places := (-d.exponent).toNat
    if places < ds.length then
      ds.take (ds.length - places) ++ '.' :: ds.drop (ds.length - places)
    else
      '0' :: '.' :: (List.replicate (places - ds.length) '0' ++ ds)

/-- The digits with a point after the first one; `always` keeps the point when nothing follows. -/
def pointed (always : Bool) : List Char → List Char
  | [] => []
  | [d] => if always then [d, '.', '0'] else [d]
  | d :: rest => d :: '.' :: rest

/-- The sign of an exponent, always written, and its digits. -/
def exponentText (width : Nat) (e : Int) : List Char :=
  (if e < 0 then '-' else '+') :: natDigitsPadded width e.natAbs

end Decimal

namespace Binary64

/-- The whole number `k` with `10^k ≤ n / d < 10^(k+1)`, for positive `n` and `d`. -/
def floorLog10 (n d : Nat) : Int :=
  let k := floorLog2 n d * 30103 / 100000 - 1
  let reaches (e : Int) : Bool := d * pow10 e.toNat ≤ n * pow10 (-e).toNat
  if reaches (k + 2) then k + 2
  else if reaches (k + 1) then k + 1
  else k

/-- A positive ratio and the open or closed interval of ratios around it, all over one
denominator. -/
structure Interval where
  value : Nat
  low : Nat
  high : Nat
  denominator : Nat
  closed : Bool

namespace Interval

/-- Whether `n / d` lies in the interval. -/
def contains (i : Interval) (n d : Nat) : Bool :=
  let x := n * i.denominator
  if i.closed then i.low * d ≤ x && x ≤ i.high * d
  else i.low * d < x && x < i.high * d

/-- The reals that round to the double `m * 2^e`: halfway to its neighbours on both sides. Below a
power of two the neighbour is twice as near. The ends belong to it exactly when `m` is even. -/
def around (m : Nat) (e : Int) : Interval :=
  let scale := pow2 (e - 2).toNat
  let below := if m = pow2 52 ∧ -1074 < e then 1 else 2
  { value := 4 * m * scale
    low := (4 * m - below) * scale
    high := (4 * m + 2) * scale
    denominator := pow2 (2 - e).toNat
    closed := m % 2 = 0 }

end Interval

/-- The best decimal of exactly `n` digits inside the interval, if there is one; `k` is the power of
ten of the leading digit. -/
def withDigits (i : Interval) (k : Int) (n : Nat) : Option Decimal :=
  let e := k - (n : Int) + 1
  let up := pow10 e.toNat
  let down := pow10 (-e).toNat
  let c := i.value * down / (i.denominator * up)
  let hit (c : Nat) : Bool := i.contains (c * up) down
  -- The decimals next to the value are `c` below and `c + 1` above, in units of `10 ^ e`.
  match hit c, hit (c + 1) with
  | true, true =>
    let twice := 2 * i.value * down
    let middle := (2 * c + 1) * i.denominator * up
    let best :=
      -- Both are inside, so the nearer one is taken, and of two equally near ones the even one.
      if twice < middle then c
      else if middle < twice then c + 1
      else c + c % 2
    some ⟨best, e⟩
  | true, false => some ⟨c, e⟩
  | false, true => some ⟨c + 1, e⟩
  | false, false => none

/-- The shortest decimal that reads back as `m * 2^e`. -/
def shortest (m : Nat) (e : Int) : Decimal :=
  if m = 0 then ⟨0, 0⟩
  else
    let i := Interval.around m e
    let k := floorLog10 i.value i.denominator
    match (List.range 17).findSome? (fun n => withDigits i k (n + 1)) with
    | some d => d.normalize
    | none => ⟨0, 0⟩

/-- The decimal of `n` significant digits nearest to `m * 2^e`; a half goes up. -/
def rounded (n m : Nat) (e : Int) : Decimal :=
  if m = 0 then ⟨0, 0⟩
  else
    let num := m * pow2 e.toNat
    let den := pow2 (-e).toNat
    let k := floorLog10 num den - (n : Int) + 1
    let c := (2 * num * pow10 (-k).toNat + den * pow10 k.toNat) / (2 * den * pow10 k.toNat)
    (Decimal.mk c k).normalize

/-- The first `n` significant digits of `m * 2^e`; what is left over is dropped. -/
def truncated (n m : Nat) (e : Int) : Decimal :=
  if m = 0 then ⟨0, 0⟩
  else
    let num := m * pow2 e.toNat
    let den := pow2 (-e).toNat
    let k := floorLog10 num den - (n : Int) + 1
    (Decimal.mk (num * pow10 (-k).toNat / (den * pow10 k.toNat)) k).normalize

/-- Writes the sign, then the digits of a finite number as `layout` says. -/
def withSign (negative : Bool) (cs : List Char) : List Char :=
  if negative then '-' :: cs else cs

/-- How a double is written: `plain` says for which power of ten of the leading digit positional
notation is used. -/
structure Style where
  plain : Int → Bool
  exponentWidth : Nat
  alwaysPoint : Bool

/-- The text of a decimal in a style. -/
def Style.write (s : Style) (d : Decimal) : List Char :=
  if d.coefficient = 0 ∨ s.plain d.leadingExponent then d.positional
  else d.digits |> Decimal.pointed s.alwaysPoint |> fun ds =>
    ds ++ 'e' :: Decimal.exponentText s.exponentWidth d.leadingExponent

/-- JSON numbers are plain from `10^-5` up to below `10^16`. -/
def jsonStyle : Style where
  plain e := -5 ≤ e && e ≤ 15
  exponentWidth := 1
  alwaysPoint := false

/-- The text of a finite double inside JSON. -/
def jsonDigits (x : Binary64) : List Char :=
  match x.view with
  | .finite negative m e => withSign negative (jsonStyle.write (shortest m e))
  | _ => ['n', 'u', 'l', 'l']

/-- The shortest text without an exponent and with at least one digit after the point. -/
def plainDigits (x : Binary64) : List Char :=
  match x.view with
  | .nan => ['N', 'a', 'N']
  | .infinite negative => withSign negative ['i', 'n', 'f']
  | .finite negative m e => withSign negative (shortest m e).positional

/-- Fifteen significant digits, plain from `10^-4` up to below `10^15`. -/
def fifteenStyle : Style where
  plain e := -4 ≤ e && e ≤ 14
  exponentWidth := 2
  alwaysPoint := true

/-- The text of a number as a column of type text stores it: fifteen significant digits. Zero has no
sign. -/
def fifteenDigits (x : Binary64) : List Char :=
  match x.view with
  | .nan => []
  | .infinite negative => withSign negative ['I', 'n', 'f']
  | .finite negative m e => withSign (negative && m != 0) (fifteenStyle.write (rounded 15 m e))

/-- All digits, with an exponent. -/
def scientificStyle : Style where
  plain _ := false
  exponentWidth := 2
  alwaysPoint := true

/-- The text of a number in a literal: fifteen significant digits if they read back as the number,
and otherwise 18, or 19 from `10^18` on, cut off. An infinite one is written as a number that is too
large. -/
def literalDigits (x : Binary64) : List Char :=
  match x.view with
  | .nan => []
  | .infinite negative => withSign negative "9.0e+999".toList
  | .finite negative m e =>
    let d := rounded 15 m e
    if ofDecimal negative d.coefficient d.exponent = x then x.fifteenDigits
    else
      let places := if pow10 18 ≤ m * pow2 e.toNat / pow2 (-e).toNat then 19 else 18
      withSign negative (scientificStyle.write (truncated places m e))

end Binary64

end StoreBridge
