import StoreBridge.Number.Power

/-!
# Double-precision numbers

A double is kept as its 64-bit pattern, and everything about it is exact arithmetic on `Nat` and
`Int`: a finite double is a whole number of *units* of `2^-1074` (`units`), and `ofRatio` rounds a
ratio to the nearest double, ties to the even neighbour. Addition, multiplication and division are
the exact result rounded once.
-/

namespace StoreBridge

/-- A double-precision number, as its bit pattern. -/
structure Binary64 where
  bits : UInt64
  deriving DecidableEq, Repr, Inhabited

namespace Binary64

/-- What a bit pattern stands for: `finite n m e` is `± m * 2^e`. -/
inductive View where
  | nan
  | infinite (negative : Bool)
  | finite (negative : Bool) (mantissa : Nat) (exponent : Int)
  deriving DecidableEq, Repr

/-- The sign bit. -/
def negative (x : Binary64) : Bool :=
  pow2 63 ≤ x.bits.toNat

/-- The eleven exponent bits. -/
def exponentField (x : Binary64) : Nat :=
  x.bits.toNat / pow2 52 % pow2 11

/-- The 52 fraction bits. -/
def fractionField (x : Binary64) : Nat :=
  x.bits.toNat % pow2 52

/-- Reads the three fields of a bit pattern. -/
def view (x : Binary64) : View :=
  if x.exponentField = 2047 then
    if x.fractionField = 0 then .infinite x.negative else .nan
  else if x.exponentField = 0 then
    .finite x.negative x.fractionField (-1074)
  else
    .finite x.negative (pow2 52 + x.fractionField) ((x.exponentField : Int) - 1075)

/-- The double with a given sign and the 63 remaining bits. -/
def ofMagnitude (negative : Bool) (magnitude : Nat) : Binary64 :=
  ⟨UInt64.ofNat ((if negative then pow2 63 else 0) + magnitude)⟩

def zero (negative : Bool) : Binary64 := ofMagnitude negative 0

def infinity (negative : Bool) : Binary64 := ofMagnitude negative (2047 * pow2 52)

def nan : Binary64 := ofMagnitude false (2047 * pow2 52 + pow2 51)

def isFinite (x : Binary64) : Bool :=
  x.exponentField != 2047

def isNaN (x : Binary64) : Bool :=
  x.exponentField == 2047 && x.fractionField != 0

/-- `n / d` rounded to the nearest whole number, a half to the even one. -/
def roundDiv (n d : Nat) : Nat :=
  let q := n / d
  let r := n % d
  if 2 * r < d then q
  else if d < 2 * r then q + 1
  else q + q % 2

/-- The whole number `k` with `2^k ≤ n / d < 2^(k+1)`, for positive `n` and `d`. -/
def floorLog2 (n d : Nat) : Int :=
  let k : Int := (n.log2 : Int) - (d.log2 : Int)
  if d * pow2 k.toNat ≤ n * pow2 (-k).toNat then k else k - 1

/-- The double nearest to `± n / d`, ties to even; too large a ratio becomes an infinity. -/
def ofRatio (negative : Bool) (n d : Nat) : Binary64 :=
  if n = 0 then zero negative
  else
    let e := max (floorLog2 n d - 52) (-1074)
    let q := roundDiv (n * pow2 (-e).toNat) (d * pow2 e.toNat)
    let magnitude := (e + 1074).toNat * pow2 52 + q
    if 2047 * pow2 52 ≤ magnitude then infinity negative else ofMagnitude negative magnitude

/-- The double nearest to an integer. -/
def ofInt (i : Int) : Binary64 :=
  ofRatio (i < 0) i.natAbs 1

/-- The double nearest to `± digits * 10^exponent`. Exponents far outside the range of doubles are
settled without computing the power. -/
def ofDecimal (negative : Bool) (digits : Nat) (exponent : Int) : Binary64 :=
  if digits = 0 then zero negative
  else
    let top : Int := (digits.log2 : Int) * 30103 / 100000 + exponent
    if 310 < top then infinity negative
    else if top < -330 then zero negative
    else ofRatio negative (digits * pow10 exponent.toNat) (pow10 (-exponent).toNat)

/-- A unit is `2^-1074`, the smallest positive double. -/
def unitsPerOne : Nat := pow2 1074

theorem unitsPerOne_ne_zero : (unitsPerOne : Int) ≠ 0 :=
  Int.natCast_ne_zero.mpr (Nat.ne_of_gt (pow2_pos 1074))

/-- The value of a finite double in units; infinities and NaN count as zero here. -/
def units (x : Binary64) : Int :=
  match x.view with
  | .finite negative m e =>
    let magnitude : Int := (m * pow2 (e + 1074).toNat : Nat)
    if negative then -magnitude else magnitude
  | _ => 0

/-- The double nearest to a whole number of units over `d`; zero takes the given sign. -/
def ofUnits (zeroSign : Bool) (u : Int) (d : Nat) : Binary64 :=
  if u = 0 then zero zeroSign else ofRatio (u < 0) u.natAbs d

/-- Whether the value of a finite double is a whole number. -/
def isIntegral (x : Binary64) : Bool :=
  x.isFinite && x.units % (unitsPerOne : Int) == 0

/-- The whole part of a finite double, cut toward zero. -/
def truncate (x : Binary64) : Int :=
  Int.tdiv x.units unitsPerOne

/-- The whole part, cut to the range `[lo, hi]`; infinities go to its ends and NaN to zero. -/
def saturate (lo hi : Int) (x : Binary64) : Int :=
  match x.view with
  | .nan => 0
  | .infinite negative => if negative then lo else hi
  | .finite .. => max lo (min hi x.truncate)

/-- Order of two numbers; `none` if one is NaN. -/
def compare? (x y : Binary64) : Option Ordering :=
  match x.view, y.view with
  | .nan, _ => none
  | _, .nan => none
  | .infinite a, .infinite b => some (if a = b then .eq else if a then .lt else .gt)
  | .infinite a, _ => some (if a then .lt else .gt)
  | _, .infinite b => some (if b then .gt else .lt)
  | .finite .., .finite .. => some (compare x.units y.units)

/-- Order of a number and an integer; `none` for NaN. -/
def compareInt? (x : Binary64) (i : Int) : Option Ordering :=
  match x.view with
  | .nan => none
  | .infinite negative => some (if negative then .lt else .gt)
  | .finite .. => some (compare x.units (i * unitsPerOne))

def neg (x : Binary64) : Binary64 :=
  ofMagnitude (!x.negative) (x.bits.toNat % pow2 63)

def abs (x : Binary64) : Binary64 :=
  ofMagnitude false (x.bits.toNat % pow2 63)

/-- The sum, rounded once. -/
def add (x y : Binary64) : Binary64 :=
  match x.view, y.view with
  | .nan, _ => nan
  | _, .nan => nan
  | .infinite a, .infinite b => if a = b then infinity a else nan
  | .infinite a, _ => infinity a
  | _, .infinite b => infinity b
  | .finite .., .finite .. =>
    ofUnits (x.negative && y.negative) (x.units + y.units) unitsPerOne

def sub (x y : Binary64) : Binary64 := x.add y.neg

/-- The product, rounded once. -/
def mul (x y : Binary64) : Binary64 :=
  let sign := x.negative != y.negative
  match x.view, y.view with
  | .nan, _ => nan
  | _, .nan => nan
  | .infinite _, .finite _ m _ => if m = 0 then nan else infinity sign
  | .finite _ m _, .infinite _ => if m = 0 then nan else infinity sign
  | .infinite _, .infinite _ => infinity sign
  | .finite .., .finite .. =>
    ofUnits sign (x.units * y.units) (unitsPerOne * unitsPerOne)

/-- The quotient, rounded once; division by zero gives an infinity, zero by zero NaN. -/
def div (x y : Binary64) : Binary64 :=
  let sign := x.negative != y.negative
  match x.view, y.view with
  | .nan, _ => nan
  | _, .nan => nan
  | .infinite _, .infinite _ => nan
  | .infinite _, .finite .. => infinity sign
  | .finite .., .infinite _ => zero sign
  | .finite _ m _, .finite _ k _ =>
    if k = 0 then (if m = 0 then nan else infinity sign)
    else if m = 0 then zero sign
    else ofRatio sign x.units.natAbs y.units.natAbs

end Binary64

end StoreBridge
