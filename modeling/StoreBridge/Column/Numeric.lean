import StoreBridge.Bytes.Hex
import StoreBridge.Number.Digits

/-!
# Binary decimals of PostgreSQL

A decimal travels as four 16-bit words (number of groups, weight, sign, number of decimals) and the
groups, each a digit to the base 10000: group `i` is worth `10000^(weight - i)`. Groups that are not
sent are zero. Decoding fails exactly when bytes are missing.
-/

namespace StoreBridge

namespace Numeric

/-- The signed word that starts at a byte. -/
def word? (bs : Bytes) (at_ : Nat) : Option Int :=
  match (bs.drop at_).take 2 with
  | [a, b] => some (Bytes.signed 16 (Bytes.toNat [a, b]))
  | _ => none

/-- The group with an index; groups outside the list are zero. -/
def group (groups : List Int) (i : Int) : Int :=
  if i < 0 then 0 else groups.getD i.toNat 0

/-- A group filled up with zeros to four characters, the sign included. -/
def groupText (g : Int) : List Char :=
  if g < 0 then '-' :: natDigitsPadded 3 g.natAbs else natDigitsPadded 4 g.natAbs

/-- The whole part. -/
def wholeText (groups : List Int) (weight : Int) : List Char :=
  if weight < 0 then ['0']
  else
    intDigits (group groups 0) ++
      (List.range weight.toNat).flatMap fun i : Nat => groupText (group groups ((i : Int) + 1))

/-- The first `scale` characters after the point. Every group has at least four of them. -/
def fractionText (groups : List Int) (weight : Int) (scale : Nat) : List Char :=
  ((List.range ((scale + 3) / 4)).flatMap fun i : Nat =>
    groupText (group groups (weight + 1 + (i : Int)))).take scale

/-- The text of a decimal. -/
def layout (negative : Bool) (groups : List Int) (weight : Int) (scale : Nat) : List Char :=
  (if negative then ['-'] else []) ++ wholeText groups weight ++
    (if scale = 0 then [] else '.' :: fractionText groups weight scale)

/-- The decimal that bytes encode, as text; `none` if bytes are missing. -/
def decode? (bs : Bytes) : Option String := do
  let count ← word? bs 0
  let weight ← word? bs 2
  let sign ← word? bs 4
  let scale ← word? bs 6
  let groups ← (List.range count.toNat).mapM fun i => word? bs (8 + 2 * i)
  if sign = -0x4000 then return "NaN"
  else if sign = -0x3000 then return "Infinity"
  else if sign = -0x1000 then return "-Infinity"
  else return String.ofList (layout (sign = 0x4000) groups weight scale.toNat)

end Numeric

end StoreBridge
