import StoreBridge.Sqlite.Affinity
import StoreBridge.Sqlite.Syntax

/-!
# Functions of values

The functions that can be called on the values of a row. A function takes a fixed range of
arguments; most of them answer null when an argument is null.
-/

namespace StoreBridge

namespace Sqlite

/-- A function of values. -/
inductive ScalarFunction where
  | abs
  | char
  | coalesce
  | hex
  | iif
  | instr
  | length
  | lower
  | ltrim
  | max
  | min
  | nullif
  | quote
  | replace
  | round
  | rtrim
  | sign
  | substr
  | trim
  | typeof
  | unicode
  | upper
  | zeroblob
  deriving DecidableEq, Repr, Inhabited

namespace ScalarFunction

/-- The names of the functions, with the least and the largest number of arguments. -/
def table : List (String × ScalarFunction × Nat × Nat) :=
  [("abs", .abs, 1, 1), ("char", .char, 0, 127), ("coalesce", .coalesce, 2, 127),
   ("hex", .hex, 1, 1), ("ifnull", .coalesce, 2, 2), ("iif", .iif, 3, 3),
   ("instr", .instr, 2, 2), ("length", .length, 1, 1), ("lower", .lower, 1, 1),
   ("ltrim", .ltrim, 1, 2), ("max", .max, 2, 127), ("min", .min, 2, 127),
   ("nullif", .nullif, 2, 2), ("quote", .quote, 1, 1), ("replace", .replace, 3, 3),
   ("round", .round, 1, 2), ("rtrim", .rtrim, 1, 2), ("sign", .sign, 1, 1),
   ("substr", .substr, 2, 3), ("substring", .substr, 2, 3), ("trim", .trim, 1, 2),
   ("typeof", .typeof, 1, 1), ("unicode", .unicode, 1, 1), ("upper", .upper, 1, 1),
   ("zeroblob", .zeroblob, 1, 1)]

/-- The characters of a value. -/
def chars (d : Datum) : List Char := d.toText.toList

/-- A text value. -/
def textOf (cs : List Char) : Datum := .text (String.ofList cs)

/-- The upper case of an ASCII letter. -/
def asciiUpper (c : Char) : Char :=
  if 'a' ≤ c ∧ c ≤ 'z' then Char.ofNat (c.toNat - 32) else c

/-- The characters that are trimmed: those of the second argument, or blanks. -/
def trimmed (args : List Datum) : Char → Bool :=
  match args with
  | [_, set] => (chars set).contains
  | _ => (· = ' ')

/-- Drops characters from the end. -/
def dropEnd (p : Char → Bool) (cs : List Char) : List Char :=
  (cs.reverse.dropWhile p).reverse

/-- The part of a list from a place on, counted from one or, if negative, from the end. A negative
length takes what stands before the place. -/
def slice {α : Type} (xs : List α) (start length : Int) : List α :=
  let n : Int := xs.length
  let first : Int := if 0 < start then start - 1 else if start < 0 then n + start else -1
  -- Place zero stands before the first one, and takes up one place of the length.
  let (lo, hi) := if 0 ≤ length then (first, first + length) else (first + length, first)
  let lo := Max.max lo 0
  let hi := Min.min hi n
  (xs.drop lo.toNat).take (hi - lo).toNat

/-- The place of the first occurrence of a list in another one, from one on; zero if there is
none. -/
def placeOf {α : Type} [DecidableEq α] (part : List α) : Nat → List α → Nat
  | n, xs =>
    if part.isPrefixOf xs then n + 1
    else
      match xs with
      | [] => 0
      | _ :: rest => placeOf part (n + 1) rest

/-- Replaces every occurrence of a text, from left to right. Each step takes a character. -/
def replaceAll (old new : List Char) : Nat → List Char → List Char
  | 0, cs => cs
  | _, [] => []
  | fuel + 1, c :: rest =>
    if old.isPrefixOf (c :: rest) then new ++ replaceAll old new fuel ((c :: rest).drop old.length)
    else c :: replaceAll old new fuel rest

/-- A double rounded to a number of decimal places, a half away from zero. -/
def roundReal (x : Binary64) (places : Nat) : Binary64 :=
  if x.isFinite then
    let scaled := x.units.natAbs * pow10 places
    let n := (2 * scaled + Binary64.unitsPerOne) / (2 * Binary64.unitsPerOne)
    Binary64.ofRatio x.negative n (pow10 places)
  else x

/-- The literal that spells a value. -/
def literalOf : Datum → String
  | .null => "NULL"
  | .text s =>
    String.ofList ('\'' :: (s.toList.flatMap fun c => if c = '\'' then [c, c] else [c])) ++ "'"
  | .real x => String.ofList x.literalDigits
  | .blob bs => "X'" ++ String.ofList ((Bytes.toHex bs).map asciiUpper) ++ "'"
  | d => d.toText

/-- The sign of a number; other values have none. -/
def signOf : Datum → Datum
  | .int i => .int i.sign
  | .real x => .int (if x.isFinite then x.units.sign else if x.negative then -1 else 1)
  | _ => .null

/-- The largest length of a text. -/
def lengthLimit : Int := 1000000000

/-- The lowest 32 bits of an integer, with their sign: places and lengths are counted in such
words. -/
def wordOf (d : Datum) : Int :=
  Bytes.signed 32 (d.toInt % pow2 32).toNat

/-- The larger of two values; of equal ones the first. -/
def larger (a b : Datum) : Datum :=
  if Datum.order .binary a b == .lt then b else a

/-- The smaller of two values; of equal ones the second. -/
def smaller (a b : Datum) : Datum :=
  if Datum.order .binary a b == .lt then a else b

/-- The value of a function that takes null like any other value. -/
def applyAny? (f : ScalarFunction) (args : List Datum) : Option Datum :=
  match f, args with
  | .coalesce, _ => some ((args.find? (· ≠ .null)).getD .null)
  | .iif, [test, yes, no] => some (if test.truth? = some true then yes else no)
  | .typeof, [d] => some (.text d.kindName)
  | .quote, [d] => some (.text (literalOf d))
  | .nullif, [a, b] =>
    some (if a ≠ .null ∧ b ≠ .null ∧ Datum.same .binary a b then .null else a)
  | .char, _ => some (textOf (args.map fun d => Char.ofNat d.toInt.toNat))
  | .hex, [d] => some (textOf ((Bytes.toHex d.toBytes).map asciiUpper))
  | .zeroblob, [d] => some (.blob (List.replicate (Min.min d.toInt.toNat 1000000) 0))
  | _, _ => none

/-- The value of a function whose arguments are not null. -/
def applyKnown (f : ScalarFunction) (args : List Datum) : Except String Datum :=
  match f, args with
  -- The smallest whole number has no counterpart.
  | .abs, [d] =>
    match d with
    | .int i => if i = minInt64 then .error "integer overflow" else .ok (.int i.natAbs)
    | _ => .ok (.real d.toReal.abs)
  | .length, [.blob bs] => .ok (.int bs.length)
  | .length, [d] => .ok (.int (chars d).length)
  | .lower, [d] => .ok (textOf ((chars d).map asciiLower))
  | .upper, [d] => .ok (textOf ((chars d).map asciiUpper))
  | .trim, d :: _ => .ok (textOf (dropEnd (trimmed args) ((chars d).dropWhile (trimmed args))))
  | .ltrim, d :: _ => .ok (textOf ((chars d).dropWhile (trimmed args)))
  | .rtrim, d :: _ => .ok (textOf (dropEnd (trimmed args) (chars d)))
  | .max, d :: rest => .ok (rest.foldl larger d)
  | .min, d :: rest => .ok (rest.foldl smaller d)
  -- Blobs are searched byte by byte, everything else by characters.
  | .instr, [.blob a, .blob b] => .ok (.int (placeOf b 0 a))
  | .instr, [a, b] => .ok (.int (placeOf (chars b) 0 (chars a)))
  | .replace, [a, b, c] =>
    .ok (if chars b = [] then .text a.toText
      else textOf (replaceAll (chars b) (chars c) ((chars a).length + 1) (chars a)))
  | .round, [d] => .ok (.real (roundReal d.toReal 0))
  | .round, [d, n] => .ok (.real (roundReal d.toReal (Min.min (wordOf n).toNat 30)))
  | .sign, [d] => .ok (signOf (Affinity.toNumbers d))
  -- An empty blob counts as no value here.
  | .substr, [.blob [], _] => .ok .null
  | .substr, [.blob [], _, _] => .ok .null
  | .substr, [.blob bs, start] => .ok (.blob (slice bs (wordOf start) lengthLimit))
  | .substr, [.blob bs, start, n] => .ok (.blob (slice bs (wordOf start) (wordOf n)))
  | .substr, [d, start] => .ok (textOf (slice (chars d) (wordOf start) lengthLimit))
  | .substr, [d, start, n] => .ok (textOf (slice (chars d) (wordOf start) (wordOf n)))
  | .unicode, [d] =>
    match chars d with
    | c :: _ => .ok (.int c.toNat)
    | [] => .ok .null
  | _, _ => .ok .null

/-- The value of a function. -/
def apply (f : ScalarFunction) (args : List Datum) : Except String Datum :=
  match applyAny? f args with
  | some d => .ok d
  | none => if args.contains .null then .ok .null else applyKnown f args

/-- The function with a name and a number of arguments. -/
def find (name : String) (count : Nat) : Except String ScalarFunction :=
  let key := String.ofList (name.toList.map asciiLower)
  match table.find? fun (known, _) => known = key with
  | none => .error ("no such function: " ++ name)
  | some (_, f, least, most) =>
    if least ≤ count ∧ count ≤ most then .ok f
    else .error ("wrong number of arguments to function " ++ name ++ "()")

end ScalarFunction

end Sqlite

end StoreBridge
