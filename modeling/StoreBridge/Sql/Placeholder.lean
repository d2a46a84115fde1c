import StoreBridge.Backend
import StoreBridge.Number.Digits

/-!
# Placeholders

A statement marks its parameters by question marks. A question mark inside quotes is text: a single
quote, a double quote or a backquote opens a quoted part, and the same character closes it, so a
doubled quote closes and opens again. Rendering replaces the placeholders, and nothing else, by
numbered marks.
-/

namespace StoreBridge

namespace Placeholder

/-- The characters that open and close a quoted part. -/
def isQuote (c : Char) : Bool :=
  c == '\'' || c == '"' || c == '\x60'

/-- The open quote after one more character. -/
def nextQuote (quote : Option Char) (c : Char) : Option Char :=
  match quote with
  | some opened => if c = opened then none else quote
  | none => if isQuote c then some c else none

/-- The positions of the placeholders, counted from `start`. -/
def positionsFrom (quote : Option Char) (start : Nat) : List Char → List Nat
  | [] => []
  | c :: cs =>
    if quote.isNone && c == '?' then start :: positionsFrom quote (start + 1) cs
    else positionsFrom (nextQuote quote c) (start + 1) cs

/-- The positions of the placeholders of a text. -/
def positions (cs : List Char) : List Nat :=
  positionsFrom none 0 cs

/-- The number of placeholders of a text. -/
def count (text : String) : Nat :=
  (positions text.toList).length

/-- Replaces the placeholders; `mark n` stands for the placeholder with `n` others before it. -/
def renderFrom (mark : Nat → List Char) (quote : Option Char) (n : Nat) : List Char → List Char
  | [] => []
  | c :: cs =>
    if quote.isNone && c == '?' then mark n ++ renderFrom mark quote (n + 1) cs
    else c :: renderFrom mark (nextQuote quote c) n cs

/-- A mark with a number, counted from one, and the type it is cast to. -/
def numbered (sign : Char) (cast : Nat → Option String) (n : Nat) : List Char :=
  sign :: natDigits (n + 1) ++
    match cast n with
    | some type => ':' :: ':' :: type.toList
    | none => []

/-- Writes the placeholders in a style. -/
def render (style : PlaceholderStyle) (text : String) : String :=
  match style with
  | .question => text
  | .dollar => String.ofList (renderFrom (numbered '$' fun _ => none) none 0 text.toList)
  | .colon => String.ofList (renderFrom (numbered ':' fun _ => none) none 0 text.toList)

/-- Writes the placeholders as `$1`, `$2`, …, each followed by a cast where `cast` gives one for
its position. -/
def renderCast (cast : Nat → Option String) (text : String) : String :=
  String.ofList (renderFrom (numbered '$' cast) none 0 text.toList)

end Placeholder

end StoreBridge
