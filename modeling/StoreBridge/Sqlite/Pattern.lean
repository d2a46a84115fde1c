import StoreBridge.Sqlite.Syntax
import StoreBridge.Text.Fold

/-!
# Patterns

A pattern is a list of items, each of which takes some characters of a text; the text matches if the
items take all of it. Both spellings of patterns are read into the same items.
-/

namespace StoreBridge

namespace Sqlite

/-- An item of a pattern. -/
inductive PatternItem where
  /-- Exactly this character, or either case of this letter. -/
  | char (c : Char)
  /-- Any one character. -/
  | one
  /-- Any number of characters. -/
  | many
  /-- One character that is, or is not, in one of the ranges. -/
  | range (negated : Bool) (ranges : List (Char × Char))
  deriving DecidableEq, Repr, Inhabited

namespace PatternItem

/-- Reads a pattern with percent signs and underscores. The escape character makes the next
character stand for itself. -/
def ofLike (escape : Option Char) : List Char → List PatternItem
  | [] => []
  | c :: rest =>
    if some c = escape then
      match rest with
      | d :: rest' => .char d :: ofLike escape rest'
      | [] => []
    else if c = '%' then .many :: ofLike escape rest
    else if c = '_' then .one :: ofLike escape rest
    else .char c :: ofLike escape rest

/-- The ranges of a set, and the text behind its closing bracket. -/
def ranges : Nat → List Char → Option (List (Char × Char) × List Char)
  | 0, _ => none
  | _, [] => none
  | _, ']' :: rest => some ([], rest)
  | fuel + 1, lo :: '-' :: hi :: rest =>
    if hi = ']' then
      (ranges fuel ('-' :: hi :: rest)).map fun (rs, after) => ((lo, lo) :: rs, after)
    else (ranges fuel rest).map fun (rs, after) => ((lo, hi) :: rs, after)
  | fuel + 1, c :: rest => (ranges fuel rest).map fun (rs, after) => ((c, c) :: rs, after)

/-- A set behind its opening bracket, and the text behind it. A closing bracket in front is a
member. -/
def set? (cs : List Char) : Option (PatternItem × List Char) :=
  let (negated, cs) :=
    match cs with
    | '^' :: rest => (true, rest)
    | _ => (false, cs)
  match cs with
  | ']' :: rest =>
    (ranges (rest.length + 1) rest).map fun (rs, after) =>
      (.range negated ((']', ']') :: rs), after)
  | _ => (ranges (cs.length + 1) cs).map fun (rs, after) => (.range negated rs, after)

/-- Reads a pattern with stars, question marks and sets. A set that is not closed takes nothing. -/
def ofGlob : Nat → List Char → List PatternItem
  | 0, _ => []
  | _, [] => []
  | fuel + 1, c :: rest =>
    if c = '*' then .many :: ofGlob fuel rest
    else if c = '?' then .one :: ofGlob fuel rest
    else if c = '[' then
      match set? rest with
      | some (item, after) => item :: ofGlob fuel after
      | none => [.range false []]
    else .char c :: ofGlob fuel rest

/-- Whether an item that takes one character takes this one. -/
def takes (ignoreCase : Bool) (c : Char) : PatternItem → Bool
  | .char d => if ignoreCase then asciiLower c == asciiLower d else c == d
  | .one => true
  | .many => false
  | .range negated rs => negated != rs.any fun (lo, hi) => lo ≤ c && c ≤ hi

end PatternItem

/-- A text and all its endings, the longest first. -/
def endings : List Char → List (List Char)
  | [] => [[]]
  | c :: rest => (c :: rest) :: endings rest

/-- Whether the items take all of a text. -/
def matchesPattern (ignoreCase : Bool) : List PatternItem → List Char → Bool
  | [], cs => cs.isEmpty
  | .many :: items, cs => (endings cs).any (matchesPattern ignoreCase items)
  | item :: items, cs =>
    match cs with
    | c :: rest => item.takes ignoreCase c && matchesPattern ignoreCase items rest
    | [] => false

/-- Whether a text matches a pattern of a kind. Only percent patterns ignore the case of letters. -/
def PatternKind.test (kind : PatternKind) (escape : Option Char) (pattern text : List Char) :
    Bool :=
  match kind with
  | .like => matchesPattern true (PatternItem.ofLike escape pattern) text
  | .glob => matchesPattern false (PatternItem.ofGlob (pattern.length + 1) pattern) text

end Sqlite

end StoreBridge
