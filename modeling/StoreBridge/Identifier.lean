import StoreBridge.Text.Fold

/-!
# Identifiers

Names of tables and columns that may appear in SQL text: one or more words joined by points, each of
ASCII letters, digits and underscores and not beginning with a digit.
-/

namespace StoreBridge

/-- An ASCII letter or an underscore. -/
def isWordStart (c : Char) : Bool :=
  ('a' ≤ c && c ≤ 'z') || ('A' ≤ c && c ≤ 'Z') || c == '_'

/-- A character that may follow the first one of a word. -/
def isWordPart (c : Char) : Bool :=
  isWordStart c || ('0' ≤ c && c ≤ '9')

/-- A word: a start character and any further part characters. -/
def isWord : List Char → Bool
  | [] => false
  | c :: cs => isWordStart c && cs.all isWordPart

/-- Words joined by points. -/
def isIdentifier (name : String) : Bool :=
  (splitOnChar '.' name.toList).all isWord

end StoreBridge
