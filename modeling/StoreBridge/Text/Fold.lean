/-!
# Letter case

ASCII case folding, and the lower case of a text as far as patterns of ASCII characters can tell.
Searching and splitting of character lists live here as well.
-/

namespace StoreBridge

/-- The lower case of an ASCII letter; every other character is kept. -/
def asciiLower (c : Char) : Char :=
  if 'A' ≤ c ∧ c ≤ 'Z' then Char.ofNat (c.toNat + 32) else c

/-- Equality of texts up to the case of ASCII letters. -/
def sameIgnoringCase (xs ys : List Char) : Bool :=
  xs.map asciiLower == ys.map asciiLower

/-- The ASCII part of the lower case of a character. Besides the ASCII letters just two characters
have a lower case that holds an ASCII letter: the Kelvin sign and the capital I with a dot. -/
def lowerChar (c : Char) : List Char :=
  if c = '\u212a' then ['k']
  else if c = '\u0130' then ['i', '\u0307']
  else [asciiLower c]

/-- The lower case of a text, exact in its ASCII characters. -/
def lower (cs : List Char) : List Char :=
  cs.flatMap lowerChar

/-- Whether `pat` occurs in the text. -/
def occursIn (pat : List Char) : List Char → Bool
  | [] => pat.isEmpty
  | c :: cs => pat.isPrefixOf (c :: cs) || occursIn pat cs

/-- The part before the first occurrence of `pat` and the part after it. -/
def splitAtFirst (pat : List Char) : List Char → Option (List Char × List Char)
  | [] => if pat.isEmpty then some ([], []) else none
  | c :: cs =>
    if pat.isPrefixOf (c :: cs) then some ([], (c :: cs).drop pat.length)
    else (splitAtFirst pat cs).map fun (before, after) => (c :: before, after)

/-- The part before the last `sep` and the part after it. -/
def splitAtLast (sep : Char) : List Char → Option (List Char × List Char)
  | [] => none
  | c :: cs =>
    match splitAtLast sep cs with
    | some (before, after) => some (c :: before, after)
    | none => if c = sep then some ([], cs) else none

/-- The pieces between the separators; there is one more piece than separators. -/
def splitOnChar (sep : Char) : List Char → List (List Char)
  | [] => [[]]
  | c :: cs =>
    if c = sep then [] :: splitOnChar sep cs
    else
      match splitOnChar sep cs with
      | [] => [[c]]
      | piece :: pieces => (c :: piece) :: pieces

/-- The pieces put together again with `sep` between them. -/
def joinWith (sep : List Char) : List (List Char) → List Char
  | [] => []
  | [xs] => xs
  | xs :: rest => xs ++ sep ++ joinWith sep rest

/-- Splitting leaves one piece at least. -/
theorem splitOnChar_ne_nil (sep : Char) (cs : List Char) : splitOnChar sep cs ≠ [] := by
  cases cs with
  | nil => simp [splitOnChar]
  | cons c cs =>
    unfold splitOnChar
    split
    · simp
    · split <;> simp

/-- Splitting and joining at the same character gives the text back. -/
theorem joinWith_splitOnChar (sep : Char) (cs : List Char) :
    joinWith [sep] (splitOnChar sep cs) = cs := by
  induction cs with
  | nil => rfl
  | cons c cs ih =>
    obtain ⟨p, ps, hs⟩ := List.exists_cons_of_ne_nil (splitOnChar_ne_nil sep cs)
    rw [hs] at ih
    unfold splitOnChar
    split
    next h => simp [hs, joinWith, ih, h]
    next h => cases ps <;> simpa [hs, joinWith] using ih

end StoreBridge
