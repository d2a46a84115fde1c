import StoreBridge.Number.HexDigit
import StoreBridge.Sqlite.Datum
import StoreBridge.Text.Fold

/-!
# Tokens

The words of SQL text. Blanks and comments separate tokens and are dropped; every other character
belongs to exactly one token. A character that begins no token, or a quotation that is not closed,
becomes an illegal token, so that splitting never fails.
-/

namespace StoreBridge

namespace Sqlite

/-- The kinds of tokens. -/
inductive TokenKind where
  /-- A keyword or a bare name. -/
  | word
  /-- A name in quotation marks, backticks or brackets. -/
  | quotedName
  | string
  | integer
  | float
  | blob
  /-- A placeholder. -/
  | variable
  | symbol
  | illegal
  deriving DecidableEq, Repr, Inhabited

/-- A token: its characters, what stands between its quotes, and where it begins and ends. -/
structure Token where
  kind : TokenKind
  text : String
  content : String
  start : Nat
  stop : Nat
  deriving Repr, Inhabited

namespace Token

/-- A blank between tokens. -/
def isSpace (c : Char) : Bool :=
  c = ' ' || c = '\t' || c = '\n' || c = '\x0c' || c = '\r'

/-- A character inside a name. Everything beyond ASCII may stand in names. -/
def isNameChar (c : Char) : Bool :=
  c.isAlphanum || c = '_' || c = '$' || 128 ≤ c.toNat

/-- A character that begins a name. -/
def isNameStart (c : Char) : Bool :=
  c.isAlpha || c = '_' || 128 ≤ c.toNat

/-- The symbols of two characters and more. -/
def longSymbols : List String :=
  ["->>", "->", "==", "<=", "<>", "<<", ">=", ">>", "!=", "||"]

/-- The symbols of one character. -/
def shortSymbols : List Char :=
  ['(', ')', ';', '+', '*', '/', '%', '=', '<', '>', '|', ',', '&', '~', '.', '-']

/-- The length of a quotation behind its opening mark, and what is quoted; the mark is doubled
inside. Nothing if the quotation is not closed. -/
def quotation? (mark : Char) : List Char → Option (Nat × List Char)
  | [] => none
  | c :: rest =>
    if c ≠ mark then (quotation? mark rest).map fun (n, cs) => (n + 1, c :: cs)
    else
      match rest with
      | d :: rest' =>
        if d = mark then (quotation? mark rest').map fun (n, cs) => (n + 2, mark :: cs)
        else some (1, [])
      | [] => some (1, [])

/-- The length of a run of digits; a single underscore may stand between two of them. `inside` says
that a digit has just been read. -/
def digitRunFrom (isDigit : Char → Bool) (inside : Bool) : List Char → Nat
  | [] => 0
  | c :: rest =>
    if isDigit c then 1 + digitRunFrom isDigit true rest
    else if inside && c = '_' && rest.head?.any isDigit then 1 + digitRunFrom isDigit false rest
    else 0

/-- The length of a run of digits. -/
def digitRun (isDigit : Char → Bool) (cs : List Char) : Nat := digitRunFrom isDigit false cs

/-- Whether a character is a hexadecimal digit. -/
def isHexDigit (c : Char) : Bool := (hexValue? c).isSome

/-- The length of the exponent of a number, zero if there is none. -/
def exponentRun : List Char → Nat
  | c :: rest =>
    if c = 'e' ∨ c = 'E' then
      match rest with
      | s :: digits =>
        if isDigit s then 1 + digitRun isDigit rest
        else if (s = '+' ∨ s = '-') ∧ digitRun isDigit digits ≠ 0 then
          2 + digitRun isDigit digits
        else 0
      | [] => 0
    else 0
  | [] => 0

/-- The length of a number and whether it is a whole one. -/
def numberRun (cs : List Char) : Nat × Bool :=
  match cs with
  | '0' :: x :: rest =>
    if (x = 'x' ∨ x = 'X') ∧ digitRun isHexDigit rest ≠ 0 then
      (2 + digitRun isHexDigit rest, true)
    else decimal cs
  | _ => decimal cs
where
  /-- The length of a decimal number and whether it is a whole one. -/
  decimal (cs : List Char) : Nat × Bool :=
    let whole := digitRun isDigit cs
    let fraction :=
      match cs.drop whole with
      | '.' :: rest => 1 + digitRun isDigit rest
      | _ => 0
    let exponent := exponentRun (cs.drop (whole + fraction))
    (whole + fraction + exponent, fraction = 0 && exponent = 0)

/-- The length of the name of a placeholder behind its mark. A name may contain double colons. -/
def variableRun : List Char → Nat
  | [] => 0
  | c :: rest =>
    if isNameChar c then 1 + variableRun rest
    else if c = ':' then
      match rest with
      | ':' :: rest' => 2 + variableRun rest'
      | _ => 0
    else 0

/-- The length of a comment or blank at the beginning of a text. -/
def gapRun : List Char → Nat
  | '-' :: '-' :: rest => 2 + (rest.takeWhile (· ≠ '\n')).length
  | '/' :: '*' :: c :: rest => 2 + block (c :: rest)
  | c :: _ => if isSpace c then 1 else 0
  | [] => 0
where
  /-- The length of a comment behind its opening; one that is not closed runs to the end. -/
  block : List Char → Nat
    | '*' :: '/' :: _ => 2
    | _ :: rest => 1 + block rest
    | [] => 0

/-- The kind, the length and the content of the token at the beginning of a text, which is neither
blank nor comment. -/
def shape (cs : List Char) : TokenKind × Nat × List Char :=
  let bare (kind : TokenKind) (n : Nat) : TokenKind × Nat × List Char := (kind, n, cs.take n)
  let quoted (kind : TokenKind) (mark : Char) (rest : List Char) : TokenKind × Nat × List Char :=
    match quotation? mark rest with
    | some (n, content) => (kind, n + 1, content)
    | none => bare .illegal cs.length
  match cs with
  | [] => bare .illegal 0
  | c :: rest =>
    if c = '\'' then quoted .string c rest
    else if c = '"' ∨ c = '\x60' then quoted .quotedName c rest
    else if c = '[' then
      let inner := rest.takeWhile (· ≠ ']')
      if inner.length < rest.length then (.quotedName, inner.length + 2, inner)
      else bare .illegal cs.length
    else if isDigit c ∨ (c = '.' ∧ (rest.head?.any isDigit)) then
      let (n, whole) := numberRun cs
      -- Characters of a name right behind a number make it an illegal token.
      let junk := ((cs.drop n).takeWhile isNameChar).length
      if junk ≠ 0 then bare .illegal (n + junk)
      else bare (if whole then .integer else .float) n
    else if c = '?' then bare .variable (1 + (rest.takeWhile isDigit).length)
    else if c = '$' ∨ c = '@' ∨ c = ':' ∨ c = '#' then
      let n := variableRun rest
      bare (if n = 0 then .illegal else .variable) (n + 1)
    else if (c = 'x' ∨ c = 'X') ∧ rest.head? = some '\'' then
      let inner := (rest.drop 1).takeWhile (· ≠ '\'')
      if inner.all isHexDigit ∧ inner.length % 2 = 0 ∧ inner.length + 1 < rest.length then
        (.blob, inner.length + 3, inner)
      else bare .illegal (min cs.length (inner.length + 3))
    else if isNameStart c then bare .word (cs.takeWhile isNameChar).length
    else
      match longSymbols.find? fun s => s.toList.isPrefixOf cs with
      -- A symbol of several characters goes before one that begins it.
      | some s => bare .symbol s.length
      | none => bare (if shortSymbols.contains c then .symbol else .illegal) 1

/-- Splits a text into tokens, from a place on. Every step takes at least one character, so the
length of the text bounds the steps. -/
def splitFrom : Nat → Nat → List Char → List Token
  | 0, _, _ => []
  | _, _, [] => []
  | fuel + 1, start, cs =>
    let gap := gapRun cs
    if gap ≠ 0 then splitFrom fuel (start + gap) (cs.drop gap)
    else
      let (kind, n, content) := shape cs
      let n := max n 1
      ⟨kind, String.ofList (cs.take n), String.ofList content, start, start + n⟩ ::
        splitFrom fuel (start + n) (cs.drop n)

/-- The tokens of a text. -/
def split (text : String) : List Token :=
  splitFrom (text.length + 1) 0 text.toList

/-- The word in lower case, if the token is a bare word. -/
def keyword? (t : Token) : Option String :=
  if t.kind = .word then some (String.ofList (t.text.toList.map asciiLower)) else none

/-- Whether the token is a symbol. -/
def isSymbol (t : Token) (s : String) : Bool :=
  t.kind = .symbol && t.text == s

end Token

end Sqlite

end StoreBridge
