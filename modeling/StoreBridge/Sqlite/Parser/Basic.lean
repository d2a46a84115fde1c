import StoreBridge.Sqlite.Token

/-!
# Reading tokens

A reader walks over the tokens of a text and numbers the placeholders on the way. Where no rule
fits, the failure names the token at which reading stopped. Words are names unless they are
reserved.
-/

namespace StoreBridge

namespace Sqlite

/-- The placeholders of a statement: how many numbers are in use, and the names of those that have
one. -/
structure Parameters where
  count : Nat := 0
  names : List (Nat × String) := []
  deriving Repr, Inhabited

namespace Parameters

/-- The name of the placeholder with a number. -/
def name? (p : Parameters) (n : Nat) : Option String :=
  (p.names.find? fun (k, _) => k = n).map Prod.snd

/-- The largest number of a placeholder. -/
def limit : Nat := 32766

/-- Numbers a placeholder. One without a name takes the next number, one that is a number takes that
number, and a name keeps the number of its first occurrence. -/
def assign (p : Parameters) (text : String) : Except String (Nat × Parameters) :=
  match text.toList with
  | ['?'] => .ok (p.count + 1, { p with count := p.count + 1 })
  | '?' :: digits =>
    let n := natOfDigits digits
    if n = 0 ∨ limit < n then .error "variable number must be between ?1 and ?32766"
    else
      .ok (n, { count := max p.count n
                names := if (p.name? n).isSome then p.names else p.names ++ [(n, text)] })
  | _ =>
    match p.names.find? fun (_, name) => name = text with
    | some (n, _) => .ok (n, p)
    | none => .ok (p.count + 1, ⟨p.count + 1, p.names ++ [(p.count + 1, text)]⟩)

end Parameters

/-- What a reader has in front of it. -/
structure Reader where
  source : List Char
  tokens : List Token
  /-- The end of the last token that was read. -/
  stop : Nat := 0
  parameters : Parameters := {}

/-- A rule: it reads tokens and gives a value, or a message. -/
abbrev Rule (α : Type) := StateT Reader (Except String) α

instance {α : Type} : Inhabited (Rule α) := ⟨throw ""⟩

namespace Rule

variable {α : Type}

/-- No rule fits the next token. -/
def refuse : Rule α := do
  match (← get).tokens with
  | [] => throw "incomplete input"
  | t :: _ =>
    if t.kind = .illegal then throw ("unrecognized token: \"" ++ t.text ++ "\"")
    else throw ("near \"" ++ t.text ++ "\": syntax error")

/-- The next token. -/
def peek? : Rule (Option Token) := do return (← get).tokens.head?

/-- The token behind the next one. -/
def peekSecond? : Rule (Option Token) := do return (← get).tokens[1]?

/-- Reads one token. -/
def advance : Rule Unit :=
  modify fun r =>
    match r.tokens with
    | t :: rest => { r with tokens := rest, stop := t.stop }
    | [] => r

/-- Whether the next token is a keyword. -/
def sees (keyword : String) : Rule Bool := do
  return (← peek?).any fun t => t.keyword? == some keyword

/-- Whether the next token is one of several keywords. -/
def seesAny (keywords : List String) : Rule Bool := do
  return (← peek?).any fun t => t.keyword?.any keywords.contains

/-- Whether the token behind the next one is a keyword. -/
def seesSecond (keyword : String) : Rule Bool := do
  return (← peekSecond?).any fun t => t.keyword? == some keyword

/-- Whether the next token is a symbol. -/
def seesSymbol (s : String) : Rule Bool := do
  return (← peek?).any fun t => t.isSymbol s

/-- Reads a keyword if it is the next token. -/
def accept (keyword : String) : Rule Bool := do
  let found ← sees keyword
  if found then advance
  return found

/-- Reads a symbol if it is the next token. -/
def acceptSymbol (s : String) : Rule Bool := do
  let found ← seesSymbol s
  if found then advance
  return found

/-- Reads a keyword. -/
def expect (keyword : String) : Rule Unit := do
  if !(← accept keyword) then refuse

/-- Reads keywords. -/
def expectAll (keywords : List String) : Rule Unit :=
  keywords.forM expect

/-- Reads a symbol. -/
def expectSymbol (s : String) : Rule Unit := do
  if !(← acceptSymbol s) then refuse

/-- The words that are never names. -/
def reserved : List String :=
  ["add", "all", "alter", "and", "as", "autoincrement", "between", "case", "check", "collate",
   "commit", "constraint", "create", "default", "deferrable", "delete", "distinct", "drop", "else",
   "escape", "except", "exists", "foreign", "from", "group", "having", "in", "index", "insert",
   "intersect", "into", "is", "isnull", "join", "limit", "not", "nothing", "notnull", "null", "on",
   "or", "order", "primary", "references", "returning", "select", "set", "table", "then", "to",
   "transaction", "union", "unique", "update", "using", "values", "when", "where"]

/-- The words that join tables. They are names only where nothing can be joined. -/
def joining : List String :=
  ["cross", "full", "inner", "left", "natural", "outer", "right"]

/-- Whether a token can be a name. -/
def isName (t : Token) : Bool :=
  t.kind = .quotedName || t.keyword?.any fun w => !reserved.contains w

/-- Whether a token can be a name even if it is written like a text. -/
def isLooseName (t : Token) : Bool := isName t || t.kind = .string

/-- Whether a token can be an alias that follows without a keyword. -/
def isBareAlias (t : Token) : Bool :=
  isLooseName t && !(t.keyword?.any joining.contains)

/-- The name that a token spells. -/
def nameOf (t : Token) : String :=
  if t.kind = .word then t.text else t.content

/-- Reads a name. -/
def name : Rule String := do
  match ← peek? with
  | some t =>
    if isLooseName t then
      advance
      return nameOf t
    else refuse
  | none => refuse

/-- Reads an alias if there is one. -/
def alias? : Rule (Option String) := do
  if ← accept "as" then return some (← name)
  match ← peek? with
  | some t =>
    if isBareAlias t then
      advance
      return some (nameOf t)
    else return none
  | none => return none

/-- Reads the name of a table. The main database may be named in front of it. -/
def tableName : Rule String := do
  let first ← name
  if ← acceptSymbol "." then
    let second ← name
    return if first.toList.map asciiLower = "main".toList then second else first ++ "." ++ second
  else return first

/-- Reads further items, each behind a comma; `fuel` bounds their number. -/
def moreItems (item : Rule α) : Nat → Rule (List α)
  | 0 => return []
  | fuel + 1 => do
    if ← acceptSymbol "," then
      let first ← item
      return first :: (← moreItems item fuel)
    else return []

/-- Reads items that are separated by commas. -/
def items (item : Rule α) : Rule (List α) := do
  let first ← item
  return first :: (← moreItems item (← get).tokens.length)

/-- Reads items in parentheses. -/
def parenthesized (item : Rule α) : Rule (List α) := do
  expectSymbol "("
  let found ← items item
  expectSymbol ")"
  return found

/-- The text between two places. -/
def textBetween (start stop : Nat) : Rule String := do
  return String.ofList (((← get).source.drop start).take (stop - start))

/-- Where the next token begins. -/
def position : Rule Nat := do
  match ← peek? with
  | some t => return t.start
  | none => return (← get).source.length

/-- Reads something and also gives its text. -/
def written (rule : Rule α) : Rule (α × String) := do
  let start ← position
  let value ← rule
  return (value, ← textBetween start (← get).stop)

/-- Numbers a placeholder. -/
def parameter (text : String) : Rule Nat := do
  let r ← get
  match r.parameters.assign text with
  | .ok (n, parameters) =>
    set { r with parameters := parameters }
    return n
  | .error message => throw message

end Rule

end Sqlite

end StoreBridge
