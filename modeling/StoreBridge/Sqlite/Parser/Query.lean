import StoreBridge.Sqlite.Parser.Basic
import StoreBridge.Sqlite.Syntax

/-!
# Reading expressions and queries

Operators bind by levels, from `or` up to `collate`; operators of one level group from the left.
Expressions and queries contain each other, so they are read by mutual recursion. The recursion is
bounded by fuel, which is computed from the number of tokens: every round trip through the rules
reads at least one token.
-/

namespace StoreBridge

namespace Sqlite

namespace Rule

/-- The levels at which operators bind. -/
inductive Level where
  | or
  | and
  | not
  | equality
  | order
  | bits
  | sum
  | product
  | concat
  | collate
  | operand
  deriving DecidableEq, Repr

/-- The height of a level. -/
def Level.height : Level → Nat
  | .or => 1
  | .and => 2
  | .not => 3
  | .equality => 4
  | .order => 5
  | .bits => 6
  | .sum => 7
  | .product => 8
  | .concat => 9
  | .collate => 10
  | .operand => 11

/-- An operator between two expressions: its level and the level of its right operand. -/
structure Infix where
  level : Level
  right : Level
  build : Expr → Expr → Expr

/-- The operators that are symbols. -/
def symbolInfix? (s : String) : Option Infix :=
  let both (level right : Level) (op : BinaryOp) : Option Infix := some ⟨level, right, .binary op⟩
  let test (level right : Level) (op : Comparison) : Option Infix :=
    some ⟨level, right, .compare op⟩
  match s with
  | "=" | "==" => test .equality .order .eq
  | "!=" | "<>" => test .equality .order .ne
  | "<" => test .order .bits .lt
  | "<=" => test .order .bits .le
  | ">" => test .order .bits .gt
  | ">=" => test .order .bits .ge
  | "&" => both .bits .sum .bitAnd
  | "|" => both .bits .sum .bitOr
  | "<<" => both .bits .sum .shiftLeft
  | ">>" => both .bits .sum .shiftRight
  | "+" => both .sum .product .add
  | "-" => both .sum .product .sub
  | "*" => both .product .concat .mul
  | "/" => both .product .concat .div
  | "%" => both .product .concat .rem
  | "||" => both .concat .collate .concat
  | _ => none

/-- The operators that are words. -/
def wordInfix? (s : String) : Option Infix :=
  match s with
  | "or" => some ⟨.or, .and, .binary .or⟩
  | "and" => some ⟨.and, .not, .binary .and⟩
  | _ => none

/-- The operator that a token is. -/
def infix? (t : Token) : Option Infix :=
  if t.kind = .symbol then symbolInfix? t.text else t.keyword?.bind wordInfix?

/-- The value of a whole number, in decimal or hexadecimal digits. -/
def wholeNumber (text : String) : Datum :=
  let cs := text.toList.filter (· ≠ '_')
  match cs with
  | '0' :: x :: digits =>
    if x = 'x' ∨ x = 'X' then
      let n := (digits.filterMap hexValue?).foldl (fun n d => 16 * n + d) 0
      .int (Bytes.signed 64 (n % pow2 64))
    else (LeadingNumber.read cs).toDatum
  | _ => (LeadingNumber.read cs).toDatum

/-- The value of a literal token. -/
def literal? (t : Token) : Option Datum :=
  match t.kind with
  | .integer => some (wholeNumber t.text)
  | .float => some (.real (LeadingNumber.read (t.text.toList.filter (· ≠ '_'))).toReal)
  | .string => some (.text t.content)
  | .blob => some (.blob ((Bytes.ofHex? (t.content.toList.map asciiLower)).getD []))
  | _ => none

/-- The smallest integer has no positive counterpart, so its digits behind a minus sign are read
with the sign. -/
def minusLiteral? (t : Token) : Option Datum :=
  match literal? t with
  | some (.real _) =>
    if t.kind = .integer ∧ natOfDigits t.text.toList = pow2 63 then some (.int minInt64) else none
  | _ => none

/-- Whether a query begins here. -/
def seesQuery : Rule Bool := seesAny ["select", "values", "with"]

/-- The name of a declared type: names, and up to two numbers in parentheses. -/
def typeName : Rule String := do
  let isTypeWord (t : Token) : Bool := isBareAlias t
  let rec words : Nat → Rule Unit
    | 0 => return ()
    | fuel + 1 => do
      if (← peek?).any isTypeWord then
        advance
        words fuel
  if (← peek?).any isTypeWord then
    let (_, text) ← written do
      words (← get).tokens.length
      if ← acceptSymbol "(" then
        let _ ← items number
        expectSymbol ")"
    return text
  else return ""
where
  /-- A number with an optional sign. -/
  number : Rule Unit := do
    if !(← acceptSymbol "-") then discard (acceptSymbol "+")
    match ← peek? with
    | some t => if t.kind = .integer ∨ t.kind = .float then advance else refuse
    | none => refuse

/-- The direction of a term, and where null stands. -/
def termOrder : Rule TermOrder := do
  let descending ← if ← accept "asc" then pure false else accept "desc"
  if ← accept "nulls" then
    if ← accept "first" then return ⟨descending, some true⟩
    expect "last"
    return ⟨descending, some false⟩
  return ⟨descending, none⟩

/-- How two queries are combined, if another one follows. -/
def compound? : Rule (Option CompoundOp) := do
  if ← accept "union" then
    return some (if ← accept "all" then .unionAll else .union)
  if ← accept "intersect" then return some .intersect
  if ← accept "except" then return some .except
  return none

/-- What the words in front of `join` mean: the kind of the join, and whether it is natural. -/
def joinKind? (words : List String) : Option (JoinKind × Bool) :=
  let has (w : String) : Bool := words.contains w
  let left := has "left" || has "full"
  let right := has "right" || has "full"
  let outer := left || right || has "outer"
  let inner := has "inner" || has "cross"
  if !words.all joining.contains || (inner && outer) || (outer && !left && !right) then none
  else
    let kind : JoinKind :=
      if left && right then .full else if left then .left else if right then .right else .inner
    some (kind, has "natural")

/-- Reads the words between the first one and `join`. -/
def joinWords : Nat → Rule (List String)
  | 0 => do
    expect "join"
    return []
  | fuel + 1 => do
    if ← accept "join" then return []
    let word ← name
    return word :: (← joinWords fuel)

/-- How another table is joined, if one follows. -/
def join? : Rule (Option (JoinKind × Bool)) := do
  if ← acceptSymbol "," then return some (.inner, false)
  if ← accept "join" then return some (.inner, false)
  if ← seesAny joining then
    let words := (← name) :: (← joinWords 2)
    match joinKind? (words.map fun w => String.ofList (w.toList.map asciiLower)) with
    | some found => return some found
    | none => throw ("unknown join type: " ++ " ".intercalate words)
  return none

mutual

/-- Reads an expression whose operators bind at a level or tighter. -/
def expr (fuel : Nat) (level : Level) : Rule Expr :=
  match fuel with
  | 0 => refuse
  | fuel + 1 => do
    let left ← operand fuel
    continued fuel level left
termination_by structural fuel

/-- Reads the operators that follow an expression. -/
def continued (fuel : Nat) (level : Level) (left : Expr) : Rule Expr :=
  match fuel with
  | 0 => return left
  | fuel + 1 => do
    match ← peek? with
    | none => return left
    | some t =>
      match infix? t with
      | some op =>
        -- A weaker operator is left to the caller, which reads at a weaker level.
        if level.height ≤ op.level.height then
          advance
          let right ← expr fuel op.right
          continued fuel level (op.build left right)
        else return left
      | none =>
        if t.keyword? = some "collate" then
          advance
          let collation ← name
          continued fuel level (.collate left collation)
        -- The tests in words are as weak as equality.
        else if level.height ≤ Level.equality.height then
          match ← test? fuel left with
          | some e => continued fuel level e
          | none => return left
        else return left
termination_by structural fuel

/-- Reads a test written in words behind an expression, if there is one. -/
def test? (fuel : Nat) (left : Expr) : Rule (Option Expr) :=
  match fuel with
  | 0 => return none
  | fuel + 1 => do
    if ← accept "isnull" then return some (.compare .is left (.literal .null))
    if ← accept "notnull" then return some (.compare .isNot left (.literal .null))
    if ← accept "is" then
      let negated ← accept "not"
      if ← accept "distinct" then
        expect "from"
        return some (.compare (if negated then .is else .isNot) left (← expr fuel .order))
      return some (.compare (if negated then .isNot else .is) left (← expr fuel .order))
    -- From here on the test may be negated as a whole.
    let negated ← accept "not"
    let finish (e : Expr) : Expr := if negated then .unary .not e else e
    if negated then
      if ← accept "null" then return some (.compare .isNot left (.literal .null))
    if ← accept "between" then
      let low ← expr fuel .order
      expect "and"
      let high ← expr fuel .order
      return some (finish (.between left low high))
    if ← accept "in" then
      return some (finish (.oneOf left (← choices fuel)))
    if (← sees "like") || (← sees "glob") then
      let kind ← if ← accept "like" then pure PatternKind.like else do
        expect "glob"
        pure .glob
      let pattern ← expr fuel .order
      let escape ← if ← accept "escape" then some <$> expr fuel .order else pure none
      return some (finish (.pattern kind left pattern escape))
    if (← sees "regexp") || (← sees "match") then
      let function ← name
      let pattern ← expr fuel .order
      return some (finish (.call function false [pattern, left]))
    -- The word was read, but no test follows it.
    if negated then refuse
    return none
termination_by structural fuel

/-- Reads what an expression is looked for in. -/
def choices (fuel : Nat) : Rule Choices :=
  match fuel with
  | 0 => refuse
  | fuel + 1 => do
    if ← acceptSymbol "(" then
      if ← seesQuery then
        let q ← select fuel
        expectSymbol ")"
        return .query q
      -- An empty list is allowed, and holds for no value.
      if ← acceptSymbol ")" then return .list []
      let found ← items (expr fuel .or)
      expectSymbol ")"
      return .list found
    return .table (← tableName)
termination_by structural fuel

/-- Reads an expression without operators in the middle. -/
def operand (fuel : Nat) : Rule Expr :=
  match fuel with
  | 0 => refuse
  | fuel + 1 => do
    match ← peek? with
    | none => refuse
    | some t =>
      match literal? t with
      | some d =>
        advance
        return .literal d
      | none =>
        if t.isSymbol "(" then
          advance
          if ← seesQuery then
            let q ← select fuel
            expectSymbol ")"
            return .scalar q
          let found ← items (expr fuel .or)
          expectSymbol ")"
          -- Parentheses around one expression mean nothing.
          match found with
          | [e] => return e
          | es => return .tuple es
        else if t.isSymbol "-" then
          advance
          -- The smallest whole number can only be written with its sign.
          match (← peek?).bind minusLiteral? with
          | some d =>
            advance
            return .literal d
          | none => return .unary .minus (← operand fuel)
        else if t.isSymbol "+" then
          advance
          return .unary .plus (← operand fuel)
        else if t.isSymbol "~" then
          advance
          return .unary .complement (← operand fuel)
        else if t.kind = .variable then
          advance
          return .parameter (← parameter t.text)
        else wordOperand fuel t
termination_by structural fuel

/-- Reads an expression that begins with a word. -/
def wordOperand (fuel : Nat) (t : Token) : Rule Expr :=
  match fuel with
  | 0 => refuse
  | fuel + 1 => do
    if ← accept "null" then return .literal .null
    if ← accept "not" then return .unary .not (← expr fuel .not)
    if ← accept "exists" then
      expectSymbol "("
      let q ← select fuel
      expectSymbol ")"
      return .exists q
    if ← accept "case" then
      let base ← if ← sees "when" then pure none else some <$> expr fuel .or
      let branches ← whens fuel
      let otherwise ← if ← accept "else" then some <$> expr fuel .or else pure none
      expect "end"
      return .caseOf base branches otherwise
    if ← accept "cast" then
      expectSymbol "("
      let e ← expr fuel .or
      expect "as"
      let type ← typeName
      expectSymbol ")"
      return .cast e type
    if isName t then
      advance
      -- The word is a function, a table or schema with a point behind it, or a column.
      if ← acceptSymbol "(" then call fuel (nameOf t)
      else if ← acceptSymbol "." then
        let second ← name
        if ← acceptSymbol "." then return .column (some second) (← name) false
        return .column (some (nameOf t)) second false
      else return .column none (nameOf t) (t.text.toList.head? = some '"')
    else refuse
termination_by structural fuel

/-- Reads the branches of a case. -/
def whens (fuel : Nat) : Rule (List (Expr × Expr)) :=
  match fuel with
  | 0 => refuse
  | fuel + 1 => do
    expect "when"
    let test ← expr fuel .or
    expect "then"
    let value ← expr fuel .or
    if ← sees "when" then return (test, value) :: (← whens fuel)
    return [(test, value)]
termination_by structural fuel

/-- Reads the arguments of a function behind the opening parenthesis. -/
def call (fuel : Nat) (function : String) : Rule Expr :=
  match fuel with
  | 0 => refuse
  | fuel + 1 => do
    if ← acceptSymbol "*" then
      expectSymbol ")"
      return .callAll function
    if ← acceptSymbol ")" then return .call function false []
    let distinct ← if ← accept "all" then pure false else accept "distinct"
    let arguments ← items (expr fuel .or)
    expectSymbol ")"
    return .call function distinct arguments
termination_by structural fuel

/-- Reads a query with its named queries, order and limit. -/
def select (fuel : Nat) : Rule Select :=
  match fuel with
  | 0 => refuse
  | fuel + 1 => do
    let named ← namedQueries fuel
    let first ← core fuel
    let rest ← moreCores fuel
    let orderBy ←
      if ← accept "order" then do
        expect "by"
        items do
          let e ← expr fuel .or
          return (e, ← termOrder)
      else pure []
    if ← accept "limit" then
      let limit ← expr fuel .or
      if ← accept "offset" then
        return .mk named first rest orderBy (some limit) (some (← expr fuel .or))
      -- With a comma, the offset comes first.
      if ← acceptSymbol "," then
        return .mk named first rest orderBy (some (← expr fuel .or)) (some limit)
      return .mk named first rest orderBy (some limit) none
    return .mk named first rest orderBy none none
termination_by structural fuel

/-- Reads the named queries in front of a statement. -/
def namedQueries (fuel : Nat) : Rule (List (String × List String × Select)) :=
  match fuel with
  | 0 => refuse
  | fuel + 1 => do
    if !(← accept "with") then return []
    -- The word may also be the name of the first query.
    if (← sees "recursive") && !(← seesSecond "as") then advance
    items do
      let given ← name
      let columns ← if ← seesSymbol "(" then parenthesized name else pure []
      expect "as"
      if ← accept "not" then expect "materialized" else discard (accept "materialized")
      expectSymbol "("
      let q ← select fuel
      expectSymbol ")"
      return (given, columns, q)
termination_by structural fuel

/-- Reads a query without order and limit. -/
def core (fuel : Nat) : Rule Core :=
  match fuel with
  | 0 => refuse
  | fuel + 1 => do
    if ← accept "values" then
      return .values (← items (parenthesized (expr fuel .or)))
    expect "select"
    let distinct ← if ← accept "all" then pure false else accept "distinct"
    let columns ← items (resultColumn fuel)
    let joins ← if ← accept "from" then sources fuel else pure []
    let filter ← if ← accept "where" then some <$> expr fuel .or else pure none
    let groupBy ←
      if ← accept "group" then do
        expect "by"
        items (expr fuel .or)
      else pure []
    let having ← if ← accept "having" then some <$> expr fuel .or else pure none
    return .select distinct columns joins filter groupBy having
termination_by structural fuel

/-- Reads the further parts of a compound query. -/
def moreCores (fuel : Nat) : Rule (List (CompoundOp × Core)) :=
  match fuel with
  | 0 => refuse
  | fuel + 1 => do
    match ← compound? with
    | none => return []
    | some op =>
      let next ← core fuel
      return (op, next) :: (← moreCores fuel)
termination_by structural fuel

/-- Reads a column of a result. -/
def resultColumn (fuel : Nat) : Rule ResultColumn :=
  match fuel with
  | 0 => refuse
  | fuel + 1 => do
    if ← acceptSymbol "*" then return .all
    -- All columns of one table take three tokens, and else it is an expression.
    let tokens := (← get).tokens
    match tokens with
    | t :: dot :: star :: _ =>
      if isName t && dot.isSymbol "." && star.isSymbol "*" then
        advance
        advance
        advance
        return .allOf (nameOf t)
      let (e, text) ← written (expr fuel .or)
      return .value e (← alias?) text
    | _ =>
      let (e, text) ← written (expr fuel .or)
      return .value e (← alias?) text
termination_by structural fuel

/-- Reads the sources of a query. -/
def sources (fuel : Nat) : Rule (List Join) :=
  match fuel with
  | 0 => refuse
  | fuel + 1 => do
    let first ← joined fuel .inner false
    return first :: (← moreSources fuel)
termination_by structural fuel

/-- Reads the further sources of a query. -/
def moreSources (fuel : Nat) : Rule (List Join) :=
  match fuel with
  | 0 => refuse
  | fuel + 1 => do
    match ← join? with
    | none => return []
    | some (kind, natural) =>
      let next ← joined fuel kind natural
      return next :: (← moreSources fuel)
termination_by structural fuel

/-- Reads a source and what it is joined on. -/
def joined (fuel : Nat) (kind : JoinKind) (natural : Bool) : Rule Join :=
  match fuel with
  | 0 => refuse
  | fuel + 1 => do
    let next ← source fuel
    if ← accept "on" then return .mk kind natural next (some (← expr fuel .or)) []
    if ← accept "using" then return .mk kind natural next none (← parenthesized name)
    return .mk kind natural next none []
termination_by structural fuel

/-- Reads a table, or a query or joined sources in parentheses. -/
def source (fuel : Nat) : Rule Source :=
  match fuel with
  | 0 => refuse
  | fuel + 1 => do
    if ← acceptSymbol "(" then
      if ← seesQuery then
        let q ← select fuel
        expectSymbol ")"
        return .query q (← alias?)
      -- Parentheses that hold no query hold joined sources.
      let inner ← sources fuel
      expectSymbol ")"
      return .joined inner (← alias?)
    let table ← tableName
    return .table table (← alias?)
termination_by structural fuel

end

/-- Enough fuel for the tokens that are left. -/
def fuel : Rule Nat := do return 20 * (← get).tokens.length + 20

/-- Reads an expression. -/
def expression : Rule Expr := do expr (← fuel) .or

/-- Reads a query. -/
def query : Rule Select := do select (← fuel)

end Rule

end Sqlite

end StoreBridge
