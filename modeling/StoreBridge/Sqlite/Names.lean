import StoreBridge.Sqlite.Aggregate
import StoreBridge.Sqlite.Relation
import StoreBridge.Sqlite.Term

/-!
# Names in a query

What the names of an expression stand for. A name of a column is looked for in the sources of the
query first, then among the aliases of its result; a name in quotation marks that is neither is a
text, and the words for truth values are numbers. A name that two sources have needs its source in
front of it.
-/

namespace StoreBridge

namespace Sqlite

/-- What the connection remembers of the changes made on it. -/
structure Counters where
  /-- The number of the row inserted last. -/
  lastNumber : Int := 0
  /-- The number of rows that the last change touched. -/
  changes : Nat := 0
  /-- The number of rows touched so far. -/
  total : Nat := 0
  deriving DecidableEq, Repr, Inhabited

/-- What a statement is prepared against. -/
structure Context where
  catalog : Catalog
  /-- The values of the placeholders, by their numbers from one. -/
  arguments : List Datum
  counters : Counters
  /-- The named queries, the innermost first. -/
  named : List (String × Relation) := []

namespace Context

/-- The value of a placeholder; without one it is null. -/
def argument (c : Context) (number : Nat) : Datum := c.arguments.getD (number - 1) .null

/-- The rows of a table or a named query, under the name of a source. -/
def relation (c : Context) (name source : String) : Except Fault Relation :=
  match c.named.find? fun (known, _) => sameName known name with
  | some (_, r) => .ok (r.named (some source))
  | none =>
    match c.catalog.find? name with
    | some t => .ok (t.relation source)
    | none => .error (.generic ("no such table: " ++ name))

/-- The value of a function of the connection. -/
def connectionValue? (c : Context) (function : String) : Option Datum :=
  match String.ofList (function.toList.map asciiLower) with
  | "last_insert_rowid" => some (.int c.counters.lastNumber)
  | "changes" => some (.int c.counters.changes)
  | "total_changes" => some (.int c.counters.total)
  | "sqlite_version" => some (.text "3.46.0")
  | _ => none

end Context

/-- A prepared expression, with what comparisons need to know of it. -/
structure Bound where
  term : Term
  /-- The affinity of the column it is. -/
  affinity : Option Affinity := none
  collation : Option Collation := none
  /-- Whether the collation is written in the expression. -/
  explicit : Bool := false
  /-- The declared type of the column it is. -/
  declared : Option String := none
  deriving Inhabited

namespace Bound

/-- A prepared expression that is not a column. -/
def ofTerm (t : Term) : Bound := { term := t }

/-- A value made of parts: a collation written in one of them counts for the whole. -/
def ofParts (parts : List Bound) (t : Term) : Bound :=
  match parts.find? Bound.explicit with
  | some p => { term := t, collation := p.collation, explicit := true }
  | none => ofTerm t

/-- The collation of a comparison: a written one first, and the left side before the right one. -/
def orderWith (a b : Bound) : Collation :=
  if a.explicit then a.collation.getD .binary
  else if b.explicit then b.collation.getD .binary
  else (a.collation.or b.collation).getD .binary

/-- The collation of the value alone. -/
def order (a : Bound) : Collation := a.collation.getD .binary

/-- A comparison of two values. -/
def compare (op : Comparison) (a b : Bound) : Term :=
  .compare op (Affinity.conversion a.affinity b.affinity) (a.orderWith b) a.term b.term

/-- The test whether a value is true, or false, with null as neither. The answer is negated for
`is not`. -/
def truthTest (op : Comparison) (wanted : Bool) (a : Bound) : Term :=
  let holds := if wanted then a.term else .unary .not a.term
  let answer (b : Bool) : Term := .value (Datum.ofBool b)
  .caseOf [(holds, answer (op = .is))] (answer (op ≠ .is))

/-- A column of a relation. -/
def ofHeading (h : Heading) (index : Nat) : Bound where
  term := .cell index
  affinity := h.affinity
  collation := h.collation
  declared := h.declared

/-- The heading of a result column that shows the value. -/
def heading (b : Bound) (name : String) : Heading where
  source := none
  name := name
  affinity := b.affinity
  collation := b.collation
  declared := b.declared

end Bound

/-- A function of rows in a query. -/
structure AggregateCall where
  function : AggregateFunction
  distinct : Bool
  arguments : List Term
  collation : Collation

/-- Whether functions of rows may stand in an expression, and why not. -/
inductive CallRule where
  | allowed
  /-- Nothing is grouped. -/
  | ungrouped
  /-- The rows are not in groups yet. -/
  | beforeGroups
  /-- The expression decides the groups. -/
  | inKeys
  deriving DecidableEq, Repr, Inhabited

/-- The message that refuses a function of rows. -/
def CallRule.refusal? (rule : CallRule) (function : String) : Option String :=
  match rule with
  | .allowed => none
  | .ungrouped => some ("misuse of aggregate function " ++ function ++ "()")
  | .beforeGroups => some ("misuse of aggregate: " ++ function ++ "()")
  | .inKeys => some "aggregate functions are not allowed in the GROUP BY clause"

/-- The names that an expression can use. -/
structure Names where
  headings : List Heading
  /-- The names of result columns. -/
  aliases : List (String × Expr) := []
  /-- Whether functions of rows may stand here. -/
  calls : CallRule := .ungrouped

namespace Names

/-- The text of a column's name as it is written. -/
def written (source : Option String) (name : String) : String :=
  (source.elim "" (· ++ ".")) ++ name

/-- The column that a name stands for. -/
def find? (n : Names) (source : Option String) (name : String) : Except Fault (Option Bound) :=
  let places := n.headings.zipIdx
  match places.filter fun (h, _) => h.answers source name with
  | [(h, i)] => .ok (some (.ofHeading h i))
  | _ :: _ => .error (.generic ("ambiguous column name: " ++ written source name))
  | [] =>
    if Table.isNumberName name then
      match places.filter fun (h, _) => h.isNumberOf source with
      | [(h, i)] => .ok (some (.ofHeading h i))
      | _ :: _ => .error (.generic ("ambiguous column name: " ++ written source name))
      | [] => .ok none
    else .ok none

/-- The expression that an alias stands for. -/
def alias? (n : Names) (source : Option String) (name : String) : Option Expr :=
  if source.isSome then none
  else (n.aliases.find? fun (known, _) => sameName known name).map Prod.snd

/-- The truth value that a bare word is. -/
def truthWord? (source : Option String) (name : String) : Option Bool :=
  if source.isSome then none
  else if sameName name "true" then some true
  else if sameName name "false" then some false
  else none

/-- What a name is that stands for no column: a text if it is in quotation marks, or a truth
value. -/
def constant? (source : Option String) (name : String) (quoted : Bool) : Option Datum :=
  if source.isNone && quoted then some (.text name)
  else (truthWord? source name).map Datum.ofBool

/-- The failure of a name that stands for nothing. -/
def unknown (source : Option String) (name : String) : Fault :=
  .generic ("no such column: " ++ written source name)

/-- The names without the aliases. -/
def withoutAliases (n : Names) : Names := { n with aliases := [] }

end Names

/-- The places of result columns in a list: a number from one on is such a place. -/
def ordinal (n : Nat) : String :=
  let ending :=
    if n % 100 / 10 = 1 then "th"
    else
      match n % 10 with
      | 1 => "st"
      | 2 => "nd"
      | 3 => "rd"
      | _ => "th"
  natText n ++ ending

end Sqlite

end StoreBridge
