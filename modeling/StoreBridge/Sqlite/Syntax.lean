import StoreBridge.Sqlite.Datum

/-!
# Statements of the embedded engine

The parts of SQL that the engine runs. Names are kept as they are written; that a table or a column
exists is found out when a statement is prepared.
-/

namespace StoreBridge

namespace Sqlite

/-- The operators with one operand. -/
inductive UnaryOp where
  | plus
  | minus
  | complement
  | not
  deriving DecidableEq, Repr, Inhabited

/-- The comparisons. `is` and `isNot` treat null as a value. -/
inductive Comparison where
  | eq
  | ne
  | lt
  | le
  | gt
  | ge
  | is
  | isNot
  deriving DecidableEq, Repr, Inhabited

/-- The other operators with two operands. -/
inductive BinaryOp where
  | or
  | and
  | add
  | sub
  | mul
  | div
  | rem
  | concat
  | bitAnd
  | bitOr
  | shiftLeft
  | shiftRight
  deriving DecidableEq, Repr, Inhabited

/-- The patterns: `like` with percent signs and underscores, `glob` with stars and question
marks. -/
inductive PatternKind where
  | like
  | glob
  deriving DecidableEq, Repr, Inhabited

/-- How the rows of two queries are combined. -/
inductive CompoundOp where
  | unionAll
  | union
  | intersect
  | except
  deriving DecidableEq, Repr, Inhabited

/-- How a table is joined to those before it. -/
inductive JoinKind where
  | inner
  | left
  | right
  | full
  deriving DecidableEq, Repr, Inhabited

/-- The order of a term: its direction, and where null stands if that is said. -/
structure TermOrder where
  descending : Bool
  nullsFirst : Option Bool
  deriving DecidableEq, Repr, Inhabited

mutual

/-- An expression. -/
inductive Expr where
  | literal (d : Datum)
  /-- A placeholder, by its number from one. -/
  | parameter (number : Nat)
  /-- A column. A name in quotation marks that is no column is a text. -/
  | column (table : Option String) (name : String) (quoted : Bool)
  | unary (op : UnaryOp) (e : Expr)
  | binary (op : BinaryOp) (a b : Expr)
  | compare (op : Comparison) (a b : Expr)
  | between (e low high : Expr)
  | oneOf (e : Expr) (choices : Choices)
  | pattern (kind : PatternKind) (e pattern : Expr) (escape : Option Expr)
  | caseOf (base : Option Expr) (branches : List (Expr × Expr)) (otherwise : Option Expr)
  | call (name : String) (distinct : Bool) (arguments : List Expr)
  /-- A function of all rows, written with a star. -/
  | callAll (name : String)
  | cast (e : Expr) (type : String)
  | collate (e : Expr) (collation : String)
  | exists (q : Select)
  | scalar (q : Select)
  /-- Several values in parentheses. -/
  | tuple (items : List Expr)

/-- What an expression is looked for in. -/
inductive Choices where
  | list (items : List Expr)
  | query (q : Select)
  | table (name : String)

/-- A column of a result. -/
inductive ResultColumn where
  | all
  | allOf (table : String)
  /-- An expression, with its alias if it has one, and as it is written. -/
  | value (e : Expr) (label : Option String) (written : String)

/-- Where rows come from. -/
inductive Source where
  | table (name : String) (label : Option String)
  | query (q : Select) (label : Option String)
  /-- Joined sources in parentheses. -/
  | joined (joins : List Join) (label : Option String)

/-- A source and how it is joined to those before it: on the columns they have in common, on a
condition, or on columns that are named. -/
inductive Join where
  | mk (kind : JoinKind) (natural : Bool) (source : Source) (on : Option Expr)
      (using_ : List String)

/-- A query without order and limit. -/
inductive Core where
  | select (distinct : Bool) (columns : List ResultColumn) (joins : List Join)
      (filter : Option Expr)
      (groupBy : List Expr) (having : Option Expr)
  | values (rows : List (List Expr))

/-- A query: named queries that it uses, its parts, its order and its limit. -/
inductive Select where
  | mk (named : List (String × List String × Select)) (first : Core)
      (rest : List (CompoundOp × Core)) (orderBy : List (Expr × TermOrder))
      (limit offset : Option Expr)

end

instance : Inhabited Expr := ⟨.literal .null⟩

instance : Inhabited Core := ⟨.values []⟩

instance : Inhabited Select := ⟨.mk [] default [] [] none none⟩

/-- What happens when a row breaks a constraint. -/
inductive Conflict where
  | abort
  | rollback
  | fail
  | ignore
  | replace
  deriving DecidableEq, Repr, Inhabited

/-- A constraint on one column. -/
inductive ColumnConstraint where
  | primaryKey (descending autoincrement : Bool)
  | notNull
  | unique
  | check (e : Expr) (written : String)
  | default (e : Expr)
  | collate (collation : String)
  /-- A constraint that the engine accepts and does not enforce. -/
  | other

/-- A column in the declaration of a table: its name, its declared type, and its constraints. -/
structure ColumnDeclaration where
  name : String
  type : String
  constraints : List ColumnConstraint

instance : Inhabited ColumnDeclaration := ⟨⟨"", "", []⟩⟩

/-- A constraint on a table. -/
inductive TableConstraint where
  | primaryKey (columns : List String) (autoincrement : Bool)
  | unique (columns : List String)
  | check (e : Expr) (name : Option String) (written : String)
  | other

/-- What is done instead of an insert that breaks the uniqueness constraint on some columns, or any
such constraint if no columns are given. -/
inductive Upsert where
  | nothing (columns : List String)
  | update (columns : List String) (changes : List (String × Expr)) (filter : Option Expr)

/-- The rows of an insert. -/
inductive InsertRows where
  | query (q : Select)
  | defaults

/-- A change to a declared table. -/
inductive Alteration where
  | renameTo (name : String)
  | renameColumn (old new : String)
  | addColumn (column : ColumnDeclaration)
  | dropColumn (name : String)

/-- A statement. -/
inductive Statement where
  | select (q : Select)
  | createTable (name : String) (ifNotExists : Bool) (columns : List ColumnDeclaration)
      (constraints : List TableConstraint)
  | createTableAs (name : String) (ifNotExists : Bool) (q : Select)
  | createIndex (name : String) (ifNotExists unique : Bool) (table : String)
      (columns : List String)
  | dropTable (name : String) (ifExists : Bool)
  | dropIndex (name : String) (ifExists : Bool)
  | alterTable (name : String) (change : Alteration)
  | insert (named : List (String × List String × Select)) (conflict : Conflict) (table : String)
      (columns : List String) (rows : InsertRows) (upsert : Option Upsert)
      (returning : List ResultColumn)
  | update (named : List (String × List String × Select)) (conflict : Conflict) (table : String)
      (changes : List (String × Expr)) (filter : Option Expr) (returning : List ResultColumn)
  | delete (named : List (String × List String × Select)) (table : String) (filter : Option Expr)
      (returning : List ResultColumn)
  | begin
  | commit
  | rollback
  | savepoint (name : String)
  | release (name : String)
  | rollbackTo (name : String)
  /-- A statement that changes nothing that the engine keeps. -/
  | noEffect

end Sqlite

end StoreBridge
