import StoreBridge.Sqlite.Plan

/-!
# Joins

The sources of a query are joined from left to right. A join keeps the pairs of rows that agree on
the columns the sources share and pass the condition of the join. An outer join also keeps rows
without a partner and fills up with nulls. Sharing a column hides the right one of the two: by its
name alone the column stands for the left one.
-/

namespace StoreBridge

namespace Sqlite

/-- Whether rows of the left side without a partner are kept. -/
def JoinKind.keepsLeft : JoinKind → Bool
  | .left => true
  | .full => true
  | _ => false

/-- Whether rows of the right side without a partner are kept. -/
def JoinKind.keepsRight : JoinKind → Bool
  | .right => true
  | .full => true
  | _ => false

/-- A source that is joined to those before it. -/
structure JoinStep where
  kind : JoinKind
  right : Relation
  /-- The shared columns: their places on the left and on the right, and the test that they agree.
  -/
  shared : List (Nat × Nat × Term)
  on : Option Expr

/-- The sources of a query: the headings of all of them, and the steps that join them. -/
structure Sources where
  headings : List Heading
  steps : List JoinStep

namespace Sources

/-- No sources. -/
def none : Sources := ⟨[], []⟩

/-- The place of the first column with a name. -/
def columnNamed? (headings : List Heading) (name : String) : Option (Heading × Nat) :=
  headings.zipIdx.find? fun (h, _) => h.role = .shown && sameName h.name name

/-- The columns of a further source that the sources already have. -/
def common (s : Sources) (right : Relation) : List String :=
  (right.headings.filter fun h => h.role = .shown && (columnNamed? s.headings h.name).isSome).map
    Heading.name

/-- A column that is shared with a further source. -/
def share (s : Sources) (right : Relation) (name : String) : Except Fault (Nat × Nat × Term) :=
  match columnNamed? s.headings name, columnNamed? right.headings name with
  | some (h, i), some (k, n) =>
    .ok (i, n, Bound.compare .eq (.ofHeading h i) (.ofHeading k (s.headings.length + n)))
  | _, _ => fails ("cannot join using column " ++ name ++ " - column not present in both tables")

/-- Adds a source that is joined on its shared columns. -/
def add (s : Sources) (kind : JoinKind) (right : Relation) (names : List String)
    (on : Option Expr) : Except Fault Sources := do
  let shared ← names.mapM (s.share right)
  let hide (h : Heading) : Heading :=
    if h.role = .shown && names.any (sameName h.name) then { h with role := .merged } else h
  return ⟨s.headings ++ right.headings.map hide, s.steps ++ [⟨kind, right, shared, on⟩]⟩

/-- Whether the conditions of inner joins may wait until all sources are joined. -/
def canWait (s : Sources) : Bool := s.steps.all fun j => !j.kind.keepsRight

end Sources

namespace JoinStep

/-- A row of nulls. -/
def nulls (width : Nat) : List Datum := List.replicate width .null

/-- A row of the right side without a partner. The shared columns show its values. -/
def loneRight (j : JoinStep) (width : Nat) (row : List Datum) : List Datum :=
  j.shared.foldl (fun left (i, n, _) => left.set i (row.getD n .null)) (nulls width) ++ row

/-- Joins the rows of the left side, which have a width, with those of the right side. -/
def run (j : JoinStep) (width : Nat) (condition : Option Term) (left : List (List Datum)) :
    Except Fault (List (List Datum)) := do
  let terms := (j.shared.map fun (_, _, t) => t) ++ condition.toList
  let pairs ← left.mapM fun l => do
    let partners ← j.right.rows.zipIdx.filterM fun (r, _) => allTrue terms (l ++ r)
    return (l, partners)
  let joined := pairs.flatMap fun (l, partners) =>
    if partners.isEmpty && j.kind.keepsLeft then [l ++ nulls j.right.headings.length]
    else partners.map fun (r, _) => l ++ r
  let found := pairs.flatMap fun (_, partners) => partners.map Prod.snd
  let lone := j.right.rows.zipIdx.filter fun (_, i) => j.kind.keepsRight && !found.contains i
  return joined ++ lone.map fun (r, _) => j.loneRight width r

end JoinStep

/-- Joins the sources, each step with its condition. The conditions of inner joins are tested at the
end where they may wait, since they may name sources that are joined later. -/
def Sources.run (s : Sources) (conditions : List (Option Term)) :
    Except Fault (List (List Datum)) := do
  let waits (j : JoinStep) : Bool := s.canWait && j.kind = .inner
  let steps := s.steps.zip conditions
  let (_, rows) ← steps.foldlM (fun (width, rows) (j, condition) => do
    let now := if waits j then Option.none else condition
    return (width + j.right.headings.length, ← j.run width now rows)) (0, [[]])
  let late := (steps.filter fun (j, _) => waits j).filterMap Prod.snd
  rows.filterM (allTrue late)

end Sqlite

end StoreBridge
