import StoreBridge.Query.Operation

/-!
# Queries on collections

A chain on a collection is gathered into a `DocumentDraft` from left to right. The conditions of all
filters are written into one filter, a later value of a key replacing an earlier one, and that
filter goes with find, update and delete wherever in the chain they stand. The first select gives
the projection; of insert, update, aggregate and limit the last one counts.
-/

namespace StoreBridge

/-- What a chain on a collection has asked for so far. -/
structure DocumentDraft where
  filter : Members := []
  selected : Option (Option (List String)) := none
  insert : Option (List Members) := none
  update : Option Members := none
  delete : Bool := false
  aggregate : Option (List Json) := none
  sort : List (String × Direction) := []
  limit : Option Nat := none
  deriving DecidableEq, Repr, Inhabited

namespace DocumentDraft

/-- Takes one more operation. -/
def add (d : DocumentDraft) : Operation → Except DbError DocumentDraft
  -- All conditions are in one document, where a later value of a key replaces an earlier one.
  | .filter conditions => do
    let members ← objectPayload "where" conditions
    return { d with filter := d.filter.setAll members }
  -- The first selection stays; of the other operations it is the last.
  | .select columns => .ok { d with selected := d.selected.or (some columns) }
  | .insert data => do
    let rows ← insertRows data
    return { d with insert := some rows }
  | .update data => do
    let members ← objectPayload "update" data
    return { d with update := some members }
  | .delete => .ok { d with delete := true }
  | .aggregate (.array stages) => .ok { d with aggregate := some stages }
  | .aggregate other =>
    .error (.invalidQuery (.badPayload "aggregate" "an array of stages" other.kindName))
  | .limit n => .ok { d with limit := some n }
  | .orderBy field direction => .ok { d with sort := d.sort ++ [(field, direction)] }

/-- What a whole chain asks for. -/
def ofChain (ops : List Operation) : Except DbError DocumentDraft :=
  ops.foldlM add {}

/-- The listed fields of the first select; an empty list counts as none. -/
def projection (d : DocumentDraft) : Option (List String) :=
  d.selected.join.filter fun fields => !fields.isEmpty

/-- The operation a draft stands for. -/
def operation (d : DocumentDraft) : DocumentOperation where
  find := d.selected.map fun _ => d.filter
  insert := d.insert
  update := d.update.map fun changes => ⟨d.filter, changes⟩
  delete := if d.delete then some d.filter else none
  aggregate := d.aggregate
  projection := d.projection
  sort := d.sort
  limit := d.limit

end DocumentDraft

/-- Compiles a chain on a collection. -/
def compileDocument (s : Schema) (ops : List Operation) : Except DbError DocumentRequest := do
  let draft ← DocumentDraft.ofChain ops
  if draft.operation.isEmpty then .error (.emptyQuery s.name)
  else return ⟨s.name, draft.operation⟩

end StoreBridge
