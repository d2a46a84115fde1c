import StoreBridge.Sqlite.Joins

/-!
# Queries

A query takes rows from its sources and runs a plan over them, combines the results of its parts,
sorts them and cuts them to its limit. Expressions are prepared before any row is looked at, so that
an unknown name is found in an empty table too. A query inside an expression is run when the
expression is prepared.
-/

namespace StoreBridge

namespace Sqlite

/-- Preparing an expression collects the functions of rows in it. -/
abbrev Preparing (α : Type) := StateT (List AggregateCall) (Except Fault) α

/-- Adds a function of rows and gives its place. -/
def Preparing.addCall (c : AggregateCall) : Preparing Term := do
  let calls ← get
  set (calls ++ [c])
  return .aggregate calls.length

/-- The deepest nesting of expressions. -/
def depthLimit : Nat := 1000

/-- An expression is nested too deeply. -/
def tooDeep : Fault := .generic "Expression tree is too large (maximum depth 1000)"

/-- Gives each name only once: a repeated one gets a number behind a colon. -/
def distinctNames (names : List String) : List String :=
  names.foldl (fun seen name => seen ++ [fresh seen name]) []
where
  /-- A name that was not seen yet. -/
  fresh (seen : List String) (name : String) : String :=
    if seen.any (sameName name) then
      let candidates := (List.range (seen.length + 1)).map fun n => name ++ ":" ++ natText (n + 1)
      (candidates.find? fun c => !seen.any (sameName c)).getD name
    else name

/-- The result column that a number or an alias in an order names. -/
def orderPlace? (shown : List (Option String)) : Expr → Option Int
  | .literal (.int n) => some n
  | .unary .minus (.literal (.int n)) => some (-n)
  | .column none name _ =>
    (shown.findIdx? fun label => label.any (sameName name)).map fun (i : Nat) => (i : Int) + 1
  | _ => none

/-- The truth value that an expression is written as. -/
def truthWord? : Expr → Option Bool
  | .column source name false => Names.truthWord? source name
  | _ => none

/-- The failure of a number in an order that names no result column. -/
def outOfRange (clause : String) (place columns : Nat) : Fault :=
  .generic (ordinal place ++ " " ++ clause ++ " BY term out of range - should be between 1 and " ++
    natText columns)

/-- The item at a place from one on. -/
def atPlace? {α : Type} (items : List α) (place : Int) : Option α :=
  if 0 < place then items[place.toNat - 1]? else none

/-- Sorts the rows of a query of several parts. What they are sorted by has to be a result
column. -/
def sortByPlaces (r : Relation) (orderBy : List (Expr × TermOrder)) : Except Fault Relation := do
  let names := r.headings.map fun h => some h.name
  let places ← orderBy.zipIdx.mapM fun ((e, o), i) =>
    let (e, written) :=
      match e with
      | .collate inner c => (inner, some c)
      | e => (e, none)
    -- There is no row to compute an expression on, so it must be a column or its number.
    match orderPlace? names e with
    | none => fails (ordinal (i + 1) ++
        " ORDER BY term does not match any column in the result set")
    | some n =>
      match atPlace? r.headings.zipIdx n with
      | none => .error (outOfRange "ORDER" (i + 1) r.headings.length)
      | some (h, k) => do
        let c ← (written.map collationNamed).getD (.ok h.order)
        return (k, o, c)
  let keyed := r.rows.map fun row => (row, places.map fun (k, _) => row.getD k .null)
  let orders := places.map fun (_, o, c) => (o, c)
  return { r with rows := (sortByKeys orders keyed).map Prod.fst }

mutual

/-- Prepares an expression. -/
def prepare (fuel : Nat) (ctx : Context) (names : Names) (e : Expr) : Preparing Bound :=
  match fuel with
  | 0 => throw tooDeep
  | fuel + 1 => do
    match e with
    | .literal d => return .ofTerm (.value d)
    | .parameter n => return .ofTerm (.value (ctx.argument n))
    | .column source name quoted =>
      -- A column hides a result column of the same name, and both hide a constant.
      match ← names.find? source name with
      | some b => return b
      | none =>
        match names.alias? source name with
        | some e => prepare fuel ctx names.withoutAliases e
        | none =>
          match Names.constant? source name quoted with
          | some d => return .ofTerm (.value d)
          | none => throw (Names.unknown source name)
    -- The sign plus keeps the value and forgets the column it comes from.
    | .unary .plus e =>
      let b ← prepare fuel ctx names e
      return { b with affinity := none, declared := none }
    | .unary op e =>
      let b ← prepare fuel ctx names e
      return .ofParts [b] (.unary op b.term)
    | .binary op a b =>
      let a ← prepare fuel ctx names a
      let b ← prepare fuel ctx names b
      return .ofParts [a, b] (.binary op a.term b.term)
    | .compare op a b =>
      -- `IS TRUE` and `IS FALSE` test a truth value instead of comparing.
      let test := if op.seesNull then truthWord? b else none
      let a ← prepare fuel ctx names a
      let b ← prepare fuel ctx names b
      match test, b.term with
      | some wanted, .value _ => return .ofTerm (Bound.truthTest op wanted a)
      | _, _ => return .ofParts [a, b] (Bound.compare op a b)
    | .between e low high =>
      let b ← prepare fuel ctx names e
      let low ← prepare fuel ctx names low
      let high ← prepare fuel ctx names high
      return .ofParts [b, low, high]
        (.binary .and (Bound.compare .ge b low) (Bound.compare .le b high))
    | .oneOf e choices =>
      let b ← prepare fuel ctx names e
      prepareChoices fuel ctx names b choices
    | .pattern kind e pattern escape =>
      let b ← prepare fuel ctx names e
      let p ← prepare fuel ctx names pattern
      let escape ← escape.mapM (prepare fuel ctx names)
      return .ofParts [b, p] (.pattern kind b.term p.term (escape.map Bound.term))
    | .caseOf base branches otherwise =>
      -- A base is compared with each test; without one the tests are conditions.
      let base ← base.mapM (prepare fuel ctx names)
      let branches ← branches.mapM fun (test, result) => do
        let test ← prepare fuel ctx names test
        let result ← prepare fuel ctx names result
        return (base.elim test.term fun b => Bound.compare .eq b test, result.term)
      let otherwise ← otherwise.mapM (prepare fuel ctx names)
      return .ofTerm (.caseOf branches (otherwise.elim (.value .null) Bound.term))
    | .call function distinct arguments => prepareCall fuel ctx names function distinct arguments
    | .callAll function =>
      match AggregateFunction.find? function with
      | some (f, 0, _) => prepareAggregate fuel ctx names function f false []
      | some _ => throw (.generic ("wrong number of arguments to function " ++ function ++ "()"))
      | none =>
        discard (ScalarFunction.find function 0 |> computed)
        throw (.generic ("wrong number of arguments to function " ++ function ++ "()"))
    | .cast e type =>
      let b ← prepare fuel ctx names e
      let affinity := Affinity.ofType type
      return { b with term := .cast affinity b.term, affinity := some affinity, declared := none }
    | .collate e collation =>
      let b ← prepare fuel ctx names e
      let c ← collationNamed collation
      return { b with collation := some c, explicit := true }
    | .tuple _ => throw (.generic "row value misused")
    | .exists q =>
      let r ← select fuel ctx q
      return .ofTerm (.value (Datum.ofBool !r.rows.isEmpty))
    | .scalar q =>
      let r ← select fuel ctx q
      match r.headings with
      | [h] =>
        -- Only the first row counts, and no row stands for null.
        let value := (r.rows.head?).elim .null fun row => row.headD .null
        return { term := .value value, affinity := h.affinity, collation := h.collation,
                 declared := h.declared }
      | hs => throw (.generic ("sub-select returns " ++ natText hs.length ++
          " columns - expected 1"))
termination_by structural fuel

/-- Prepares the test whether a value is one of several. -/
def prepareChoices (fuel : Nat) (ctx : Context) (names : Names) (b : Bound) (choices : Choices) :
    Preparing Bound :=
  match fuel with
  | 0 => throw tooDeep
  | fuel + 1 => do
    -- A query stands for the values of its only column.
    let among (r : Relation) : Preparing Bound :=
      match r.headings with
      | [h] =>
        return .ofParts [b] (.oneOf (Affinity.conversion b.affinity h.affinity)
          ((b.collation.or h.collation).getD .binary) b.term
          (r.rows.map fun row => .value (row.headD .null)))
      | hs => throw (.generic ("sub-select returns " ++ natText hs.length ++
          " columns - expected 1"))
    match choices with
    | .list items =>
      let items ← items.mapM (prepare fuel ctx names)
      return .ofParts [b] (.oneOf (Affinity.conversion b.affinity none) b.order b.term
        (items.map Bound.term))
    | .query q => among (← select fuel ctx q)
    | .table name =>
      let r ← ctx.relation name name
      let width := (r.headings.filter fun h => h.role = .shown).length
      among { headings := r.headings.take width, rows := r.rows.map fun row => row.take width }
termination_by structural fuel

/-- Prepares a function of rows. No other one may stand in its arguments. -/
def prepareAggregate (fuel : Nat) (ctx : Context) (names : Names) (written : String)
    (f : AggregateFunction) (distinct : Bool) (arguments : List Expr) : Preparing Bound :=
  match fuel with
  | 0 => throw tooDeep
  | fuel + 1 => do
    if let some refusal := names.calls.refusal? written then throw (.generic refusal)
    if distinct && arguments.length != 1 then
      throw (.generic "DISTINCT aggregates must have exactly one argument")
    -- In its arguments there are no groups yet.
    let inner := { names with calls := .ungrouped }
    let bound ← arguments.mapM (prepare fuel ctx inner)
    let order := (bound.head?).elim Collation.binary Bound.order
    let t ← Preparing.addCall ⟨f, distinct, bound.map Bound.term, order⟩
    return .ofTerm t
termination_by structural fuel

/-- Prepares a function. -/
def prepareCall (fuel : Nat) (ctx : Context) (names : Names) (function : String) (distinct : Bool)
    (arguments : List Expr) : Preparing Bound :=
  match fuel with
  | 0 => throw tooDeep
  | fuel + 1 => do
    let ofValues : Preparing Bound := do
      match ctx.connectionValue? function, arguments with
      | some d, [] => return .ofTerm (.value d)
      | _, _ =>
        let f ← computed (ScalarFunction.find function arguments.length)
        let bound ← arguments.mapM (prepare fuel ctx names)
        return .ofTerm (.call f (bound.map Bound.term))
    match AggregateFunction.find? function with
    | some (f, least, most) =>
      if least ≤ arguments.length && arguments.length ≤ most then
        prepareAggregate fuel ctx names function f distinct arguments
      -- The smallest or largest of several arguments is a function of values.
      else if f = .min || f = .max then ofValues
      else throw (.generic ("wrong number of arguments to function " ++ function ++ "()"))
    | none => ofValues
termination_by structural fuel

/-- Prepares a column of a result. A star stands for several columns. -/
def prepareColumn (fuel : Nat) (ctx : Context) (names : Names) (c : ResultColumn) :
    Preparing (List Shown) :=
  match fuel with
  | 0 => throw tooDeep
  | fuel + 1 => do
    let places := names.headings.zipIdx
    let show_ (h : Heading × Nat) : Shown := ⟨h.1.name, some h.1.name, .ofHeading h.1 h.2⟩
    match c with
    | .all =>
      if names.headings.isEmpty then throw (.generic "no tables specified")
      return (places.filter fun (h, _) => h.role = .shown).map show_
    | .allOf source =>
      let found := places.filter fun (h, _) => h.role != .number && h.isOf source
      if found.isEmpty then throw (.generic ("no such table: " ++ source))
      return found.map show_
    | .value e label written =>
      let b ← prepare fuel ctx names e
      -- A bare column is shown under the name it was declared with.
      let own :=
        match e, b.term with
        | .column _ _ _, .cell i => (names.headings[i]?).map Heading.name
        | _, _ => none
      return [⟨(label.or own).getD written, label, b⟩]
termination_by structural fuel

/-- Prepares a term of an order or of the keys of groups. It may name a result column. -/
def prepareOrder (fuel : Nat) (ctx : Context) (names : Names) (clause : String)
    (shown : List Shown) (place : Nat) (e : Expr) : Preparing Bound :=
  match fuel with
  | 0 => throw tooDeep
  | fuel + 1 => do
    match e with
    | .collate inner collation =>
      let b ← prepareOrder fuel ctx names clause shown place inner
      let c ← collationNamed collation
      return { b with collation := some c, explicit := true }
    | e =>
      -- A key of groups is looked up among the columns of the sources instead.
      let aliases := if clause = "ORDER" then shown.map Shown.label else []
      match orderPlace? aliases e with
      | some n =>
        match atPlace? shown n with
        | some s => return s.value
        | none => throw (outOfRange clause place shown.length)
      | none => prepare fuel ctx names e
termination_by structural fuel

/-- The rows of a source. -/
def sourceRows (fuel : Nat) (ctx : Context) (s : Source) : Except Fault Relation :=
  match fuel with
  | 0 => .error tooDeep
  | fuel + 1 =>
    match s with
    | .table name label => ctx.relation name (label.getD name)
    | .query q label => do
      let r ← select fuel ctx q
      return (r.renamed (distinctNames (r.headings.map Heading.name))).named label
    | .joined joins label => do
      let sources ← joins.foldlM (addSource fuel ctx) .none
      -- The columns of all sources are known before the first condition is prepared.
      let (conditions, _) ←
        (joinConditions fuel ctx { headings := sources.headings } sources.steps).run []
      let r : Relation := ⟨sources.headings, ← sources.run conditions⟩
      return if label.isSome then r.named label else r
termination_by structural fuel

/-- Joins a further source to those before it. -/
def addSource (fuel : Nat) (ctx : Context) (left : Sources) (j : Join) : Except Fault Sources :=
  match fuel with
  | 0 => .error tooDeep
  | fuel + 1 =>
    match j with
    | .mk kind natural source on using_ => do
      let right ← sourceRows fuel ctx source
      if natural && (on.isSome || !using_.isEmpty) then
        fails "a NATURAL join may not have an ON or USING clause"
      left.add kind right (if natural then left.common right else using_) on
termination_by structural fuel

/-- Prepares the conditions on which sources are joined. -/
def joinConditions (fuel : Nat) (ctx : Context) (names : Names) (steps : List JoinStep) :
    Preparing (List (Option Term)) :=
  match fuel with
  | 0 => throw tooDeep
  | fuel + 1 => steps.mapM fun j => do
    let b ← j.on.mapM (prepare fuel ctx names)
    return b.map Bound.term
termination_by structural fuel

/-- Prepares a query over its sources: the columns of the result first, then the condition on
groups, the filter, the order and the keys of the groups. -/
def planCore (fuel : Nat) (ctx : Context) (sources : Sources)
    (orderBy : List (Expr × TermOrder)) (columns : List ResultColumn) (filter : Option Expr)
    (groupBy : List Expr) (having : Option Expr) : Except Fault Plan :=
  match fuel with
  | 0 => .error tooDeep
  | fuel + 1 => do
    let names : Names := { headings := sources.headings, calls := .allowed }
    let (shown, calls) ← (columns.mapM (prepareColumn fuel ctx names)).run []
    let shown := shown.flatten
    -- A function of rows makes a group of all rows where no keys are given.
    let grouped := !groupBy.isEmpty || !calls.isEmpty
    if having.isSome && !grouped then fails "HAVING clause on a non-aggregate query"
    -- From here on expressions may name result columns as well.
    let open_ := { names with aliases := columns.filterMap ResultColumn.alias? }
    let closed := { open_ with calls := if grouped then .beforeGroups else .ungrouped }
    let (having, calls) ← (having.mapM (prepare fuel ctx open_)).run calls
    let (filter, _) ← (filter.mapM (prepare fuel ctx closed)).run []
    let (conditions, _) ← (joinConditions fuel ctx closed sources.steps).run []
    let ordering := if grouped then open_ else closed
    let (orders, calls) ← ((orderBy.map Prod.fst).zipIdx.mapM fun (e, i) =>
      prepareOrder fuel ctx ordering "ORDER" shown (i + 1) e).run calls
    let (keys, _) ← (groupBy.zipIdx.mapM fun (e, i) =>
      prepareOrder fuel ctx { open_ with calls := .inKeys } "GROUP" shown (i + 1) e).run []
    return { shown := shown, filter := filter, conditions := conditions, grouped := grouped,
             keys := keys, calls := calls, having := having,
             orders := orders.zip (orderBy.map Prod.snd) }
termination_by structural fuel

/-- The rows of a query without order and limit, with what they are sorted by. -/
def coreRows (fuel : Nat) (ctx : Context) (orderBy : List (Expr × TermOrder)) (c : Core) :
    Except Fault Unsorted :=
  match fuel with
  | 0 => .error tooDeep
  | fuel + 1 =>
    match c with
    | .values rows => do
      -- The first row says how many columns there are.
      let width := (rows.headD []).length
      if rows.any fun row => row.length != width then
        fails "all VALUES must have the same number of terms"
      let values ← rows.mapM fun row => do
        let (bound, _) ← (row.mapM (prepare fuel ctx { headings := [] })).run []
        computed (Term.evalAll { row := [] } (bound.map Bound.term))
      let headings := (List.range width).map fun n =>
        (⟨none, "column" ++ natText (n + 1), none, none, none, .shown⟩ : Heading)
      return ⟨headings, values.map fun row => (row, []), []⟩
    | .select distinct columns joins filter groupBy having => do
      let sources ← joins.foldlM (addSource fuel ctx) .none
      let plan ← planCore fuel ctx sources orderBy columns filter groupBy having
      plan.run distinct (← sources.run plan.conditions)
termination_by structural fuel

/-- Adds the rows of a further part of a query. -/
def combineCore (fuel : Nat) (ctx : Context) (left : Relation) (part : CompoundOp × Core) :
    Except Fault Relation :=
  match fuel with
  | 0 => .error tooDeep
  | fuel + 1 => do
    let right ← coreRows fuel ctx [] part.2
    if right.headings.length != left.headings.length then
      fails ("SELECTs to the left and right of " ++ part.1.text ++
        " do not have the same number of result columns")
    return { left with
      rows := part.1.combine left.collations left.rows (right.rows.map Prod.fst) }
termination_by structural fuel

/-- The rows of a query. -/
def select (fuel : Nat) (ctx : Context) (q : Select) : Except Fault Relation :=
  match fuel with
  | 0 => .error tooDeep
  | fuel + 1 =>
    match q with
    | .mk named first rest orderBy limit offset => do
      let ctx ← named.foldlM (nameQuery fuel) ctx
      let bounds ← [limit, offset].mapM fun bound => bound.mapM fun e => do
        let (b, _) ← (prepare fuel ctx { headings := [] } e).run []
        let d ← computed (b.term.eval { row := [] })
        wholeNumberOf d
      let sorted ←
        if rest.isEmpty then do
          let rows ← coreRows fuel ctx orderBy first
          pure rows.sorted
        else do
          let rows ← coreRows fuel ctx [] first
          -- The parts are combined first, so that an order can see result columns only.
          let all ← rest.foldlM (combineCore fuel ctx) rows.sorted
          sortByPlaces all orderBy
      return sorted.cut (bounds.getD 0 none) (bounds.getD 1 none)
termination_by structural fuel

/-- Runs a named query and adds its rows. -/
def nameQuery (fuel : Nat) (ctx : Context) (given : String × List String × Select) :
    Except Fault Context :=
  match fuel with
  | 0 => .error tooDeep
  | fuel + 1 =>
    match given with
    | (name, columns, q) => do
      let r ← select fuel ctx q
      let width := r.headings.length
      if !columns.isEmpty && columns.length != width then
        fails ("table " ++ name ++ " has " ++ natText width ++ " values for " ++
          natText columns.length ++ " columns")
      let names := if columns.isEmpty then r.headings.map Heading.name else columns
      -- A later name hides an earlier one.
      return { ctx with named := (name, r.renamed (distinctNames names)) :: ctx.named }
termination_by structural fuel

end

end Sqlite

end StoreBridge
