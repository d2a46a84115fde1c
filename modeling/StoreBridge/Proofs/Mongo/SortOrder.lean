import Mathlib.Data.List.Induction
import StoreBridge.Mongo.Document
import StoreBridge.Sqlite.Relation
import StoreBridge.Proofs.Query.Collection
import StoreBridge.Proofs.Query.Text

/-!
# The order of a chain in a sort document and in SQL

A chain gives the terms of its order one by one. In SQL they stay a list, and of two terms for one
field the first one decides, because rows that agree in the field agree for the second one too. In a
sort document a field stands once: it keeps the place of its first term and takes the direction of
its last one. So a sort document orders like the list in which every term has the last direction of
its field (`compareByTerms_sort`), and like the list itself exactly if every field ends with the
direction that it was first given (`compareByTerms_sort_iff`).

Both sides are reduced to one question, which term is the first in whose field two records differ
(`compareByTerms_eq`). It is answered by a search through the list, and a member that is written
into a document changes the answer of that search in one place at most (`find?_set`). No order on
values is used; `compareKeys_eq_compareByTerms` says that SQLite's own comparison is of the form
treated here.
-/

namespace StoreBridge

namespace Direction

/-- The outcome of a comparison, read in a direction. -/
def orient : Direction → Ordering → Ordering
  | .asc, outcome => outcome
  | .desc, outcome => outcome.swap

/-- The direction that a number in a sort document stands for. -/
def ofBson? : Bson → Option Direction
  | .int32 i => if i = 1 then some .asc else if i = -1 then some .desc else none
  | _ => none

@[simp]
theorem ofBson?_order (d : Direction) : ofBson? (.int32 d.order) = some d := by
  cases d <;> rfl

@[simp]
theorem orient_eq (d : Direction) : d.orient .eq = .eq := by
  cases d <;> rfl

/-- Turning a comparison round keeps what is equal. -/
theorem orient_eq_iff {d : Direction} {outcome : Ordering} :
    d.orient outcome = .eq ↔ outcome = .eq := by
  cases d <;> cases outcome <;> decide

theorem orient_lt_injective {d d' : Direction} (h : d.orient .lt = d'.orient .lt) : d = d' := by
  cases d <;> cases d' <;> first | rfl | exact absurd h (by decide)

end Direction

/-! ### Comparing by terms -/

section Compare

variable {ρ : Type}

/-- The comparison of two records by the terms of an order, given how records compare in each field:
the first term in whose field they differ decides. -/
def compareByTerms (compareField : String → ρ → ρ → Ordering) :
    List (String × Direction) → ρ → ρ → Ordering
  | [], _, _ => .eq
  | (field, direction) :: rest, a, b =>
    (direction.orient (compareField field a b)).then (compareByTerms compareField rest a b)

/-- The terms that a sort document stands for, in the order of its fields. -/
def Document.sortTerms (d : Document) : List (String × Direction) :=
  d.filterMap fun (field, value) => (Direction.ofBson? value).map (field, ·)

variable (compareField : String → ρ → ρ → Ordering) (a b : ρ)

/-- Whether two records differ in the field of a term. -/
def differsIn (term : String × Direction) : Bool :=
  compareField term.1 a b != .eq

/-- How two records compare if a term decides; without one they are equal. -/
def decidedBy : Option (String × Direction) → Ordering
  | some (field, direction) => direction.orient (compareField field a b)
  | none => .eq

/-- **The deciding term.** Two records compare as they do in the first field in which they
differ. -/
theorem compareByTerms_eq (terms : List (String × Direction)) :
    compareByTerms compareField terms a b =
      decidedBy compareField a b (terms.find? (differsIn compareField a b)) := by
  induction terms with
  | nil => rfl
  | cons term rest ih =>
    obtain ⟨field, direction⟩ := term
    rw [compareByTerms, List.find?_cons]
    -- A field that is equal passes the decision on, and any other one makes it.
    by_cases heq : compareField field a b = .eq
    · have hdiffers : differsIn compareField a b (field, direction) = false := by
        simp [differsIn, heq]
      rw [heq, Direction.orient_eq, Ordering.then, ih, hdiffers]
    · have hdiffers : differsIn compareField a b (field, direction) = true := by
        simp [differsIn, heq]
      have hdecided : direction.orient (compareField field a b) ≠ .eq :=
        mt Direction.orient_eq_iff.mp heq
      rw [hdiffers]
      show _ = direction.orient (compareField field a b)
      cases hout : direction.orient (compareField field a b) with
      | lt => rfl
      | gt => rfl
      | eq => exact absurd hout hdecided

end Compare

/-! ### The terms of a sort document -/

/-- The direction of the last term for a field. -/
def lastDirection (terms : List (String × Direction)) (field : String) : Direction :=
  terms.foldl (fun last term => if term.1 = field then term.2 else last) .asc

/-- The terms, each with the last direction of its field. -/
def lastDirections (terms : List (String × Direction)) : List (String × Direction) :=
  terms.map fun term => (term.1, lastDirection terms term.1)

/-- Every field ends with the direction that it was first given. -/
def KeepsDirections (terms : List (String × Direction)) : Prop :=
  ∀ field first, terms.find? (fun term => term.1 = field) = some (field, first) →
    lastDirection terms field = first

/-- Only fields that have a term need to be looked at. -/
theorem keepsDirections_iff {terms : List (String × Direction)} :
    KeepsDirections terms ↔ ∀ term ∈ terms,
      terms.find? (fun other => other.1 = term.1) = some (term.1, lastDirection terms term.1) := by
  constructor
  · -- The first entry for the field of a term exists, and `hkeeps` gives its direction.
    intro hkeeps term hterm
    cases hfound : terms.find? (fun other => other.1 = term.1) with
    | none => exact absurd (List.find?_eq_none.mp hfound term hterm) (by simp)
    | some found =>
      obtain ⟨field, first⟩ := found
      have hfield : field = term.1 := by simpa using List.find?_some hfound
      rw [← hfield] at hfound ⊢
      rw [hkeeps field first hfound]
  · intro hall field first hfirst
    have hfound := hall _ (List.mem_of_find?_eq_some hfirst)
    rw [hfirst] at hfound
    exact (Prod.mk.inj (Option.some.inj hfound)).2.symm

instance (terms : List (String × Direction)) : Decidable (KeepsDirections terms) :=
  decidable_of_iff _ keepsDirections_iff.symm

/-- The last direction of a field is that of the term that was added last, if it is about this
field. -/
theorem lastDirection_concat (terms : List (String × Direction)) (field : String)
    (direction : Direction) (other : String) :
    lastDirection (terms ++ [(field, direction)]) other =
      if field = other then direction else lastDirection terms other := by
  rw [lastDirection, List.foldl_append]
  rfl

namespace Document

/-- **Writing a member** changes what a search by keys finds only if it finds that member, or
nothing. -/
theorem find?_set (p : String → Bool) (d : Document) (key : String) (value : Bson) :
    (set d key value).find? (fun member => p member.1) =
      match d.find? (fun member => p member.1) with
      | some (k, v) => some (k, if k = key then value else v)
      | none => if p key then some (key, value) else none := by
  induction d with
  | nil =>
    rw [set, List.find?_cons, List.find?_nil]
    cases p key <;> rfl
  | cons member rest ih =>
    obtain ⟨k, v⟩ := member
    rw [set]
    by_cases hk : k = key
    · -- The member is replaced in its place, and the search sees the same keys as before.
      subst hk
      rw [if_pos rfl, List.find?_cons, List.find?_cons]
      cases hp : p k with
      | true => simp
      | false =>
        cases hrest : rest.find? (fun member => p member.1) with
        | none => simp
        | some found =>
          obtain ⟨k', v'⟩ := found
          have hfound := List.find?_some hrest
          have hne : k' ≠ k := by
            rintro rfl
            rw [hp] at hfound
            exact absurd hfound (by decide)
          simp [hne]
    · -- Another key: the search sees this member first in both documents.
      rw [if_neg hk, List.find?_cons, List.find?_cons, ih]
      cases hp : p k with
      | true => simp [hk]
      | false => rfl

/-- The document of one term more is that of the others with this term written into it. -/
theorem sort_concat (terms : List (String × Direction)) (field : String) (direction : Direction) :
    sort (terms ++ [(field, direction)]) = set (sort terms) field (.int32 direction.order) := by
  rw [sort, List.foldl_append]
  rfl

/-- **A search in a sort document** finds the field that a search in the terms finds, with the
number of its last direction. -/
theorem find?_sort (p : String → Bool) (terms : List (String × Direction)) :
    (sort terms).find? (fun member => p member.1) =
      (terms.find? fun term => p term.1).map fun term =>
        (term.1, .int32 (lastDirection terms term.1).order) := by
  -- From the end, as the document is built: the last term overwrites or is appended.
  induction terms using List.reverseRecOn with
  | nil => rfl
  | append_singleton terms term ih =>
    obtain ⟨field, direction⟩ := term
    rw [sort_concat, find?_set, ih, List.find?_append]
    cases hfound : terms.find? (fun term => p term.1) with
    | some found =>
      simp only [Option.map_some, Option.some_or, lastDirection_concat, Option.some.injEq,
        Prod.mk.injEq, true_and]
      -- The new term has a say in the direction exactly if it is for the field that was found.
      by_cases hfield : found.1 = field
      · rw [if_pos hfield, if_pos hfield.symm]
      · rw [if_neg hfield, if_neg (Ne.symm hfield)]
    | none =>
      simp only [Option.map_none, Option.none_or, List.find?_cons, List.find?_nil]
      cases p field with
      | false => rfl
      | true => simp [lastDirection_concat]

/-- A sort document holds directions only, so none of its fields is passed over. -/
theorem find?_sortTerms {d : Document} (p : String → Bool)
    (hd : ∀ member ∈ d, (Direction.ofBson? member.2).isSome = true) :
    d.sortTerms.find? (fun term => p term.1) =
      (d.find? fun member => p member.1).bind fun member =>
        (Direction.ofBson? member.2).map (member.1, ·) := by
  induction d with
  | nil => rfl
  | cons member rest ih =>
    obtain ⟨field, value⟩ := member
    obtain ⟨direction, hdirection⟩ : ∃ direction, Direction.ofBson? value = some direction :=
      Option.isSome_iff_exists.mp (hd (field, value) List.mem_cons_self)
    have hrest := ih fun member hmember => hd member (List.mem_cons_of_mem _ hmember)
    -- Every number in the document is a direction, so the field has a term.
    have hterms : sortTerms ((field, value) :: rest) = (field, direction) :: sortTerms rest := by
      simp [sortTerms, hdirection]
    rw [hterms, List.find?_cons, List.find?_cons, hrest]
    cases p field with
    | false => rfl
    | true =>
      rw [Option.bind_some, hdirection]
      rfl

/-- What holds of all values, and of the one that is written, holds of all values after writing. -/
theorem forall_mem_set {P : Bson → Prop} {d : Document} {value : Bson} (key : String)
    (hd : ∀ member ∈ d, P member.2) (hvalue : P value) :
    ∀ member ∈ set d key value, P member.2 := by
  induction d with
  | nil =>
    intro member hmember
    rw [List.mem_singleton.mp hmember]
    exact hvalue
  | cons first rest ih =>
    obtain ⟨k, v⟩ := first
    have htail : ∀ member ∈ rest, P member.2 := fun member h => hd member (List.mem_cons_of_mem _ h)
    intro member hmember
    -- The member is the one that was written, or one of before.
    rw [set] at hmember
    split at hmember
    · rcases List.mem_cons.mp hmember with rfl | hmember
      · exact hvalue
      · exact htail member hmember
    · rcases List.mem_cons.mp hmember with rfl | hmember
      · exact hd _ List.mem_cons_self
      · exact ih htail member hmember

/-- Every entry of the document stands for a direction. -/
theorem isSome_ofBson?_of_mem_sort (terms : List (String × Direction)) :
    ∀ member ∈ sort terms, (Direction.ofBson? member.2).isSome = true := by
  induction terms using List.reverseRecOn with
  | nil => exact List.forall_mem_nil _
  | append_singleton terms term ih =>
    rw [sort_concat]
    refine forall_mem_set (P := fun value => (Direction.ofBson? value).isSome = true) _ ih ?_
    rw [Direction.ofBson?_order]
    rfl

end Document

section Agreement

variable {ρ : Type} (compareField : String → ρ → ρ → Ordering) (a b : ρ)
  (terms : List (String × Direction))

/-- **A sort document orders** as the terms do when each has the last direction of its field. -/
theorem compareByTerms_sort :
    compareByTerms compareField (Document.sort terms).sortTerms a b =
      compareByTerms compareField (lastDirections terms) a b := by
  have hsort : (Document.sort terms).sortTerms.find? (differsIn compareField a b) =
      (lastDirections terms).find? (differsIn compareField a b) := by
    -- Whether records differ in a field has nothing to do with the direction.
    calc (Document.sort terms).sortTerms.find? (differsIn compareField a b)
        = ((Document.sort terms).find? fun member => compareField member.1 a b != .eq).bind
            fun member => (Direction.ofBson? member.2).map (member.1, ·) :=
          Document.find?_sortTerms (fun field => compareField field a b != .eq)
            (Document.isSome_ofBson?_of_mem_sort terms)
      _ = (terms.find? fun term => compareField term.1 a b != .eq).map
            fun term => (term.1, lastDirection terms term.1) := by
          rw [Document.find?_sort (fun field => compareField field a b != .eq)]
          cases terms.find? fun term => compareField term.1 a b != .eq with
          | none => rfl
          | some found => rw [Option.map_some, Option.bind_some, Direction.ofBson?_order]; rfl
      _ = (lastDirections terms).find? (differsIn compareField a b) := by
          rw [lastDirections, List.find?_map]
          rfl
  rw [compareByTerms_eq, compareByTerms_eq, hsort]

/-- If every field ends as it began, the last directions decide like the first ones. -/
theorem compareByTerms_lastDirections (h : KeepsDirections terms) :
    compareByTerms compareField (lastDirections terms) a b =
      compareByTerms compareField terms a b := by
  rw [compareByTerms_eq, compareByTerms_eq, lastDirections, List.find?_map]
  show decidedBy compareField a b (Option.map _ (terms.find? (differsIn compareField a b))) = _
  -- Only the deciding term matters. If there is none, the two records are equal for both.
  cases hfound : terms.find? (differsIn compareField a b) with
  | none => rfl
  | some found =>
    obtain ⟨field, first⟩ := found
    -- The deciding term is the first one for its field: an earlier one would have decided.
    have hfirst : terms.find? (fun term => term.1 = field) = some (field, first) := by
      obtain ⟨hdiffers, before, after, rfl, hbefore⟩ := List.find?_eq_some_iff_append.mp hfound
      refine List.find?_eq_some_iff_append.mpr ⟨by simp, before, after, rfl, ?_⟩
      intro term hterm
      have hsame : differsIn compareField a b term = false := by simpa using hbefore term hterm
      have hne : term.1 ≠ field := by
        intro heq
        rw [differsIn, heq] at hsame
        rw [differsIn, hsame] at hdiffers
        exact absurd hdiffers (by decide)
      simpa using hne
    rw [Option.map_some, h field first hfirst]

end Agreement

/-- The comparison of two records of integers in a field. -/
def compareIntegers (field : String) (a b : String → Int) : Ordering :=
  compare (a field) (b field)

/-- **When the two orders are the same.** They agree on all records, whatever those hold and however
their values compare, exactly if every field ends with the direction that it was first given. -/
theorem compareByTerms_sort_iff (terms : List (String × Direction)) :
    (∀ {ρ : Type} (compareField : String → ρ → ρ → Ordering) (a b : ρ),
      compareByTerms compareField (Document.sort terms).sortTerms a b =
        compareByTerms compareField terms a b) ↔ KeepsDirections terms := by
  constructor
  · intro hagree field first hfirst
    -- Two records that differ in this field alone.
    let a : String → Int := fun _ => 0
    let b : String → Int := fun other => if other = field then 1 else 0
    have hfield : compareIntegers field a b = .lt := by simp [compareIntegers, a, b]; decide
    -- No other term can decide about them, so the orders give away the two directions.
    have hothers : ∀ term : String × Direction,
        differsIn compareIntegers a b term = decide (term.1 = field) := by
      intro term
      by_cases heq : term.1 = field
      · rw [differsIn, heq, hfield]
        simp
      · simp [differsIn, compareIntegers, a, b, heq]
    have hterms : compareByTerms compareIntegers terms a b = first.orient .lt := by
      rw [compareByTerms_eq, funext hothers, hfirst, ← hfield]
      rfl
    have hsort : compareByTerms compareIntegers (Document.sort terms).sortTerms a b
        = (lastDirection terms field).orient .lt := by
      rw [compareByTerms_sort, compareByTerms_eq, funext hothers, lastDirections, List.find?_map]
      show decidedBy compareIntegers a b (Option.map _ (terms.find? fun term => term.1 = field)) = _
      rw [hfirst, ← hfield]
      rfl
    exact Direction.orient_lt_injective (hsort.symm.trans ((hagree _ a b).trans hterms))
  · intro hkeeps ρ compareField a b
    rw [compareByTerms_sort, compareByTerms_lastDirections compareField a b terms hkeeps]

/-! ### The two sides of a chain -/

/-- **SQLite compares rows** by terms in this way: the keys of two rows are their values in the
fields of the terms, and a descending term has its outcome turned around, also for nulls. -/
theorem compareKeys_eq_compareByTerms (collation : String → Collation)
    (terms : List (String × Direction)) (a b : String → Datum) :
    Sqlite.compareKeys (terms.map fun (field, d) => (⟨d == .desc, none⟩, collation field))
        (terms.map fun term => a term.1) (terms.map fun term => b term.1) =
      compareByTerms
        (fun field a b => Sqlite.TermOrder.compare ⟨false, none⟩ (collation field) (a field)
          (b field))
        terms a b := by
  induction terms with
  | nil => rfl
  | cons term rest ih =>
    obtain ⟨field, direction⟩ := term
    rw [List.map_cons, List.map_cons, List.map_cons, Sqlite.compareKeys, compareByTerms, ih]
    congr 1
    -- Turning an outcome around is the same for nulls, wherever they stand.
    cases direction with
    | asc => rfl
    | desc => cases a field <;> cases b field <;> rfl

/-- The clauses of a statement that has any. -/
def Statement.clauses? : Statement → Option Clauses
  | .select _ _ clauses | .update _ _ clauses | .delete _ clauses => some clauses
  | .insert _ _ _ => none

/-- The clauses stand at the end of the text. -/
theorem Statement.exists_write_eq {st : Statement} {clauses : Clauses}
    (h : st.clauses? = some clauses) : ∃ front, st.write = front ++ clauses.write := by
  -- An insert has no clauses, and the three others write theirs last.
  cases st with
  | select table columns own =>
    obtain rfl := Option.some.inj h
    exact ⟨_, write_select table columns own⟩
  | insert table columns rows => exact absurd h nofun
  | update table columns own =>
    obtain rfl := Option.some.inj h
    exact ⟨_, write_update table columns own⟩
  | delete table own =>
    obtain rfl := Option.some.inj h
    exact ⟨_, write_delete table own⟩

/-- The clauses of a chain that does not insert are those that it asks for. -/
theorem clauses?_chainStatement (table : String) {ops : List Operation}
    (h : ∀ data, (ops.filterMap Operation.write?).getLast? ≠ some (.insert data)) :
    (chainStatement table ops).clauses? = some (Draft.reading ops).clauseTexts := by
  unfold chainStatement Draft.statement Draft.reading
  -- The last write decides which statement it is.
  cases hwrite : (ops.filterMap Operation.write?).getLast? with
  | none => rfl
  | some write =>
    cases write with
    | insert data => exact absurd hwrite (h data)
    | update data => rfl
    | delete => rfl

/-- **The order of a chain.** Take a chain and the terms of its order. On a collection it asks for
these terms, and on a table it writes them in this order, unless it inserts; the first one in whose
field two records differ decides there. The sort document that is built from the terms puts records
in the order of the terms with the last direction of their fields, so it means the same as the terms
exactly if every field ends with the direction that it was first given. -/
theorem sort_document_order {ops : List Operation} {terms : List (String × Direction)}
    (hterms : ops.filterMap Operation.orderTerm? = terms) :
    (∀ s r, compile s ops = .ok (.document r) → r.operation.sort = terms) ∧
    (∀ s r, compile s ops = .ok (.sql r) →
      (∀ data, (ops.filterMap Operation.write?).getLast? ≠ some (.insert data)) →
      ∃ front, r.text.toList = front ++ Clauses.writeOrder terms
        ++ Clauses.writeLimit (ops.filterMap Operation.limit?).getLast?) ∧
    (∀ {ρ : Type} (compareField : String → ρ → ρ → Ordering) (a b : ρ),
      compareByTerms compareField (Document.sort terms).sortTerms a b =
        compareByTerms compareField (lastDirections terms) a b) ∧
    ((∀ {ρ : Type} (compareField : String → ρ → ρ → Ordering) (a b : ρ),
      compareByTerms compareField (Document.sort terms).sortTerms a b =
        compareByTerms compareField terms a b) ↔ KeepsDirections terms) := by
  refine ⟨fun s r hr => ?_, fun s r hr hinsert => ?_, fun compareField a b => ?_,
    compareByTerms_sort_iff terms⟩
  · rw [compile_eq_ok_document hr]
    exact hterms
  · -- The order stands between the conditions and the limit, which make the end of the text.
    obtain ⟨htext, -⟩ := compile_eq_ok_sql hr
    obtain ⟨front, hfront⟩ := Statement.exists_write_eq (clauses?_chainStatement s.name hinsert)
    refine ⟨front ++ Clauses.writeConditions (Draft.reading ops).conditions.keys, ?_⟩
    rw [htext, hfront, List.append_assoc, List.append_assoc,
      ← List.append_assoc (Clauses.writeConditions _), ← hterms]
    rfl
  · exact compareByTerms_sort compareField a b terms

/-- Persons by age, then by name, and by age once more. -/
def agesChain (last : Direction) : List Operation :=
  [.select none, .orderBy "age" .asc, .orderBy "name" .desc, .orderBy "age" last]

/-- If the field is repeated with its direction, the sort document and the text mean the same
order. -/
theorem agesChain_order :
    (agesChain .asc).filterMap Operation.orderTerm?
      = [("age", .asc), ("name", .desc), ("age", .asc)] ∧
    (∃ r, compile ⟨"people", .document, []⟩ (agesChain .asc) = .ok (.document r) ∧
      r.operation.sort = [("age", .asc), ("name", .desc), ("age", .asc)] ∧
      Document.sort r.operation.sort = [("age", .int32 1), ("name", .int32 (-1))]) ∧
    (∃ r front, compile ⟨"people", .tabular, []⟩ (agesChain .asc) = .ok (.sql r) ∧
      r.text.toList = front ++ " ORDER BY age ASC, name DESC, age ASC".toList) ∧
    ∀ a b : String → Int,
      compareByTerms compareIntegers
          (Document.sort [("age", .asc), ("name", .desc), ("age", .asc)]).sortTerms a b =
        compareByTerms compareIntegers [("age", .asc), ("name", .desc), ("age", .asc)] a b := by
  have hterms : (agesChain .asc).filterMap Operation.orderTerm?
      = [("age", .asc), ("name", .desc), ("age", .asc)] := rfl
  obtain ⟨r, hr⟩ : ∃ r, compile ⟨"people", .document, []⟩ (agesChain .asc) = .ok (.document r) :=
    ⟨_, rfl⟩
  obtain ⟨q, hq⟩ : ∃ q, compile ⟨"people", .tabular, []⟩ (agesChain .asc) = .ok (.sql q) := ⟨_, rfl⟩
  obtain ⟨hdocument, htable, -, hagrees⟩ := sort_document_order hterms
  have hsort := hdocument _ r hr
  obtain ⟨front, hfront⟩ := htable _ q hq fun _ => nofun
  -- The one field that is repeated ends as it began.
  have hkeeps : KeepsDirections [("age", .asc), ("name", .desc), ("age", .asc)] := by decide
  refine ⟨hterms, ⟨r, hr, hsort, ?_⟩, ⟨q, front, hq, ?_⟩, ?_⟩
  · rw [hsort]
    rfl
  · rw [hfront, List.append_assoc]
    rfl
  · exact fun a b => hagrees.mpr hkeeps compareIntegers a b

/-- With another direction for the age in the end, the sort document puts the elder person first,
and the text puts the younger one first. -/
theorem agesChain_turned :
    (∃ r, compile ⟨"people", .document, []⟩ (agesChain .desc) = .ok (.document r) ∧
      Document.sort r.operation.sort = [("age", .int32 (-1)), ("name", .int32 (-1))] ∧
      compareByTerms compareIntegers (Document.sort r.operation.sort).sortTerms
        (fun _ => 20) (fun _ => 30) = .gt) ∧
    compareByTerms compareIntegers ((agesChain .desc).filterMap Operation.orderTerm?)
      (fun _ => 20) (fun _ => 30) = .lt :=
  ⟨⟨_, rfl, rfl, by decide⟩, by decide⟩

end StoreBridge
