import StoreBridge.Proofs.Identifier
import StoreBridge.Proofs.Query.Chain
import StoreBridge.Proofs.Sql.Placeholder

/-!
# Characters of statement texts

A statement is written with a small set of characters (`isStatementChar`): those of names, and the
seven further ones of the fixed parts. `isStatementText_write` says so of every statement
whose names have been checked. No quote and no other delimiter is among them
(`isDelimiter_of_isStatementChar`), so a reader of the text that skips quoted parts skips nothing.
-/

namespace StoreBridge

/-- A character that may stand in the text of a statement. -/
def isStatementChar (c : Char) : Bool :=
  isNameChar c || ['*', '?', ',', '(', ')', '=', ' '].contains c

/-- A character that quotes, ends a statement, or may begin a comment. -/
def isDelimiter (c : Char) : Bool :=
  Placeholder.isQuote c || [';', '-', '/', '#'].contains c

/-- No character of a statement quotes, ends the statement or begins a comment. -/
theorem isDelimiter_of_isStatementChar {c : Char} (h : isStatementChar c = true) :
    isDelimiter c = false := by
  refine Bool.eq_false_iff.mpr fun hc => ?_
  simp only [isDelimiter, Placeholder.isQuote, Bool.or_eq_true, beq_iff_eq, List.contains_eq_mem,
    decide_eq_true_eq, List.mem_cons, List.not_mem_nil, or_false] at hc
  rcases hc with ((rfl | rfl) | rfl) | rfl | rfl | rfl | rfl <;> exact absurd h (by decide)

/-- A text of nothing but characters of statements. -/
def IsStatementText (cs : List Char) : Prop :=
  ∀ c ∈ cs, isStatementChar c = true

instance (cs : List Char) : Decidable (IsStatementText cs) :=
  decidable_of_iff (cs.all isStatementChar = true) List.all_eq_true

namespace IsStatementText

theorem nil : IsStatementText [] := by
  intro c hc
  simp at hc

/-- A text of statement characters behind another one. -/
theorem append {xs ys : List Char} (hx : IsStatementText xs) (hy : IsStatementText ys) :
    IsStatementText (xs ++ ys) := by
  intro c hc
  rcases List.mem_append.mp hc with hc | hc
  · exact hx c hc
  · exact hy c hc

/-- Texts of statement characters with such separators between them. -/
theorem joinWith {sep : List Char} {xs : List (List Char)} (hsep : IsStatementText sep)
    (hx : ∀ x ∈ xs, IsStatementText x) : IsStatementText (joinWith sep xs) := by
  intro c hc
  rcases mem_joinWith hc with hc | ⟨x, hmem, hc⟩
  · exact hsep c hc
  · exact hx x hmem c hc

/-- No character of a statement opens a quoted part. -/
theorem unquoted {cs : List Char} (h : IsStatementText cs) : Placeholder.Unquoted cs := by
  intro c hc
  have hdelimiter := isDelimiter_of_isStatementChar (h c hc)
  rw [isDelimiter, Bool.or_eq_false_iff] at hdelimiter
  exact hdelimiter.1

end IsStatementText

/-! ### The parts of a text -/

theorem commaList_eq (items : List (List Char)) : commaList items = joinWith ", ".toList items :=
  rfl

/-- Conditions stand behind their keyword, one to the next by `AND`. -/
theorem writeConditions_of_ne_nil {columns : List String} (h : columns ≠ []) :
    Clauses.writeConditions columns
      = " WHERE ".toList ++ joinWith " AND ".toList (columns.map equation) := by
  cases columns with
  | nil => exact absurd rfl h
  | cons column columns => rfl

/-- A term of the order as it is written. -/
def writeTerm (term : String × Direction) : List Char :=
  term.1.toList ++ ' ' :: term.2.keyword.toList

/-- The terms of an order stand behind their keyword. -/
theorem writeOrder_of_ne_nil {terms : List (String × Direction)} (h : terms ≠ []) :
    Clauses.writeOrder terms
      = " ORDER BY ".toList ++ joinWith ", ".toList (terms.map writeTerm) := by
  cases terms with
  | nil => exact absurd rfl h
  | cons term terms => rfl

theorem isStatementText_of_isIdentifier {name : String} (h : isIdentifier name = true) :
    IsStatementText name.toList := by
  intro c hc
  rw [isStatementChar, isNameChar_of_isIdentifier h c hc, Bool.true_or]

/-- A selected column is made of statement characters, and so is a star. -/
theorem isStatementText_of_isSelectable {column : String} (h : IsSelectable column) :
    IsStatementText column.toList := by
  rcases h with rfl | h
  · have hall : IsStatementText "*".toList := by decide
    exact hall
  · exact isStatementText_of_isIdentifier h

/-- A number is made of statement characters. -/
theorem isStatementText_natDigits (n : Nat) : IsStatementText (natDigits n) := by
  intro c hc
  have hdigit := isDigit_of_mem_natDigits hc
  have hpart : isWordPart c = true := by
    rw [isWordPart, show ('0' ≤ c && c ≤ '9') = true from hdigit, Bool.or_true]
  rw [isStatementChar, isNameChar, hpart, Bool.true_or, Bool.true_or]

theorem isStatementText_equation {column : String} (h : isIdentifier column = true) :
    IsStatementText (equation column) :=
  (isStatementText_of_isIdentifier h).append (by decide)

theorem isStatementText_commaList {items : List (List Char)}
    (h : ∀ item ∈ items, IsStatementText item) : IsStatementText (commaList items) :=
  IsStatementText.joinWith (by decide) h

/-- A row of placeholders is made of statement characters. -/
theorem isStatementText_slots (n : Nat) : IsStatementText (Statement.slots n) := by
  have hitems : IsStatementText (commaList (List.replicate n ['?'])) := by
    refine isStatementText_commaList fun item hitem => ?_
    rw [(List.mem_replicate.mp hitem).2]
    decide
  have hopen : IsStatementText ['('] := by decide
  have hclose : IsStatementText [')'] := by decide
  exact (hopen.append hitems).append hclose

/-- A term of an order is made of statement characters. -/
theorem isStatementText_term {term : String × Direction} (h : isIdentifier term.1 = true) :
    IsStatementText (writeTerm term) := by
  have hword : ∀ d : Direction, IsStatementText (' ' :: d.keyword.toList) := by
    intro d
    cases d <;> decide
  exact (isStatementText_of_isIdentifier h).append (hword term.2)

/-- **The clauses hold expected characters only.** Conditions and order are made of names, which are
identifiers, and of fixed words between them; the limit is made of digits. A clause that is missing
is an empty text, so each is a case of its own. -/
theorem isStatementText_clauses {c : Clauses} (h : c.WellFormed) : IsStatementText c.write := by
  obtain ⟨conditions, order, limit⟩ := c
  -- The three clauses one by one, and each may be missing.
  have hconditions : IsStatementText (Clauses.writeConditions conditions) := by
    by_cases hne : conditions = []
    · rw [hne]
      exact IsStatementText.nil
    · rw [writeConditions_of_ne_nil hne]
      refine IsStatementText.append (by decide) ?_
      refine IsStatementText.joinWith (by decide) fun item hitem => ?_
      obtain ⟨name, hname, rfl⟩ := List.mem_map.mp hitem
      exact isStatementText_equation (h.conditions name hname)
  have horder : IsStatementText (Clauses.writeOrder order) := by
    by_cases hne : order = []
    · rw [hne]
      exact IsStatementText.nil
    · rw [writeOrder_of_ne_nil hne]
      refine IsStatementText.append (by decide) ?_
      refine IsStatementText.joinWith (by decide) fun item hitem => ?_
      obtain ⟨term, hterm, rfl⟩ := List.mem_map.mp hitem
      exact isStatementText_term (h.order term hterm)
  have hlimit : IsStatementText (Clauses.writeLimit limit) := by
    cases limit with
    | none => exact IsStatementText.nil
    | some n =>
      exact IsStatementText.append (by decide) (isStatementText_natDigits n)
  exact (hconditions.append horder).append hlimit

/-- The text of an insert in front of its groups. -/
def insertHead (table : String) (columns : List String) : List Char :=
  "INSERT INTO ".toList ++ table.toList ++ " (".toList ++ commaList (columns.map String.toList) ++
    ") VALUES ".toList

/-- The front of an insert, part by part, in front of anything. -/
theorem insertHead_append (table : String) (columns : List String) (rest : List Char) :
    insertHead table columns ++ rest
      = "INSERT INTO ".toList ++ (table.toList ++ (" (".toList ++
          (commaList (columns.map String.toList) ++ (") VALUES ".toList ++ rest)))) := by
  unfold insertHead
  simp only [List.append_assoc]

section Write

variable (table : String) (columns : List String) (clauses : Clauses) (rows : Nat)

theorem write_select : (Statement.select table columns clauses).write
    = "SELECT ".toList ++ commaList (columns.map String.toList) ++ " FROM ".toList ++
      table.toList ++ clauses.write := rfl

theorem write_insert : (Statement.insert table columns rows).write
    = insertHead table columns ++
      commaList (List.replicate rows (Statement.slots columns.length)) := rfl

theorem write_update : (Statement.update table columns clauses).write
    = "UPDATE ".toList ++ table.toList ++ " SET ".toList ++ commaList (columns.map equation) ++
      clauses.write := rfl

theorem write_delete : (Statement.delete table clauses).write
    = "DELETE FROM ".toList ++ table.toList ++ clauses.write := rfl

end Write

/-- **Every character of a statement is an expected one.** -/
theorem isStatementText_write {st : Statement} (h : st.WellFormed) : IsStatementText st.write := by
  -- Statement by statement, from left to right: fixed words, names, and lists of them.
  cases st with
  | select table columns clauses =>
    obtain ⟨ht, -, hcolumns, hclauses⟩ := h
    have hlist : IsStatementText (commaList (columns.map String.toList)) := by
      refine isStatementText_commaList fun item hitem => ?_
      obtain ⟨column, hcolumn, rfl⟩ := List.mem_map.mp hitem
      exact isStatementText_of_isSelectable (hcolumns column hcolumn)
    have hhead : IsStatementText "SELECT ".toList := by decide
    have hfrom : IsStatementText " FROM ".toList := by decide
    exact (((hhead.append hlist).append hfrom).append (isStatementText_of_isIdentifier ht)).append
      (isStatementText_clauses hclauses)
  | insert table columns rows =>
    obtain ⟨ht, -, hcolumns, -⟩ := h
    have hlist : IsStatementText (commaList (columns.map String.toList)) := by
      refine isStatementText_commaList fun item hitem => ?_
      obtain ⟨column, hcolumn, rfl⟩ := List.mem_map.mp hitem
      exact isStatementText_of_isIdentifier (hcolumns column hcolumn)
    have hgroups : IsStatementText
        (commaList (List.replicate rows (Statement.slots columns.length))) := by
      refine isStatementText_commaList fun item hitem => ?_
      rw [(List.mem_replicate.mp hitem).2]
      exact isStatementText_slots _
    have hhead : IsStatementText "INSERT INTO ".toList := by decide
    have hopen : IsStatementText " (".toList := by decide
    have hvalues : IsStatementText ") VALUES ".toList := by decide
    exact ((((hhead.append (isStatementText_of_isIdentifier ht)).append hopen).append hlist).append
      hvalues).append hgroups
  | update table columns clauses =>
    obtain ⟨ht, -, hcolumns, hclauses⟩ := h
    have hlist : IsStatementText (commaList (columns.map equation)) := by
      refine isStatementText_commaList fun item hitem => ?_
      obtain ⟨column, hcolumn, rfl⟩ := List.mem_map.mp hitem
      exact isStatementText_equation (hcolumns column hcolumn)
    have hhead : IsStatementText "UPDATE ".toList := by decide
    have hset : IsStatementText " SET ".toList := by decide
    exact (((hhead.append (isStatementText_of_isIdentifier ht)).append hset).append hlist).append
      (isStatementText_clauses hclauses)
  | delete table clauses =>
    have hhead : IsStatementText "DELETE FROM ".toList := by decide
    exact (hhead.append (isStatementText_of_isIdentifier h.1)).append
      (isStatementText_clauses h.2)

end StoreBridge
