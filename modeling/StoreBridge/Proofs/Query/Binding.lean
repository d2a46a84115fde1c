import Mathlib.Tactic.NthRewrite
import StoreBridge.Proofs.Query.Text

/-!
# Values and their placeholders

The text of a statement and the list of its values are made apart from each other. Here they are
shown to agree: the placeholder with a number is written for the column of the binding with that
number.

`Statement.Marks st before i column` says what it means that the text `before` a placeholder shows
it to be the one with number `i`, written for `column`. In an insert the place is a slot of a group;
in every other statement it is the place behind `column = `.

The argument cuts the text at the placeholder. `exists_marked_equation` makes the cut in a list of
equations and `exists_marked_slot` in the groups of an insert; both count the question marks in
front of the cut, and `Placeholder.positions_getElem?` turns that count into the number of the
placeholder. The main result is `compile_bindings_aligned`.
-/

namespace StoreBridge

/-- The text of an insert in front of the slot `k` of the group `g`: whole groups, then slots of its
own group. -/
def slotLead (table : String) (columns : List String) (g k : Nat) : List Char :=
  insertHead table columns ++
    ((List.replicate g (Statement.slots columns.length)).flatMap (· ++ ", ".toList) ++
      '(' :: (List.replicate k ['?']).flatMap (· ++ ", ".toList))

/-- The text `before` a placeholder shows that it is the one with number `i` and written for
`column`. -/
def Statement.Marks (st : Statement) (before : List Char) (i : Nat) (column : String) : Prop :=
  match st with
  | .insert table columns _ =>
    columns[i % columns.length]? = some column ∧
      before = slotLead table columns (i / columns.length) (i % columns.length)
  | _ => ' ' :: column.toList ++ " = ".toList <:+ before

/-! ### Counting question marks -/

theorem not_mem_of_isIdentifier {name : String} (h : isIdentifier name = true) :
    '?' ∉ name.toList :=
  fun hmem => absurd (isNameChar_of_isIdentifier h '?' hmem) (by decide)

/-- A column or a star has no placeholder in it. -/
theorem not_mem_of_isSelectable {column : String} (h : IsSelectable column) :
    '?' ∉ column.toList := by
  rcases h with rfl | h
  · decide
  · exact not_mem_of_isIdentifier h

/-- A list of columns and stars has no placeholder in it. -/
theorem not_mem_names {columns : List String} (h : ∀ c ∈ columns, IsSelectable c) :
    '?' ∉ commaList (columns.map String.toList) := by
  intro hmem
  rcases mem_joinWith hmem with hmem | ⟨item, hitem, hmem⟩
  · exact absurd hmem (by decide)
  · obtain ⟨column, hcolumn, rfl⟩ := List.mem_map.mp hitem
    exact not_mem_of_isSelectable (h column hcolumn) hmem

section Count

variable {sep : List Char} {items : List (List Char)} {m : Nat}

/-- Separators without question marks add none, whichever side of the items they stand on. -/
theorem count_flatMap_append (hsep : '?' ∉ sep) (h : ∀ item ∈ items, item.count '?' = m) :
    (items.flatMap (· ++ sep)).count '?' = items.length * m := by
  induction items with
  | nil => simp
  | cons x xs ih =>
    rw [List.flatMap_cons, List.count_append, List.count_append, List.count_eq_zero.mpr hsep,
      ih fun item hitem => h item (List.mem_cons_of_mem _ hitem), h x List.mem_cons_self,
      List.length_cons, Nat.succ_mul, Nat.add_zero, Nat.add_comm]

/-- Items with the same number of question marks each, joined by a separator with none. -/
theorem count_joinWith (hsep : '?' ∉ sep) (h : ∀ item ∈ items, item.count '?' = m) :
    (joinWith sep items).count '?' = items.length * m := by
  cases items with
  | nil => simp [joinWith]
  | cons x xs =>
    have htail : (xs.flatMap (sep ++ ·)).count '?' = xs.length * m := by
      have hxs : ∀ item ∈ xs, item.count '?' = m := fun item hitem => h item (by simp [hitem])
      -- The first item is written without a separator, the others with one in front.
      clear h
      induction xs with
      | nil => simp
      | cons y ys ih =>
        rw [List.flatMap_cons, List.count_append, List.count_append, List.count_eq_zero.mpr hsep,
          ih fun item hitem => hxs item (List.mem_cons_of_mem _ hitem), hxs y List.mem_cons_self,
          List.length_cons, Nat.succ_mul, Nat.zero_add, Nat.add_comm]
    rw [joinWith_cons, List.count_append, htail, h x List.mem_cons_self, List.length_cons,
      Nat.succ_mul, Nat.add_comm]

end Count

/-- A condition on a column has one placeholder. -/
theorem count_equation {column : String} (h : isIdentifier column = true) :
    (equation column).count '?' = 1 := by
  rw [equation, List.count_append, List.count_eq_zero.mpr (not_mem_of_isIdentifier h)]
  decide

/-- Each of several conditions has one placeholder. -/
theorem count_equations {columns : List String} (h : ∀ c ∈ columns, isIdentifier c = true) :
    ∀ item ∈ columns.map equation, item.count '?' = 1 := by
  intro item hitem
  obtain ⟨c, hc, rfl⟩ := List.mem_map.mp hitem
  exact count_equation (h c hc)

theorem count_assignments {columns : List String} (h : ∀ c ∈ columns, isIdentifier c = true) :
    (commaList (columns.map equation)).count '?' = columns.length := by
  rw [commaList_eq, count_joinWith (by decide) (count_equations h), List.length_map, Nat.mul_one]

/-- A row of placeholders has one for each column. -/
theorem count_slots (n : Nat) : (Statement.slots n).count '?' = n := by
  have hitem : ∀ item ∈ List.replicate n ['?'], item.count '?' = 1 := by
    intro item hitem
    rw [(List.mem_replicate.mp hitem).2]
    decide
  rw [Statement.slots, List.count_append, List.count_cons, commaList,
    count_joinWith (by decide) hitem, List.length_replicate]
  simp

/-- A term of an order has no placeholder. -/
theorem not_mem_term {term : String × Direction} (h : isIdentifier term.1 = true) :
    '?' ∉ writeTerm term := by
  have hword : ∀ d : Direction, '?' ∉ ' ' :: d.keyword.toList := by
    intro d
    cases d <;> decide
  intro hmem
  rcases List.mem_append.mp hmem with hmem | hmem
  · exact not_mem_of_isIdentifier h hmem
  · exact hword term.2 hmem

/-- The clauses of a statement have one question mark for each condition. -/
theorem count_clauses {c : Clauses} (h : c.WellFormed) :
    c.write.count '?' = c.conditions.length := by
  -- All question marks are in the conditions: neither the order nor the limit has one.
  have hconditions : (Clauses.writeConditions c.conditions).count '?' = c.conditions.length := by
    by_cases hne : c.conditions = []
    · rw [hne]
      rfl
    · rw [writeConditions_of_ne_nil hne, List.count_append,
        count_joinWith (by decide) (count_equations h.conditions), List.length_map,
        show " WHERE ".toList.count '?' = 0 by decide, Nat.zero_add, Nat.mul_one]
  have horder : '?' ∉ Clauses.writeOrder c.order := by
    by_cases hne : c.order = []
    · rw [hne]
      exact List.not_mem_nil
    · rw [writeOrder_of_ne_nil hne]
      intro hmem
      rcases List.mem_append.mp hmem with hmem | hmem
      · exact absurd hmem (by decide)
      · rcases mem_joinWith hmem with hmem | ⟨item, hitem, hmem⟩
        · exact absurd hmem (by decide)
        · obtain ⟨term, hterm, rfl⟩ := List.mem_map.mp hitem
          exact not_mem_term (h.order term hterm) hmem
  have hlimit : '?' ∉ Clauses.writeLimit c.limit := by
    cases c.limit with
    | none => exact List.not_mem_nil
    | some n =>
      intro hmem
      rcases List.mem_append.mp hmem with hmem | hmem
      · exact absurd hmem (by decide)
      · exact absurd (isDigit_of_mem_natDigits hmem) (by decide)
  rw [Clauses.write, List.count_append, List.count_append, hconditions,
    List.count_eq_zero.mpr horder, List.count_eq_zero.mpr hlimit]
  rfl

/-! ### Cutting a text at a placeholder -/

/-- Items that are each followed by a separator keep a blank at the end of the text. -/
theorem exists_blank_end {sep head : List Char} (hhead : [' '] <:+ head) (hsep : [' '] <:+ sep)
    (items : List (List Char)) : [' '] <:+ head ++ items.flatMap (· ++ sep) := by
  induction items generalizing head with
  | nil => rwa [List.flatMap_nil, List.append_nil]
  | cons x xs ih =>
    rw [List.flatMap_cons, ← List.append_assoc]
    exact ih ((hsep.trans (List.suffix_append _ _)).trans (List.suffix_append _ _))

/-- **The cut in a list of equations.** Behind a head that ends with a blank, the placeholder of the
column at position `i` has `i` question marks of the list before it. -/
theorem exists_marked_equation (head sep : List Char) {columns : List String} {i : Nat}
    {column : String} (hhead : [' '] <:+ head) (hsep : [' '] <:+ sep) (hmark : '?' ∉ sep)
    (h : ∀ c ∈ columns, isIdentifier c = true) (hi : columns[i]? = some column)
    (rest : List Char) :
    ∃ before after, head ++ (joinWith sep (columns.map equation) ++ rest) = before ++ '?' :: after ∧
      before.count '?' = head.count '?' + i ∧ ' ' :: column.toList ++ " = ".toList <:+ before := by
  obtain ⟨hlt, hget⟩ := List.getElem?_eq_some_iff.mp hi
  -- The list is cut at the equation of the column.
  have hsplit : columns.map equation
      = (columns.take i).map equation ++ equation column ::
        (columns.drop (i + 1)).map equation := by
    rw [← List.map_cons, ← List.map_append, ← hget, List.getElem_cons_drop, List.take_append_drop]
  have hequation : equation column = column.toList ++ " = ".toList ++ ['?'] := by
    rw [equation, List.append_assoc]
    rfl
  have hlead : [' '] <:+ head ++ ((columns.take i).map equation).flatMap (· ++ sep) :=
    exists_blank_end hhead hsep _
  refine ⟨head ++ ((columns.take i).map equation).flatMap (· ++ sep) ++
      (column.toList ++ " = ".toList),
    ((columns.drop (i + 1)).map equation).flatMap (sep ++ ·) ++ rest, ?_, ?_, ?_⟩
  · rw [hsplit, joinWith_append_cons, hequation]
    simp only [List.append_assoc, List.cons_append, List.nil_append]
  · -- Every equation in front has one question mark, and the column itself none.
    have htake : ∀ c ∈ columns.take i, isIdentifier c = true :=
      fun c hc => h c (List.mem_of_mem_take hc)
    have hcolumn : column ∈ columns := List.mem_of_getElem? hi
    rw [List.count_append, List.count_append, List.count_append,
      count_flatMap_append hmark (count_equations htake), List.length_map, List.length_take_of_le
      (Nat.le_of_lt hlt), List.count_eq_zero.mpr (not_mem_of_isIdentifier (h column hcolumn)),
      Nat.mul_one]
    rfl
  · -- The blank in front of the column is the last character of the head or of a separator.
    obtain ⟨front, hfront⟩ := hlead
    rw [← hfront, List.append_assoc]
    exact List.suffix_append _ _

/-- The cut in the conditions of a statement. -/
theorem exists_marked_condition (head : List Char) {c : Clauses} (h : c.WellFormed) {i : Nat}
    {column : String} (hi : c.conditions[i]? = some column) :
    ∃ before after, head ++ c.write = before ++ '?' :: after ∧
      before.count '?' = head.count '?' + i ∧ ' ' :: column.toList ++ " = ".toList <:+ before := by
  -- There is a condition, so there is a `WHERE`.
  have hne : c.conditions ≠ [] := by
    intro hnil
    rw [hnil] at hi
    simp at hi
  obtain ⟨before, after, htext, hcount, hends⟩ :=
    exists_marked_equation (head ++ " WHERE ".toList) " AND ".toList
      (.trans ⟨" WHERE".toList, rfl⟩ (List.suffix_append _ _)) ⟨" AND".toList, rfl⟩ (by decide)
      h.conditions hi
      (Clauses.writeOrder c.order ++ Clauses.writeLimit c.limit)
  refine ⟨before, after, ?_, ?_, hends⟩
  · rw [← htext, Clauses.write, writeConditions_of_ne_nil hne]
    simp only [List.append_assoc]
  · rw [hcount, List.count_append, show " WHERE ".toList.count '?' = 0 by decide, Nat.add_zero]

/-- One of many equal items, with those before and after it. -/
theorem joinWith_replicate {sep x : List Char} {n k : Nat} (hk : k < n) :
    joinWith sep (List.replicate n x)
      = (List.replicate k x).flatMap (· ++ sep) ++
        (x ++ (List.replicate (n - k - 1) x).flatMap (sep ++ ·)) := by
  have hsplit : List.replicate n x
      = List.replicate k x ++ x :: List.replicate (n - k - 1) x := by
    rw [← List.replicate_succ, List.replicate_append_replicate]
    congr 1
    omega
  rw [hsplit, joinWith_append_cons]

/-- A group of slots, cut at the slot `k`. -/
theorem slots_eq {n k : Nat} (hk : k < n) :
    Statement.slots n = '(' :: (List.replicate k ['?']).flatMap (· ++ ", ".toList) ++
      '?' :: ((List.replicate (n - k - 1) ['?']).flatMap (", ".toList ++ ·) ++ [')']) := by
  rw [Statement.slots, commaList_eq, joinWith_replicate hk]
  simp only [List.cons_append, List.append_assoc, List.nil_append]

/-- The head of an insert has no question mark: it is words of the language and identifiers. -/
theorem not_mem_insertHead {table : String} {columns : List String}
    (ht : isIdentifier table = true) (h : ∀ c ∈ columns, isIdentifier c = true) :
    '?' ∉ insertHead table columns := by
  intro hmem
  unfold insertHead at hmem
  simp only [List.mem_append] at hmem
  rcases hmem with (((hmem | hmem) | hmem) | hmem) | hmem
  · exact absurd hmem (by decide)
  · exact not_mem_of_isIdentifier ht hmem
  · exact absurd hmem (by decide)
  · exact not_mem_names (fun c hc => Or.inr (h c hc)) hmem
  · exact absurd hmem (by decide)

/-- **The cut in the groups of an insert.** The slot `k` of the group `g` has `g` whole groups and
`k` slots before it. -/
theorem exists_marked_slot {table : String} {columns : List String} {rows g k : Nat}
    (ht : isIdentifier table = true) (h : ∀ c ∈ columns, isIdentifier c = true)
    (hg : g < rows) (hk : k < columns.length) :
    ∃ after, (Statement.insert table columns rows).write
        = slotLead table columns g k ++ '?' :: after ∧
      (slotLead table columns g k).count '?' = g * columns.length + k := by
  -- In front of the slot there are `g` whole groups, and `k` slots of its own one.
  have hgroups : ∀ item ∈ List.replicate g (Statement.slots columns.length),
      item.count '?' = columns.length := by
    intro item hitem
    rw [(List.mem_replicate.mp hitem).2, count_slots]
  have hslots : ∀ item ∈ List.replicate k ['?'], item.count '?' = 1 := by
    intro item hitem
    rw [(List.mem_replicate.mp hitem).2]
    decide
  refine ⟨(List.replicate (columns.length - k - 1) ['?']).flatMap (", ".toList ++ ·) ++
    (')' :: (List.replicate (rows - g - 1) (Statement.slots columns.length)).flatMap
      (", ".toList ++ ·)), ?_, ?_⟩
  · have hgroup := slots_eq hk
    rw [write_insert, commaList_eq, joinWith_replicate hg, slotLead]
    generalize Statement.slots columns.length = group at hgroup ⊢
    nth_rewrite 2 [hgroup]
    simp only [List.cons_append, List.append_assoc, List.nil_append]
  · rw [slotLead, List.count_append, List.count_append,
      List.count_eq_zero.mpr (not_mem_insertHead ht h), List.count_cons,
      count_flatMap_append (by decide) hgroups,
      count_flatMap_append (by decide) hslots, List.length_replicate, List.length_replicate]
    simp

/-! ### The bindings of a draft -/

/-- The number of values that a statement takes. -/
def Statement.arity : Statement → Nat
  | .select _ _ clauses => clauses.conditions.length
  | .insert _ columns rows => rows * columns.length
  | .update _ columns clauses => columns.length + clauses.conditions.length
  | .delete _ clauses => clauses.conditions.length

/-- **As many question marks as values.** A well-formed statement has one question mark for each
value that it waits for: an insert one in every slot, an update one for every change and every
condition, and the two others one for every condition. Nothing else in a statement is a question
mark, since names are identifiers. -/
theorem count_write {st : Statement} (h : st.WellFormed) : st.write.count '?' = st.arity := by
  cases st with
  | select table columns clauses =>
    obtain ⟨ht, -, hcolumns, hclauses⟩ := h
    simp only [write_select, Statement.arity, List.count_append, count_clauses hclauses,
      List.count_eq_zero.mpr (not_mem_of_isIdentifier ht),
      List.count_eq_zero.mpr (not_mem_names hcolumns),
      show "SELECT ".toList.count '?' = 0 by decide, show " FROM ".toList.count '?' = 0 by decide,
      Nat.zero_add]
  | insert table columns rows =>
    obtain ⟨ht, -, hcolumns, -⟩ := h
    -- Every group has as many slots as there are columns.
    have hgroups : ∀ item ∈ List.replicate rows (Statement.slots columns.length),
        item.count '?' = columns.length := by
      intro item hitem
      rw [(List.mem_replicate.mp hitem).2, count_slots]
    rw [write_insert, commaList_eq, List.count_append, count_joinWith (by decide) hgroups,
      List.count_eq_zero.mpr (not_mem_insertHead ht hcolumns), List.length_replicate, Nat.zero_add,
      Statement.arity]
  | update table columns clauses =>
    obtain ⟨ht, -, hcolumns, hclauses⟩ := h
    simp only [write_update, Statement.arity, List.count_append, count_clauses hclauses,
      List.count_eq_zero.mpr (not_mem_of_isIdentifier ht), count_assignments hcolumns,
      show "UPDATE ".toList.count '?' = 0 by decide, show " SET ".toList.count '?' = 0 by decide,
      Nat.zero_add]
  | delete table clauses =>
    simp only [write_delete, Statement.arity, List.count_append, count_clauses h.2,
      List.count_eq_zero.mpr (not_mem_of_isIdentifier h.1),
      show "DELETE FROM ".toList.count '?' = 0 by decide, Nat.zero_add]

/-- Rows have as many values as they have columns altogether. -/
theorem length_rowPairs (columns : List String) (rows : List Members) :
    (rowPairs columns rows).length = rows.length * columns.length := by
  induction rows with
  | nil => simp [rowPairs]
  | cons row rows ih =>
    rw [rowPairs] at ih ⊢
    rw [List.flatMap_cons, List.length_append, ih, List.length_map, List.length_cons,
      Nat.succ_mul, Nat.add_comm]

/-- The pair with number `i` stands in the row `i / c`, at the column `i % c`. -/
theorem rowPairs_getElem? {columns : List String} {rows : List Members} {i : Nat}
    {column : String} {value : Json} (h : (rowPairs columns rows)[i]? = some (column, value)) :
    i / columns.length < rows.length ∧ i % columns.length < columns.length ∧
      columns[i % columns.length]? = some column := by
  -- On the rows, each of which takes up as many pairs as there are columns.
  induction rows generalizing i with
  | nil => simp [rowPairs] at h
  | cons row rows ih =>
    rw [rowPairs, List.flatMap_cons] at h
    by_cases hi : i < columns.length
    · rw [List.getElem?_append_left (by rwa [List.length_map]), List.getElem?_map,
        Option.map_eq_some_iff] at h
      obtain ⟨found, hfound, hpair⟩ := h
      obtain rfl : found = column := congrArg Prod.fst hpair
      rw [Nat.div_eq_of_lt hi, Nat.mod_eq_of_lt hi]
      exact ⟨Nat.succ_pos _, hi, hfound⟩
    · -- The pair belongs to a later row: count from the end of the first one.
      obtain ⟨j, rfl⟩ := Nat.exists_eq_add_of_le' (Nat.le_of_not_lt hi)
      rw [List.getElem?_append_right (by rw [List.length_map]; omega), List.length_map,
        Nat.add_sub_cancel] at h
      obtain ⟨hrow, hlt, hcolumn⟩ := ih h
      have hpos : 0 < columns.length := Nat.lt_of_le_of_lt (Nat.zero_le _) hlt
      rw [Nat.add_div_right _ hpos, Nat.add_mod_right]
      exact ⟨Nat.succ_lt_succ hrow, hlt, hcolumn⟩

/-- A draft has as many bindings as its statement waits for values. -/
theorem length_bindings (d : Draft) (table : String) :
    d.bindings.length = (d.statement table).arity := by
  have hkeys : d.conditions.length = d.clauseTexts.conditions.length := (List.length_map _).symm
  unfold Draft.bindings Draft.statement
  -- The statement and the bindings are both chosen by the write.
  cases d.write with
  | none => exact hkeys
  | some write =>
    cases write with
    | insert data => exact length_rowPairs _ _
    | update data =>
      change (payloadMembers data ++ d.conditions).length
        = (payloadMembers data).keys.length + d.clauseTexts.conditions.length
      rw [List.length_append, hkeys, Members.keys, List.length_map]
    | delete => exact hkeys

/-- The key at a position is that of the member there. -/
theorem keys_getElem? {members : Members} {i : Nat} {column : String} {value : Json}
    (h : members[i]? = some (column, value)) : members.keys[i]? = some column := by
  rw [Members.keys, List.getElem?_map, h]
  rfl

/-- **The placeholder of a binding.** The text of a draft's statement can be cut at the placeholder
with the number of the binding, and the text before the cut shows it to be written for the column of
the binding. -/
theorem exists_mark {d : Draft} {table : String} (h : (d.statement table).WellFormed) {i : Nat}
    {column : String} {value : Json} (hi : d.bindings[i]? = some (column, value)) :
    ∃ before after, (d.statement table).write = before ++ '?' :: after ∧ before.count '?' = i ∧
      (d.statement table).Marks before i column := by
  unfold Draft.statement Draft.bindings at *
  cases hw : d.write with
  | none =>
    simp only [hw] at h hi ⊢
    -- A select and a delete bind their conditions, and nothing in front of these is a question
    -- mark.
    obtain ⟨ht, -, hcolumns, hclauses⟩ := h
    obtain ⟨before, after, htext, hcount, hends⟩ :=
      exists_marked_condition ("SELECT ".toList ++
        commaList ((selectedColumns d.selected.join).map String.toList) ++ " FROM ".toList ++
        table.toList) hclauses (keys_getElem? hi)
    refine ⟨before, after, htext, ?_, hends⟩
    rw [hcount]
    simp only [List.count_append, List.count_eq_zero.mpr (not_mem_of_isIdentifier ht),
      List.count_eq_zero.mpr (not_mem_names hcolumns),
      show "SELECT ".toList.count '?' = 0 by decide,
      show " FROM ".toList.count '?' = 0 by decide, Nat.zero_add]
  | some write =>
    cases write with
    | insert data =>
      simp only [hw] at h hi ⊢
      obtain ⟨ht, -, hcolumns, -⟩ := h
      -- The number of the binding is divided by the columns into a row and a slot.
      obtain ⟨hrow, hslot, hcolumn⟩ := rowPairs_getElem? hi
      obtain ⟨after, htext, hcount⟩ := exists_marked_slot ht hcolumns hrow hslot
      refine ⟨_, after, htext, ?_, hcolumn, rfl⟩
      rw [hcount, Nat.mul_comm]
      exact Nat.div_add_mod _ _
    | update data =>
      simp only [hw] at h hi ⊢
      obtain ⟨ht, -, hcolumns, hclauses⟩ := h
      by_cases hset : i < (payloadMembers data).length
      · -- A new value: the cut is in the list of assignments.
        rw [List.getElem?_append_left hset] at hi
        obtain ⟨before, after, htext, hcount, hends⟩ :=
          exists_marked_equation ("UPDATE ".toList ++ table.toList ++ " SET ".toList) ", ".toList
            (.trans ⟨" SET".toList, rfl⟩ (List.suffix_append _ _)) ⟨[','], rfl⟩
            (by decide) hcolumns (keys_getElem? hi) d.clauseTexts.write
        refine ⟨before, after, ?_, ?_, hends⟩
        · rw [write_update, ← htext, commaList_eq]
          simp only [List.append_assoc]
        · rw [hcount]
          simp only [List.count_append, List.count_eq_zero.mpr (not_mem_of_isIdentifier ht),
            show "UPDATE ".toList.count '?' = 0 by decide,
            show " SET ".toList.count '?' = 0 by decide, Nat.zero_add]
      · -- A condition: all assignments stand before it.
        obtain ⟨j, rfl⟩ := Nat.exists_eq_add_of_le (Nat.le_of_not_lt hset)
        rw [List.getElem?_append_right (Nat.le_add_right _ _), Nat.add_sub_cancel_left] at hi
        obtain ⟨before, after, htext, hcount, hends⟩ :=
          exists_marked_condition ("UPDATE ".toList ++ table.toList ++ " SET ".toList ++
            commaList ((payloadMembers data).keys.map equation)) hclauses (keys_getElem? hi)
        refine ⟨before, after, htext, ?_, hends⟩
        rw [hcount]
        simp only [List.count_append, List.count_eq_zero.mpr (not_mem_of_isIdentifier ht),
          count_assignments hcolumns, show "UPDATE ".toList.count '?' = 0 by decide,
          show " SET ".toList.count '?' = 0 by decide, Nat.zero_add]
        rw [Members.keys, List.length_map]
    | delete =>
      simp only [hw] at h hi ⊢
      obtain ⟨before, after, htext, hcount, hends⟩ :=
        exists_marked_condition ("DELETE FROM ".toList ++ table.toList) h.2
          (keys_getElem? hi)
      refine ⟨before, after, htext, ?_, hends⟩
      rw [hcount, List.count_append, List.count_eq_zero.mpr (not_mem_of_isIdentifier h.1),
        show "DELETE FROM ".toList.count '?' = 0 by decide, Nat.zero_add]

/-- **Values and placeholders agree.** A compiled request has as many placeholders as values and as
many types as values; the values are those of the chain's bindings and each comes with the type that
the schema declares for its column; no row of an insert lacks a column; and the placeholder with the
number of a binding is the one written for the column of that binding. -/
theorem compile_bindings_aligned {s : Schema} {ops : List Operation} {r : SqlRequest}
    (h : compile s ops = .ok (.sql r)) :
    r.placeholderCount = r.params.length ∧ r.params.length = r.paramTypes.length ∧
      r.params = (chainBindings ops).map Prod.snd ∧
      r.paramTypes = (chainBindings ops).map (fun binding => s.fieldType? binding.1) ∧
      (Draft.reading ops).RowsComplete ∧
      ∀ i column value, (chainBindings ops)[i]? = some (column, value) →
        ∃ before after, r.text.toList = before ++ '?' :: after ∧
          (Placeholder.positions r.text.toList)[i]? = some before.length ∧
          (chainStatement s.name ops).Marks before i column := by
  obtain ⟨htext, hparams, htypes, hwf, hcomplete⟩ := compile_eq_ok_sql h
  -- A compiled text has no quotes, so all of its question marks are placeholders.
  have hplain : Placeholder.Unquoted r.text.toList := by
    rw [htext]
    exact (isStatementText_write hwf).unquoted
  refine ⟨?_, ?_, hparams, htypes, hcomplete, fun i column value hi => ?_⟩
  · rw [SqlRequest.placeholderCount, Placeholder.count, Placeholder.length_positions hplain, htext,
      count_write hwf, hparams, List.length_map]
    exact (length_bindings _ _).symm
  · rw [hparams, htypes, List.length_map, List.length_map]
  · obtain ⟨before, after, hcut, hcount, hmarks⟩ := exists_mark hwf hi
    replace hcut : r.text.toList = before ++ '?' :: after := htext.trans hcut
    refine ⟨before, after, hcut, ?_, hmarks⟩
    have hbefore : Placeholder.Unquoted before := by
      intro c hc
      exact hplain c (by rw [hcut]; exact List.mem_append_left _ hc)
    rw [hcut, ← hcount]
    exact Placeholder.positions_getElem? hbefore after

/-- A table that declares one of the columns written below. -/
def people : Schema :=
  ⟨"people", .tabular, [("name", ⟨.string, false, true, none⟩)]⟩

/-- Two rows that spell their keys in different orders. -/
def twoPeople : List Operation :=
  [.insert (.array [.object [("name", .string "ann"), ("age", .int 30)],
    .object [("age", .int 40), ("name", .string "bob")]])]

/-- The request that inserts them. -/
def twoPeopleRequest : SqlRequest :=
  ⟨"INSERT INTO people (name, age) VALUES (?, ?), (?, ?)",
    [.string "ann", .int 30, .string "bob", .int 40], [some .string, none, some .string, none]⟩

/-- The third placeholder takes the value of the first column in the second row, although that row
spells this column last. -/
theorem twoPeople_bindings_aligned :
    compile people twoPeople = .ok (.sql twoPeopleRequest) ∧
      twoPeopleRequest.placeholderCount = 4 ∧
      ∃ before after, twoPeopleRequest.text.toList = before ++ '?' :: after ∧
        (Placeholder.positions twoPeopleRequest.text.toList)[2]? = some before.length ∧
        (chainStatement people.name twoPeople).Marks before 2 "name" := by
  have hcompile : compile people twoPeople = .ok (.sql twoPeopleRequest) := rfl
  obtain ⟨hcount, -, -, -, -, hmarks⟩ := compile_bindings_aligned hcompile
  exact ⟨hcompile, hcount, hmarks 2 "name" (.string "bob") rfl⟩

end StoreBridge
