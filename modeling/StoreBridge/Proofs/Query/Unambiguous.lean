import StoreBridge.Proofs.Query.Text

/-!
# Statement texts are unambiguous

Two statements with the same text are the same statement, whatever their tables and columns are
called: a table may be named `FROM` and a column `AND` or `LIMIT`.

The proof takes a text apart from left to right. Each part of a statement comes with a law of one
shape, *part ++ rest = part' ++ rest' → part = part' ∧ rest = rest'*:

* `name_append_inj` — a name ends at the first character that no name contains, so a keyword is only
  ever read where a keyword is due;
* `equation_append_inj`, `term_append_inj` — an equation, a term of the order;
* `part_append_inj` — a clause that may be missing. What follows must not begin with the keyword of
  the clause, nor with its separator; the clauses begin with different keywords
  (`Clauses.write_append_inj`).

`Statement.write_injective` puts the parts together, and `compile_text_determines` is the result
about chains.
-/

namespace StoreBridge

/-- A character of a selected column: one of a name, or the mark for all columns. -/
def isColumnChar (c : Char) : Bool :=
  isNameChar c || c == '*'

/-- A selected column consists of characters of a column, and so does a star. -/
theorem isColumnChar_of_isSelectable {column : String} (h : IsSelectable column) :
    ∀ c ∈ column.toList, isColumnChar c = true := by
  intro c hc
  rcases h with rfl | h
  · obtain rfl : c = '*' := by simpa using hc
    rfl
  · rw [isColumnChar, isNameChar_of_isIdentifier h c hc, Bool.true_or]

variable {rest rest' : List Char}

/-- **A name ends where no name goes on.** -/
theorem name_append_inj {x y : String} (hx : IsSelectable x) (hy : IsSelectable y)
    (hr : StopsAt isColumnChar rest) (hr' : StopsAt isColumnChar rest')
    (h : x.toList ++ rest = y.toList ++ rest') : x = y ∧ rest = rest' := by
  obtain ⟨hname, hrest⟩ := append_inj_of_run (isColumnChar_of_isSelectable hx)
    (isColumnChar_of_isSelectable hy) hr hr' h
  exact ⟨String.toList_injective hname, hrest⟩

/-- The column of a condition can be read off a text that begins with the condition. -/
theorem equation_append_inj {x y : String} (hx : isIdentifier x = true)
    (hy : isIdentifier y = true) (h : equation x ++ rest = equation y ++ rest') :
    x = y ∧ rest = rest' := by
  have hstop : ∀ r : List Char, StopsAt isColumnChar (" = ?".toList ++ r) :=
    fun _ => stopsAt_cons rfl
  rw [equation, equation, List.append_assoc, List.append_assoc] at h
  obtain ⟨rfl, htail⟩ := name_append_inj (Or.inr hx) (Or.inr hy) (hstop rest) (hstop rest') h
  exact ⟨rfl, List.append_cancel_left htail⟩

/-- The two keywords of a direction differ in their first letter. -/
theorem keyword_append_inj {d d' : Direction}
    (h : ' ' :: d.keyword.toList ++ rest = ' ' :: d'.keyword.toList ++ rest') :
    d = d' ∧ rest = rest' := by
  cases d <;> cases d'
  · have hrest : " ASC".toList ++ rest = " ASC".toList ++ rest' := h
    exact ⟨rfl, List.append_cancel_left hrest⟩
  · exact absurd (show some 'A' = some 'D' from congrArg (·[1]?) h) (by decide)
  · exact absurd (show some 'D' = some 'A' from congrArg (·[1]?) h) (by decide)
  · have hrest : " DESC".toList ++ rest = " DESC".toList ++ rest' := h
    exact ⟨rfl, List.append_cancel_left hrest⟩

/-- The field and the direction of a term can be read off a text that begins with the term. -/
theorem term_append_inj {x y : String × Direction} (hx : isIdentifier x.1 = true)
    (hy : isIdentifier y.1 = true) (h : writeTerm x ++ rest = writeTerm y ++ rest') :
    x = y ∧ rest = rest' := by
  have hstop : ∀ (d : Direction) (r : List Char),
      StopsAt isColumnChar (' ' :: d.keyword.toList ++ r) := fun _ _ => stopsAt_cons rfl
  rw [writeTerm, writeTerm, List.append_assoc, List.append_assoc] at h
  obtain ⟨hfield, htail⟩ :=
    name_append_inj (Or.inr hx) (Or.inr hy) (hstop x.2 rest) (hstop y.2 rest') h
  obtain ⟨hdirection, hrest⟩ := keyword_append_inj htail
  exact ⟨Prod.ext hfield hdirection, hrest⟩

/-- The names of a list, before a text that neither goes on with a name nor with a comma. -/
theorem names_append_inj {xs ys : List String} (hxs : xs ≠ []) (hys : ys ≠ [])
    (hx : ∀ x ∈ xs, IsSelectable x) (hy : ∀ y ∈ ys, IsSelectable y)
    (hr : StopsAt isColumnChar rest) (hr' : StopsAt isColumnChar rest')
    (hn : ¬ ", ".toList <+: rest) (hn' : ¬ ", ".toList <+: rest')
    (h : commaList (xs.map String.toList) ++ rest = commaList (ys.map String.toList) ++ rest') :
    xs = ys ∧ rest = rest' :=
  have hsep : ∀ r : List Char, StopsAt isColumnChar (", ".toList ++ r) := fun _ => stopsAt_cons rfl
  joinWith_append_inj IsSelectable (StopsAt isColumnChar) (fun _ _ _ _ => name_append_inj) hsep
    hr hr' hn hn' hxs hys hx hy h

/-! ### Clauses -/

/-- **A clause that may be missing.** `write` gives the text of a clause, `f` that of one item. -/
theorem part_append_inj {α : Type} (Valid : α → Prop) {write : List α → List Char}
    {f : α → List Char} {keyword sep : List Char} (hnil : write [] = [])
    (hwrite : ∀ xs, xs ≠ [] → write xs = keyword ++ joinWith sep (xs.map f))
    (hf : ∀ x y r r', Valid x → Valid y → f x ++ r = f y ++ r' → x = y ∧ r = r')
    (hk : ¬ keyword <+: rest) (hk' : ¬ keyword <+: rest')
    (hn : ¬ sep <+: rest) (hn' : ¬ sep <+: rest') {xs ys : List α}
    (hx : ∀ x ∈ xs, Valid x) (hy : ∀ y ∈ ys, Valid y)
    (h : write xs ++ rest = write ys ++ rest') : xs = ys ∧ rest = rest' := by
  -- The keyword tells whether the clause is there, since nothing behind it begins like that.
  by_cases hxs : xs = []
  · by_cases hys : ys = []
    · rw [hxs, hys, hnil] at h
      exact ⟨hxs.trans hys.symm, h⟩
    · rw [hxs, hnil, hwrite ys hys, List.append_assoc] at h
      exact absurd ⟨_, h.symm⟩ hk
  · by_cases hys : ys = []
    · rw [hys, hnil, hwrite xs hxs, List.append_assoc] at h
      exact absurd ⟨_, h⟩ hk'
    · rw [hwrite xs hxs, hwrite ys hys, List.append_assoc, List.append_assoc] at h
      exact joinWith_append_inj Valid (fun _ => True)
        (fun x y r r' hx hy _ _ => hf x y r r' hx hy) (fun _ => trivial) trivial trivial hn hn'
        hxs hys hx hy (List.append_cancel_left h)

/-- Of two words that begin one text, one begins the other. -/
theorem not_prefix_append {word keyword : List Char} (h : ¬ word <+: keyword)
    (h' : ¬ keyword <+: word) (rest : List Char) : ¬ word <+: keyword ++ rest := by
  intro hprefix
  rcases List.prefix_or_prefix_of_prefix hprefix (List.prefix_append keyword rest) with hle | hle
  · exact h hle
  · exact h' hle

/-- A text that is empty or begins with one of the given keywords. -/
def StartsLike (keywords : List (List Char)) (cs : List Char) : Prop :=
  cs = [] ∨ ∃ keyword ∈ keywords, keyword <+: cs

/-- A word that none of the keywords goes on with, and that goes on with none of them, begins no
text that begins with one of them. -/
theorem not_prefix_of_startsLike {keywords : List (List Char)} {word cs : List Char}
    (hword : word ≠ []) (h : ∀ keyword ∈ keywords, ¬ word <+: keyword ∧ ¬ keyword <+: word)
    (hcs : StartsLike keywords cs) : ¬ word <+: cs := by
  rcases hcs with rfl | ⟨keyword, hmem, tail, rfl⟩
  · exact fun hprefix => hword (List.prefix_nil.mp hprefix)
  · exact not_prefix_append (h keyword hmem).1 (h keyword hmem).2 tail

/-- A limit begins with its keyword, if there is one. -/
theorem startsLike_writeLimit (limit : Option Nat) :
    StartsLike [" LIMIT ".toList] (Clauses.writeLimit limit) := by
  cases limit with
  | none => exact Or.inl rfl
  | some n => exact Or.inr ⟨_, List.mem_singleton_self _, List.prefix_append _ _⟩

/-- An order begins with its keyword, or else the limit behind it begins. -/
theorem startsLike_order (order : List (String × Direction)) (limit : Option Nat) :
    StartsLike [" ORDER BY ".toList, " LIMIT ".toList]
      (Clauses.writeOrder order ++ Clauses.writeLimit limit) := by
  by_cases hne : order = []
  · rw [hne]
    rcases startsLike_writeLimit limit with h | ⟨keyword, hmem, h⟩
    · exact Or.inl h
    · exact Or.inr ⟨keyword, List.mem_cons_of_mem _ hmem, h⟩
  · rw [writeOrder_of_ne_nil hne, List.append_assoc]
    exact Or.inr ⟨_, List.mem_cons_self, List.prefix_append _ _⟩

/-- Clauses begin with the keyword of the first one that is there. -/
theorem startsLike_clauses (c : Clauses) :
    StartsLike [" WHERE ".toList, " ORDER BY ".toList, " LIMIT ".toList] c.write := by
  rw [Clauses.write, List.append_assoc]
  by_cases hne : c.conditions = []
  · rw [hne]
    rcases startsLike_order c.order c.limit with h | ⟨keyword, hmem, h⟩
    · exact Or.inl h
    · exact Or.inr ⟨keyword, List.mem_cons_of_mem _ hmem, h⟩
  · rw [writeConditions_of_ne_nil hne, List.append_assoc]
    exact Or.inr ⟨_, List.mem_cons_self, List.prefix_append _ _⟩

/-- The three keywords begin with a blank, which no name contains. -/
theorem stopsAt_writeClauses (c : Clauses) : StopsAt isColumnChar c.write := by
  rcases startsLike_clauses c with h | ⟨keyword, hmem, tail, h⟩
  · rw [h]
    exact stopsAt_nil _
  · rw [← h]
    simp only [List.mem_cons, List.not_mem_nil, or_false] at hmem
    rcases hmem with rfl | rfl | rfl <;> exact stopsAt_cons rfl

theorem not_comma_prefix_clauses (c : Clauses) : ¬ ", ".toList <+: c.write :=
  not_prefix_of_startsLike (by decide) (by decide) (startsLike_clauses c)

/-- The clause of the limit tells whether there is one, and which. -/
theorem writeLimit_injective {l l' : Option Nat}
    (h : Clauses.writeLimit l = Clauses.writeLimit l') : l = l' := by
  cases l with
  | none =>
    cases l' with
    | none => rfl
    | some n' => exact absurd h.symm (List.append_ne_nil_of_left_ne_nil (by decide) _)
  | some n =>
    cases l' with
    | none => exact absurd h (List.append_ne_nil_of_left_ne_nil (by decide) _)
    | some n' => rw [natDigits_injective (List.append_cancel_left h)]

/-- **The clauses are unambiguous**: each part ends where the next one's keyword begins, so the
parts are split off from the left, one after the other. -/
theorem Clauses.write_injective {c c' : Clauses} (hc : c.WellFormed) (hc' : c'.WellFormed)
    (h : c.write = c'.write) : c = c' := by
  obtain ⟨conditions, order, limit⟩ := c
  obtain ⟨conditions', order', limit'⟩ := c'
  -- No separator and no keyword begins the text behind its own clause.
  have hwhere : ∀ o l, ¬ " WHERE ".toList <+: writeOrder o ++ writeLimit l := fun o l =>
    not_prefix_of_startsLike (by decide) (by decide) (startsLike_order o l)
  have hand : ∀ o l, ¬ " AND ".toList <+: writeOrder o ++ writeLimit l := fun o l =>
    not_prefix_of_startsLike (by decide) (by decide) (startsLike_order o l)
  have hby : ∀ l, ¬ " ORDER BY ".toList <+: writeLimit l := fun l =>
    not_prefix_of_startsLike (by decide) (by decide) (startsLike_writeLimit l)
  have hcomma : ∀ l, ¬ ", ".toList <+: writeLimit l := fun l =>
    not_prefix_of_startsLike (by decide) (by decide) (startsLike_writeLimit l)
  rw [Clauses.write, Clauses.write, List.append_assoc, List.append_assoc] at h
  -- From left to right: the conditions, the order, the limit.
  obtain ⟨hconditions, hrest⟩ := part_append_inj (fun x => isIdentifier x = true) rfl
    (fun _ => writeConditions_of_ne_nil) (fun _ _ _ _ => equation_append_inj)
    (hwhere order limit) (hwhere order' limit') (hand order limit) (hand order' limit')
    hc.conditions hc'.conditions h
  obtain ⟨horder, hlimit⟩ := part_append_inj
    (fun x : String × Direction => isIdentifier x.1 = true) rfl
    (fun _ => writeOrder_of_ne_nil) (fun _ _ _ _ => term_append_inj)
    (hby limit) (hby limit') (hcomma limit) (hcomma limit') hc.order hc'.order hrest
  rw [Clauses.mk.injEq]
  exact ⟨hconditions, horder, writeLimit_injective hlimit⟩

/-! ### Statements -/

namespace Statement

/-- The first letter of a statement. -/
def initial : Statement → Char
  | .select .. => 'S'
  | .insert .. => 'I'
  | .update .. => 'U'
  | .delete .. => 'D'

theorem head?_write (st : Statement) : st.write.head? = some st.initial := by
  cases st <;> rfl

variable {table table' : String} {columns columns' : List String} {clauses clauses' : Clauses}
  {rows rows' : Nat}

/-- The table and what follows it, at the end of a select or a delete. -/
theorem tail_injective (ht : isIdentifier table = true) (ht' : isIdentifier table' = true)
    (hc : clauses.WellFormed) (hc' : clauses'.WellFormed)
    (h : table.toList ++ clauses.write = table'.toList ++ clauses'.write) :
    table = table' ∧ clauses = clauses' := by
  obtain ⟨htable, hclauses⟩ := name_append_inj (Or.inr ht) (Or.inr ht')
    (stopsAt_writeClauses clauses) (stopsAt_writeClauses clauses') h
  exact ⟨htable, Clauses.write_injective hc hc' hclauses⟩

/-- The text of a select determines its columns, its table and its clauses. A column ends in front
of a blank or a comma, and the keyword behind the list is no continuation of it. -/
theorem select_injective (hw : (select table columns clauses).WellFormed)
    (hw' : (select table' columns' clauses').WellFormed)
    (h : (select table columns clauses).write = (select table' columns' clauses').write) :
    select table columns clauses = select table' columns' clauses' := by
  obtain ⟨ht, hne, hcolumns, hclauses⟩ := hw
  obtain ⟨ht', hne', hcolumns', hclauses'⟩ := hw'
  have hstop : ∀ r : List Char, StopsAt isColumnChar (" FROM ".toList ++ r) :=
    fun _ => stopsAt_cons rfl
  have hcomma : ∀ r : List Char, ¬ ", ".toList <+: " FROM ".toList ++ r :=
    not_prefix_append (by decide) (by decide)
  rw [write_select, write_select] at h
  simp only [List.append_assoc] at h
  -- From left to right: the columns, the table, the clauses.
  obtain ⟨rfl, htail⟩ := names_append_inj hne hne' hcolumns hcolumns' (hstop _) (hstop _)
    (hcomma _) (hcomma _) (List.append_cancel_left h)
  obtain ⟨rfl, rfl⟩ := tail_injective ht ht' hclauses hclauses' (List.append_cancel_left htail)
  rfl

/-- The number of groups can be read off their text. -/
theorem groups_injective {n : Nat} (hrows : rows ≠ 0) (hrows' : rows' ≠ 0)
    (h : commaList (List.replicate rows (slots n)) = commaList (List.replicate rows' (slots n))) :
    rows = rows' := by
  -- All groups are alike, so they are the texts of a list of units.
  have hlist : ∀ k, List.replicate k (slots n) = (List.replicate k ()).map fun _ => slots n :=
    fun k => by rw [List.map_replicate]
  rw [hlist, hlist, commaList_eq, commaList_eq] at h
  obtain ⟨heq, -⟩ := joinWith_append_inj (fun _ : Unit => True) (fun _ => True)
    (fun _ _ _ _ _ _ _ _ hitem => ⟨rfl, List.append_cancel_left hitem⟩)
    (fun _ => trivial) trivial trivial (by decide) (by decide)
    (by simpa using hrows) (by simpa using hrows') (fun _ _ => trivial) (fun _ _ => trivial)
    (congrArg (· ++ ([] : List Char)) h)
  simpa using congrArg List.length heq

/-- The text of an insert determines its table, its columns and the number of its rows: a name ends
in front of the bracket, the list in front of the closing one, and the groups are as many as there
are rows. -/
theorem insert_injective (hw : (insert table columns rows).WellFormed)
    (hw' : (insert table' columns' rows').WellFormed)
    (h : (insert table columns rows).write = (insert table' columns' rows').write) :
    insert table columns rows = insert table' columns' rows' := by
  obtain ⟨ht, hne, hcolumns, hrows⟩ := hw
  obtain ⟨ht', hne', hcolumns', hrows'⟩ := hw'
  have hopen : ∀ r : List Char, StopsAt isColumnChar (" (".toList ++ r) :=
    fun _ => stopsAt_cons rfl
  have hclose : ∀ r : List Char, StopsAt isColumnChar (") VALUES ".toList ++ r) :=
    fun _ => stopsAt_cons rfl
  have hcomma : ∀ r : List Char, ¬ ", ".toList <+: ") VALUES ".toList ++ r :=
    not_prefix_append (by decide) (by decide)
  rw [write_insert, write_insert, insertHead_append, insertHead_append] at h
  -- From left to right: the table, the columns, the groups.
  obtain ⟨rfl, hlist⟩ := name_append_inj (Or.inr ht) (Or.inr ht') (hopen _) (hopen _)
    (List.append_cancel_left h)
  obtain ⟨rfl, hvalues⟩ := names_append_inj hne hne' (fun c hc => Or.inr (hcolumns c hc))
    (fun c hc => Or.inr (hcolumns' c hc)) (hclose _) (hclose _) (hcomma _) (hcomma _)
    (List.append_cancel_left hlist)
  rw [groups_injective hrows hrows' (List.append_cancel_left hvalues)]

/-- The text of an update determines its table, its columns and its clauses. -/
theorem update_injective (hw : (update table columns clauses).WellFormed)
    (hw' : (update table' columns' clauses').WellFormed)
    (h : (update table columns clauses).write = (update table' columns' clauses').write) :
    update table columns clauses = update table' columns' clauses' := by
  obtain ⟨ht, hne, hcolumns, hclauses⟩ := hw
  obtain ⟨ht', hne', hcolumns', hclauses'⟩ := hw'
  have hset : ∀ r : List Char, StopsAt isColumnChar (" SET ".toList ++ r) :=
    fun _ => stopsAt_cons rfl
  rw [write_update, write_update] at h
  simp only [List.append_assoc] at h
  -- The assignments need no names behind them: each ends with its own placeholder.
  obtain ⟨rfl, htail⟩ := name_append_inj (Or.inr ht) (Or.inr ht') (hset _) (hset _)
    (List.append_cancel_left h)
  obtain ⟨rfl, hrest⟩ := joinWith_append_inj (fun c => isIdentifier c = true)
    (fun _ => True) (fun _ _ _ _ hx hy _ _ => equation_append_inj hx hy) (fun _ => trivial)
    trivial trivial
    (not_comma_prefix_clauses clauses) (not_comma_prefix_clauses clauses') hne hne'
    hcolumns hcolumns' (List.append_cancel_left htail)
  rw [Clauses.write_injective hclauses hclauses' hrest]

/-- **Deletes**: their text tells the table and the clauses. -/
theorem delete_injective (hw : (delete table clauses).WellFormed)
    (hw' : (delete table' clauses').WellFormed)
    (h : (delete table clauses).write = (delete table' clauses').write) :
    delete table clauses = delete table' clauses' := by
  rw [write_delete, write_delete, List.append_assoc, List.append_assoc] at h
  obtain ⟨rfl, rfl⟩ := tail_injective hw.1 hw'.1 hw.2 hw'.2 (List.append_cancel_left h)
  rfl

/-- **Statements are unambiguous.** -/
theorem write_injective {st st' : Statement} (hw : st.WellFormed) (hw' : st'.WellFormed)
    (h : st.write = st'.write) : st = st' := by
  -- Statements of different kinds begin with different letters.
  have hinitial : st.initial = st'.initial := by
    rw [← Option.some_inj, ← head?_write, ← head?_write, h]
  cases st <;> cases st'
  case select.select => exact select_injective hw hw' h
  case insert.insert => exact insert_injective hw hw' h
  case update.update => exact update_injective hw hw' h
  case delete.delete => exact delete_injective hw hw' h
  all_goals exact absurd hinitial (by simp [initial])

end Statement

/-! ### Compiled texts -/

/-- **The text of a compiled chain determines its statement.** -/
theorem compile_text_determines {s s' : Schema} {ops ops' : List Operation} {r r' : SqlRequest}
    (h : compile s ops = .ok (.sql r)) (h' : compile s' ops' = .ok (.sql r'))
    (ht : r.text = r'.text) : chainStatement s.name ops = chainStatement s'.name ops' := by
  obtain ⟨htext, -, -, hw, -⟩ := compile_eq_ok_sql h
  obtain ⟨htext', -, -, hw', -⟩ := compile_eq_ok_sql h'
  refine Statement.write_injective hw hw' ?_
  rw [← htext, ← htext', ht]

/-- A table that is called like a keyword. -/
def keywordTable : Schema :=
  ⟨"FROM", .tabular, []⟩

/-- A chain on columns that are called like keywords. -/
def keywordChain : List Operation :=
  [.select none, .filter (.object [("AND", .int 1), ("LIMIT", .string "x")]),
    .orderBy "WHERE" .desc]

/-- A chain with other values and in another order, for which the same is written. -/
def keywordChainReordered : List Operation :=
  [.filter (.object [("AND", .null)]), .orderBy "WHERE" .desc,
    .filter (.object [("LIMIT", .bool true)]), .select (some ["*"])]

/-- The text of both. -/
def keywordText : String :=
  "SELECT * FROM FROM WHERE AND = ? AND LIMIT = ? ORDER BY WHERE DESC"

/-- Keywords as names of a table and of columns. Two chains with other values and another order of
their steps have the same text, and so the same statement. -/
theorem keywordChain_text_determines :
    compile keywordTable keywordChain
        = .ok (.sql ⟨keywordText, [.int 1, .string "x"], [none, none]⟩) ∧
      compile keywordTable keywordChainReordered
        = .ok (.sql ⟨keywordText, [.null, .bool true], [none, none]⟩) ∧
      chainStatement "FROM" keywordChain = chainStatement "FROM" keywordChainReordered := by
  have h : compile keywordTable keywordChain
      = .ok (.sql ⟨keywordText, [.int 1, .string "x"], [none, none]⟩) := rfl
  have h' : compile keywordTable keywordChainReordered
      = .ok (.sql ⟨keywordText, [.null, .bool true], [none, none]⟩) := rfl
  exact ⟨h, h', compile_text_determines h h' rfl⟩

end StoreBridge
