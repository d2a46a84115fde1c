import Mathlib.Data.List.Induction
import Mathlib.Data.List.Nodup
import Mathlib.Data.List.TakeWhile
import StoreBridge.Schema
import StoreBridge.Proofs.Query.Chain
import StoreBridge.Proofs.Text.Opening

/-!
# Declared schemas

A declaration makes a schema exactly if it is well formed (`Schema.WellFormed`): the name has a
character that is not blank, no field is without a name and no two fields share one. Any other
declaration is refused for its first offence (`Schema.FirstOffence`). A declaration is always one or
the other (`Schema.wellFormed_or_firstOffence`), so `Schema.declare` is known from what it does with
each.

The names of the fields are read one after another and held, the last one in front. What carries the
reading is that the names held so far are well named (`WellNamed`): one more name leaves them so or
offends (`WellNamed.cons_or_offends`), and either way the next step is determined. Names that are
well named are read to their end (`Schema.firstFieldFault_append`).

Looking a field up takes the first one of a name. That it finds whatever was declared is due to
names not coming twice (`Schema.WellFormed.field?_eq_some_iff`). The types of the values of a SQL
request are looked up like this, so each is the one that was declared for its column
(`Schema.paramType_eq_some_iff_of_declare`).
-/

namespace StoreBridge

/-- Names as the fields of a schema have them: none is empty and none comes twice. -/
structure WellNamed (names : List String) : Prop where
  empty_not_mem : "" ∉ names
  nodup : names.Nodup

/-- What is wrong with a name that stands behind others: it is empty, or it is one of them. -/
inductive Offends (before : List String) : String → SchemaFault → Prop where
  | empty : Offends before "" .emptyField
  | repeated {name : String} (hne : name ≠ "") (hmem : name ∈ before) :
    Offends before name (.duplicateField name)

namespace Schema

/-- **A well-formed schema.** -/
structure WellFormed (s : Schema) : Prop where
  named : ∃ c ∈ s.name.toList, isBlank c = false
  fields : WellNamed (s.fields.map Prod.fst)

/-- **The first offence of a declaration.** A blank name comes before all fields. A field is the
first one to offend if the fields before it are well named, that is, none of them is empty or
repeats one before it. -/
inductive FirstOffence (name : String) (fields : List (String × Field)) : SchemaFault → Prop where
  | blankName (h : ∀ c ∈ name.toList, isBlank c = true) : FirstOffence name fields .blankName
  | field {before after : List (String × Field)} {key : String} {field : Field}
      {fault : SchemaFault}
    (hname : ∃ c ∈ name.toList, isBlank c = false)
    (hfields : fields = before ++ (key, field) :: after)
    (hbefore : WellNamed (before.map Prod.fst))
    (hfault : Offends (before.map Prod.fst) key fault) : FirstOffence name fields fault

end Schema

/-! ### Names of fields -/

section Names

variable {names more : List String} {name : String} {fault : SchemaFault}

theorem wellNamed_nil : WellNamed [] :=
  ⟨List.not_mem_nil, List.nodup_nil⟩

/-- A list of names is well-formed if its first name is not empty and is new to the others, which
are. -/
theorem wellNamed_cons_iff :
    WellNamed (name :: names) ↔ name ≠ "" ∧ name ∉ names ∧ WellNamed names := by
  constructor
  · rintro ⟨hempty, hnodup⟩
    obtain ⟨hmem, hrest⟩ := List.nodup_cons.mp hnodup
    exact ⟨(List.ne_of_not_mem_cons hempty).symm, hmem, List.not_mem_of_not_mem_cons hempty, hrest⟩
  · rintro ⟨hne, hmem, hnames⟩
    exact ⟨List.not_mem_cons_of_ne_of_not_mem hne.symm hnames.empty_not_mem,
      List.nodup_cons.mpr ⟨hmem, hnames.nodup⟩⟩

/-- The names of fields are well-formed if none is empty and no two are the same. -/
theorem wellNamed_map_iff {fields : List (String × Field)} :
    WellNamed (fields.map Prod.fst) ↔
      (∀ entry ∈ fields, entry.1 ≠ "") ∧ (fields.map Prod.fst).Nodup := by
  constructor
  · rintro ⟨hempty, hnodup⟩
    exact ⟨fun entry hentry heq => hempty (List.mem_map.mpr ⟨entry, hentry, heq⟩), hnodup⟩
  · rintro ⟨hnames, hnodup⟩
    refine ⟨fun hempty => ?_, hnodup⟩
    obtain ⟨entry, hentry, heq⟩ := List.mem_map.mp hempty
    exact hnames entry hentry heq

/-- The order of the names does not matter. -/
theorem WellNamed.of_perm (h : WellNamed names) (hperm : names.Perm more) : WellNamed more :=
  ⟨fun hmem => h.empty_not_mem (hperm.mem_iff.mpr hmem), hperm.nodup_iff.mp h.nodup⟩

/-- Fewer names are still well-formed. -/
theorem WellNamed.of_sublist (h : WellNamed more) (hsub : names.Sublist more) : WellNamed names :=
  ⟨fun hmem => h.empty_not_mem (hsub.subset hmem), h.nodup.sublist hsub⟩

/-- A field offends against names, in whatever order they were declared. -/
theorem Offends.of_perm (h : Offends names name fault) (hperm : names.Perm more) :
    Offends more name fault := by
  cases h with
  | empty => exact .empty
  | repeated hne hmem => exact .repeated hne (hperm.mem_iff.mp hmem)

/-- **One more name** leaves names well named or offends. -/
theorem WellNamed.cons_or_offends (h : WellNamed names) (name : String) :
    WellNamed (name :: names) ∨ ∃ fault, Offends names name fault := by
  by_cases hne : name = ""
  · subst hne
    exact .inr ⟨_, .empty⟩
  · by_cases hmem : name ∈ names
    · exact .inr ⟨_, .repeated hne hmem⟩
    · exact .inl (wellNamed_cons_iff.mpr ⟨hne, hmem, h⟩)

/-- Fields are well named, or one of them is the first to offend. -/
theorem wellNamed_or_offends (fields : List (String × Field)) :
    WellNamed (fields.map Prod.fst) ∨
      ∃ before key field after fault, fields = before ++ (key, field) :: after ∧
        WellNamed (before.map Prod.fst) ∧ Offends (before.map Prod.fst) key fault := by
  -- From the end: whether the last field offends is a question only if none before it does.
  induction fields using List.reverseRecOn with
  | nil => exact .inl wellNamed_nil
  | append_singleton fields entry ih =>
    obtain ⟨key, field⟩ := entry
    rcases ih with hnamed | ⟨before, first, declared, after, fault, rfl, hbefore, hfault⟩
    · rcases hnamed.cons_or_offends key with hall | ⟨fault, hfault⟩
      · have hperm :
            (key :: fields.map Prod.fst).Perm ((fields ++ [(key, field)]).map Prod.fst) := by
          rw [List.map_append]
          exact (List.perm_append_singleton key _).symm
        exact .inl (hall.of_perm hperm)
      · exact .inr ⟨fields, key, field, [], fault, rfl, hnamed, hfault⟩
    · -- An offence stays the first one, whatever is declared behind it.
      refine .inr ⟨before, first, declared, after ++ [(key, field)], fault, ?_, hbefore, hfault⟩
      rw [List.append_assoc, List.cons_append]

end Names

/-! ### Blank names -/

section Blank

variable {cs : List Char}

/-- Trimming leaves nothing of a text of blanks, and of no other text. -/
theorem isEmpty_trim_iff : (trim cs).isEmpty = true ↔ ∀ c ∈ cs, isBlank c = true := by
  rw [List.isEmpty_iff, ← List.dropWhile_eq_nil_iff]
  constructor
  · intro h
    obtain ⟨dropped, hcs, hdropped⟩ := exists_dropEndWhile_append isBlank (trimStart cs)
    have hnil : dropEndWhile isBlank (trimStart cs) = [] := h
    rw [hnil, List.nil_append] at hcs
    -- What is left in front begins with a character that is not blank, and all of it is blank.
    refine Classical.byContradiction fun hne => ?_
    have hblank : isBlank ((cs.dropWhile isBlank).head hne) = true :=
      hdropped _ (hcs ▸ List.head_mem hne)
    rw [List.head_dropWhile_not isBlank hne] at hblank
    exact absurd hblank (by decide)
  · intro h
    rw [trim, trimStart, h]
    rfl

/-- Something is left after trimming exactly if there is a character that is not blank. -/
theorem not_isEmpty_trim_iff : ¬ (trim cs).isEmpty = true ↔ ∃ c ∈ cs, isBlank c = false := by
  rw [isEmpty_trim_iff]
  simp

end Blank

namespace Schema

/-! ### Reading the fields -/

section Reading

variable {seen : List String} {key : String} {field : Field} {fault : SchemaFault}
  {before fields : List (String × Field)}

/-- The scan stops at a field that offends against the names in front of it. -/
theorem firstFieldFault_of_offends (h : Offends seen key fault) (rest : List (String × Field)) :
    firstFieldFault seen ((key, field) :: rest) = some fault := by
  cases h with
  | empty => rw [firstFieldFault, if_pos rfl]
  | repeated hne hmem => rw [firstFieldFault, if_neg hne, if_pos hmem]

/-- The scan passes a field whose name is not empty and new. -/
theorem firstFieldFault_of_wellNamed (h : WellNamed (key :: seen)) (rest : List (String × Field)) :
    firstFieldFault seen ((key, field) :: rest) = firstFieldFault (key :: seen) rest := by
  obtain ⟨hne, hmem, -⟩ := wellNamed_cons_iff.mp h
  rw [firstFieldFault, if_neg hne, if_neg hmem]

/-- **Well-named fields are read to their end.** What stands behind them is read with their names
held. -/
theorem firstFieldFault_append (h : WellNamed (before.map Prod.fst ++ seen))
    (rest : List (String × Field)) :
    firstFieldFault seen (before ++ rest) =
      firstFieldFault ((before.map Prod.fst).reverse ++ seen) rest := by
  induction before generalizing seen with
  | nil => rfl
  | cons entry before ih =>
    obtain ⟨key, field⟩ := entry
    -- The name moves from the fields to come to the names that are held.
    have hheld : WellNamed (before.map Prod.fst ++ key :: seen) := h.of_perm List.perm_middle.symm
    have hkey : WellNamed (key :: seen) := hheld.of_sublist (List.sublist_append_right _ _)
    rw [List.cons_append, firstFieldFault_of_wellNamed hkey, ih hheld, List.map_cons,
      List.reverse_cons, List.append_assoc, List.singleton_append]

/-- Fields with well-formed names are passed to the end. -/
theorem firstFieldFault_eq_none (h : WellNamed (fields.map Prod.fst)) :
    firstFieldFault [] fields = none := by
  have hall : WellNamed (fields.map Prod.fst ++ []) := by
    rwa [List.append_nil]
  have hread := firstFieldFault_append hall []
  rw [List.append_nil] at hread
  exact hread

/-- **The first offence** is what the scan reports, whatever stands behind it. -/
theorem firstFieldFault_eq_some (hbefore : WellNamed (before.map Prod.fst))
    (hfault : Offends (before.map Prod.fst) key fault) (after : List (String × Field)) :
    firstFieldFault [] (before ++ (key, field) :: after) = some fault := by
  rw [firstFieldFault_append (by rwa [List.append_nil]), List.append_nil]
  -- The names are held in the opposite order, which is all the same to a search.
  exact firstFieldFault_of_offends (hfault.of_perm (List.reverse_perm _).symm) after

end Reading

/-! ### Declarations -/

section Declaring

variable {s : Schema} {kind : SchemaKind} {name : String} {fields : List (String × Field)}
  {fault : SchemaFault} {error : DbError}

/-- **Every declaration** is well-formed or has a first offence, that of its name or that of a
field. -/
theorem wellFormed_or_firstOffence (kind : SchemaKind) (name : String)
    (fields : List (String × Field)) :
    WellFormed ⟨name, kind, fields⟩ ∨ ∃ fault, FirstOffence name fields fault := by
  -- The name is looked at first, and the fields only if it is one.
  by_cases hblank : (trim name.toList).isEmpty = true
  · exact .inr ⟨.blankName, .blankName (isEmpty_trim_iff.mp hblank)⟩
  · have hname := not_isEmpty_trim_iff.mp hblank
    rcases wellNamed_or_offends fields with hfields |
      ⟨before, key, field, after, fault, hsplit, hbefore, hfault⟩
    · exact .inl ⟨hname, hfields⟩
    · exact .inr ⟨fault, .field hname hsplit hbefore hfault⟩

/-- A well-formed schema is accepted as it is. -/
theorem WellFormed.declare (h : s.WellFormed) : Schema.declare s.kind s.name s.fields = .ok s := by
  rw [Schema.declare, firstFault, if_neg (not_isEmpty_trim_iff.mpr h.named),
    firstFieldFault_eq_none h.fields]

/-- A declaration with a first offence is refused for it. -/
theorem FirstOffence.declare (h : FirstOffence name fields fault) (kind : SchemaKind) :
    Schema.declare kind name fields = .error (.schema fault.message name) := by
  cases h with
  | blankName hblank => rw [Schema.declare, firstFault, if_pos (isEmpty_trim_iff.mpr hblank)]
  | field hname hfields hbefore hfault =>
    rw [Schema.declare, firstFault, if_neg (not_isEmpty_trim_iff.mpr hname), hfields,
      firstFieldFault_eq_some hbefore hfault]

/-- **Accepted declarations.** The schema is what was declared. -/
theorem declare_eq_ok_iff :
    declare kind name fields = .ok s ↔ s = ⟨name, kind, fields⟩ ∧ s.WellFormed := by
  constructor
  · intro h
    -- There is no offence, since an offence would have been an error.
    rcases wellFormed_or_firstOffence kind name fields with hwf | ⟨fault, hfault⟩
    · obtain rfl := Except.ok.inj (hwf.declare.symm.trans h)
      exact ⟨rfl, hwf⟩
    · rw [hfault.declare] at h
      exact absurd h nofun
  · rintro ⟨rfl, hwf⟩
    exact hwf.declare

/-- **Refused declarations.** The failure is about the first offence. -/
theorem declare_eq_error_iff :
    declare kind name fields = .error error ↔
      ∃ fault, FirstOffence name fields fault ∧ error = .schema fault.message name := by
  constructor
  · intro h
    -- The other way about, a well-formed declaration would have been accepted.
    rcases wellFormed_or_firstOffence kind name fields with hwf | ⟨fault, hfault⟩
    · rw [hwf.declare] at h
      exact absurd h nofun
    · exact ⟨fault, hfault, Except.error.inj (h.symm.trans (hfault.declare kind))⟩
  · rintro ⟨fault, hfault, rfl⟩
    exact hfault.declare kind

end Declaring

/-! ### Lookups -/

section Lookup

variable {s : Schema} {key : String} {field : Field}

theorem field?_eq_find? (s : Schema) (key : String) :
    s.field? key = (s.fields.find? fun entry => entry.1 == key).map Prod.snd := rfl

/-- **A field is found by its name.** It is the only one of that name, so it is the first one. -/
theorem WellFormed.field?_eq_some_iff (h : s.WellFormed) :
    s.field? key = some field ↔ (key, field) ∈ s.fields := by
  rw [field?_eq_find?, Option.map_eq_some_iff]
  constructor
  · rintro ⟨entry, hfind, rfl⟩
    have hkey : entry.1 = key := by simpa using List.find?_some hfind
    exact hkey ▸ List.mem_of_find?_eq_some hfind
  · intro hmem
    cases hfind : s.fields.find? fun entry => entry.1 == key with
    | none => exact absurd (List.find?_eq_none.mp hfind _ hmem) (by simp)
    | some entry =>
      have hkey : entry.1 = key := by simpa using List.find?_some hfind
      -- Two fields of one name are the same field.
      have hentry : entry = (key, field) :=
        List.inj_on_of_nodup_map h.fields.nodup (List.mem_of_find?_eq_some hfind) hmem hkey
      exact ⟨entry, rfl, congrArg Prod.snd hentry⟩

/-- A column has a type exactly if it was declared with this type. -/
theorem WellFormed.fieldType?_eq_some_iff (h : s.WellFormed) {type : FieldType} :
    s.fieldType? key = some type ↔ ∃ field, (key, field) ∈ s.fields ∧ field.type = type := by
  rw [fieldType?, Option.map_eq_some_iff]
  simp only [h.field?_eq_some_iff]

/-- **The identity field** is the first one that is marked. -/
theorem primaryKey?_eq_some_iff :
    s.primaryKey? = some key ↔
      ∃ before field after, s.fields = before ++ (key, field) :: after ∧ field.primary = true ∧
        ∀ entry ∈ before, entry.2.primary = false := by
  simp only [primaryKey?, Option.map_eq_some_iff, List.find?_eq_some_iff_append, Bool.not_eq_true']
  constructor
  · rintro ⟨⟨found, field⟩, ⟨hprimary, before, after, hsplit, hbefore⟩, rfl⟩
    exact ⟨before, field, after, hsplit, hprimary, hbefore⟩
  · rintro ⟨before, field, after, hsplit, hprimary, hbefore⟩
    exact ⟨(key, field), ⟨hprimary, before, after, hsplit, hbefore⟩, rfl⟩

/-- There is no identity field exactly if no field is marked as one. -/
theorem primaryKey?_eq_none_iff :
    s.primaryKey? = none ↔ ∀ entry ∈ s.fields, entry.2.primary = false := by
  rw [primaryKey?, Option.map_eq_none_iff, List.find?_eq_none]
  simp only [Bool.not_eq_true]

end Lookup

/-- **Well-formed declarations.** A declaration of any kind makes a schema exactly if its name has a
character that is not blank, no field is without a name and no two fields share one; else it fails
for its first offence. The schema has the declared fields in their order; a field is found by its
name exactly if it was declared, and the identity field is the first one marked as such, if there is
one. -/
theorem well_formed_declarations (kind : SchemaKind) (name : String)
    (fields : List (String × Field)) :
    ((∃ s, declare kind name fields = .ok s) ↔
      (∃ c ∈ name.toList, isBlank c = false) ∧ (∀ entry ∈ fields, entry.1 ≠ "") ∧
        (fields.map Prod.fst).Nodup) ∧
    (∀ error, declare kind name fields = .error error ↔
      ∃ fault, FirstOffence name fields fault ∧ error = .schema fault.message name) ∧
    ∀ s, declare kind name fields = .ok s →
      s.name = name ∧ s.kind = kind ∧ s.fields = fields ∧
      (∀ key field, s.field? key = some field ↔ (key, field) ∈ fields) ∧
      (∀ key, s.primaryKey? = some key ↔
        ∃ before field after, fields = before ++ (key, field) :: after ∧ field.primary = true ∧
          ∀ entry ∈ before, entry.2.primary = false) ∧
      (s.primaryKey? = none ↔ ∀ entry ∈ fields, entry.2.primary = false) := by
  refine ⟨?_, fun error => declare_eq_error_iff, fun s hs => ?_⟩
  · constructor
    · rintro ⟨s, hs⟩
      -- What is said of the schema is said of what was declared, since it is the same.
      obtain ⟨rfl, hwf⟩ := declare_eq_ok_iff.mp hs
      exact ⟨hwf.named, wellNamed_map_iff.mp hwf.fields⟩
    · rintro ⟨hname, hnames⟩
      exact ⟨_, declare_eq_ok_iff.mpr ⟨rfl, hname, wellNamed_map_iff.mpr hnames⟩⟩
  · obtain ⟨rfl, hwf⟩ := declare_eq_ok_iff.mp hs
    exact ⟨rfl, rfl, rfl, fun key field => hwf.field?_eq_some_iff,
      fun key => primaryKey?_eq_some_iff, primaryKey?_eq_none_iff⟩

/-- The fields of a table of visits; two of them are marked as identity. -/
def visitFields : List (String × Field) :=
  [("day", ⟨.date, false, false, none⟩), ("id", ⟨.number, true, false, none⟩),
    ("seat", ⟨.string, true, true, some .null⟩)]

/-- The fields of a declaration that repeats a name and then leaves one out. -/
def faultyFields : List (String × Field) :=
  visitFields ++ [("day", ⟨.string, false, true, none⟩), ("", ⟨.object, false, true, none⟩)]

/-- The first marked field is the identity, and of two offences the one in front is reported. -/
theorem visits_declarations :
    (∃ s, declare .tabular "visits" visitFields = .ok s ∧ s.primaryKey? = some "id" ∧
      s.field? "seat" = some ⟨.string, true, true, some .null⟩ ∧ s.field? "room" = none) ∧
    declare .document "visits" faultyFields
      = .error (.schema "Duplicate field 'day'" "visits") := by
  obtain ⟨haccepted, -, hschema⟩ := well_formed_declarations .tabular "visits" visitFields
  obtain ⟨-, hrefused, -⟩ := well_formed_declarations .document "visits" faultyFields
  have hname : ∃ c ∈ "visits".toList, isBlank c = false := ⟨'v', by decide, by decide⟩
  constructor
  · -- The first declaration is accepted, and its fields are the declared ones.
    obtain ⟨s, hs⟩ := haccepted.mpr ⟨hname, by decide, by decide⟩
    obtain ⟨-, -, -, hfield, hprimary, -⟩ := hschema s hs
    have hid : s.primaryKey? = some "id" :=
      (hprimary "id").mpr ⟨visitFields.take 1, _, visitFields.drop 2, rfl, rfl, by decide⟩
    have hroom : s.field? "room" = none := by
      refine Option.eq_none_iff_forall_ne_some.mpr fun field hroom => ?_
      have hmem : "room" ∈ visitFields.map Prod.fst :=
        List.mem_map.mpr ⟨_, (hfield "room" field).mp hroom, rfl⟩
      exact absurd hmem (by decide)
    exact ⟨s, hs, hid, (hfield "seat" _).mpr (by decide), hroom⟩
  · -- In the second one a name is repeated in front of a name that is missing.
    refine (hrefused _).mpr ⟨.duplicateField "day", ?_, rfl⟩
    have hsplit : faultyFields = visitFields ++ ("day", ⟨.string, false, true, none⟩) ::
        [("", ⟨.object, false, true, none⟩)] := rfl
    exact .field hname hsplit (wellNamed_map_iff.mpr (by decide))
      (.repeated (by decide) (by decide))

/-! ### Types of values -/

/-- **The type of a value** in the request that a chain compiles to is the one that was declared for
the column of the value, if it was declared. -/
theorem paramType_eq_some_iff_of_declare {kind : SchemaKind} {name : String}
    {fields : List (String × Field)} {s : Schema} {ops : List Operation} {r : SqlRequest} {i : Nat}
    {column : String} {value : Json} {type : FieldType} (hs : declare kind name fields = .ok s)
    (hr : compile s ops = .ok (.sql r)) (hi : (chainBindings ops)[i]? = some (column, value)) :
    r.paramType i = some type ↔ ∃ field, (column, field) ∈ fields ∧ field.type = type := by
  obtain ⟨-, -, htypes, -⟩ := compile_eq_ok_sql hr
  obtain ⟨rfl, hwf⟩ := declare_eq_ok_iff.mp hs
  rw [SqlRequest.paramType, htypes, List.getElem?_map, hi]
  exact hwf.fieldType?_eq_some_iff

end Schema

end StoreBridge
