import StoreBridge.Mongo.Document
import StoreBridge.Proofs.Json.RoundTrip

/-!
# Rows that come back as they were stored

JSON becomes BSON on the way in and relaxed extended JSON on the way out. The two are no inverses:
an object with a special key is read as a value of another kind, an integer beyond 64 bits becomes a
double, and a double that is no number is written as an object. A row in which none of this occurs
at any depth is `Json.isOrdinary`, and it comes back as it was (`Document.toRow_ofMembers`).

Special keys begin with a dollar sign, all of them. That is why one condition on the keys of an
object is enough for the three places where they are looked for (`special?_eq_none`, `has_code`,
`laterSpecial?_eq_none`), and what is left is a document of its members (`ofMembers_eq_document`).
The rest is one lemma for each kind of value, put together by induction over values (`Json.induct`).
-/

namespace StoreBridge

namespace Json

mutual

/-- Whether a value is ordinary data: no key at any depth begins with a dollar sign, its integers
are of 64 bits with a sign, and its doubles are numbers, as all doubles in a JSON text are. -/
def isOrdinary : Json → Bool
  | .int i => isInt64 i
  | .double x => x.isFinite
  | .array items => itemsOrdinary items
  | .object members => membersOrdinary members
  | _ => true

/-- Whether all items are ordinary data. -/
def itemsOrdinary : List Json → Bool
  | [] => true
  | item :: rest => isOrdinary item && itemsOrdinary rest

/-- Whether no key begins with a dollar sign and all values are ordinary data. -/
def membersOrdinary : List (String × Json) → Bool
  | [] => true
  | (key, value) :: rest => !Document.isOperator key && isOrdinary value && membersOrdinary rest

end

/-- A list is ordinary if its items are. -/
theorem itemsOrdinary_iff {items : List Json} :
    itemsOrdinary items = true ↔ ∀ v ∈ items, v.isOrdinary = true := by
  induction items with
  | nil => simp [itemsOrdinary]
  | cons v rest ih => rw [itemsOrdinary, Bool.and_eq_true, ih, List.forall_mem_cons]

/-- An object is ordinary if no key of it is an operator and its values are ordinary. -/
theorem membersOrdinary_iff {members : Members} :
    membersOrdinary members = true ↔
      ∀ m ∈ members, Document.isOperator m.1 = false ∧ m.2.isOrdinary = true := by
  induction members with
  | nil => simp [membersOrdinary]
  | cons m rest ih =>
    rw [membersOrdinary, Bool.and_eq_true, Bool.and_eq_true, Bool.not_eq_true', ih,
      List.forall_mem_cons]

end Json

namespace ExtendedJson

/-! ### Objects without special keys -/

section Keys

variable {ms : Members} (h : ∀ m ∈ ms, Document.isOperator m.1 = false)
include h

/-- A key that begins with a dollar sign is not there. -/
theorem has_eq_false {key : String} (hkey : Document.isOperator key = true) :
    Members.has ms key = false := by
  refine List.any_eq_false.mpr fun m hm => ?_
  rw [beq_iff_eq]
  rintro rfl
  exact absurd hkey (by rw [h m hm]; decide)

/-- Without operators among its keys an object is no special value. -/
theorem special?_eq_none : special? ms = none := by
  -- Every branch asks for a key that begins with a dollar sign.
  simp (disch := decide) only [special?, has_eq_false h, Bool.false_eq_true, if_false]

theorem has_code : Members.has ms "$code" = false :=
  has_eq_false h (by decide)

theorem laterSpecial?_eq_none : laterSpecial? ms = none := by
  simp (disch := decide) only [laterSpecial?, has_eq_false h, Bool.false_eq_true, if_false]

/-- **An object without special keys** is a document of its members. -/
theorem ofMembers_eq_document (parts : List (String × Reading)) :
    ofMembers ms parts = (gather parts).map .document := by
  rw [ofMembers, special?_eq_none h, has_code h, laterSpecial?_eq_none h]
  rfl

end Keys

/-! ### Values -/

/-- A value is kept: it is read as a BSON value that is written as this value again. -/
def Kept (v : Json) : Prop :=
  ∃ b, (read v).value = .ok b ∧ b.relaxed = v

/-- An integer of 64 bits is written with its digits whichever width it was stored in. -/
theorem kept_int {i : Int} (h : isInt64 i = true) : Kept (.int i) := by
  refine ⟨ofInt i, rfl, ?_⟩
  unfold ofInt
  by_cases hsmall : -(pow2 31) ≤ i ∧ i < pow2 31
  · rw [if_pos hsmall]
    rfl
  · rw [if_neg hsmall, if_pos h]
    rfl

/-- A finite double is kept. -/
theorem kept_double {x : Binary64} (h : x.isFinite = true) : Kept (.double x) := by
  refine ⟨.double x, rfl, ?_⟩
  rw [Bson.relaxed, if_pos h]

/-- The items of an array are read one by one, so the array is kept if they are. -/
theorem readItems_of_kept {items : List Json} (h : ∀ v ∈ items, Kept v) :
    ∃ bs, readItems items = .ok bs ∧ Bson.relaxedItems bs = items := by
  induction items with
  | nil => exact ⟨[], rfl, rfl⟩
  | cons v rest ih =>
    obtain ⟨hv, hrest⟩ := List.forall_mem_cons.mp h
    obtain ⟨b, hread, hrelaxed⟩ := hv
    obtain ⟨bs, hreads, hrelaxeds⟩ := ih hrest
    refine ⟨b :: bs, ?_, ?_⟩
    · rw [readItems, hread, hreads]
      rfl
    · rw [Bson.relaxedItems, hrelaxed, hrelaxeds]

/-- The values of an object are read one by one under their keys, so the members are kept if the
values are. -/
theorem gather_of_kept {ms : Members} (h : ∀ m ∈ ms, Kept m.2) :
    ∃ d, gather (readMembers ms) = .ok d ∧ Bson.relaxedMembers d = ms := by
  induction ms with
  | nil => exact ⟨[], rfl, rfl⟩
  | cons m rest ih =>
    obtain ⟨key, v⟩ := m
    obtain ⟨hv, hrest⟩ := List.forall_mem_cons.mp h
    obtain ⟨b, hread, hrelaxed⟩ := hv
    obtain ⟨d, hgather, hrelaxeds⟩ := ih hrest
    refine ⟨(key, b) :: d, ?_, ?_⟩
    · rw [readMembers, gather, hread, hgather]
      rfl
    · rw [Bson.relaxedMembers, hrelaxed, hrelaxeds]

/-- A list is kept if its items are. -/
theorem kept_array {items : List Json} (h : ∀ v ∈ items, Kept v) : Kept (.array items) := by
  obtain ⟨bs, hreads, hrelaxed⟩ := readItems_of_kept h
  refine ⟨.array bs, ?_, ?_⟩
  · rw [read, hreads]
    rfl
  · rw [Bson.relaxed, hrelaxed]

/-- The members of an object without special keys are read as a document, which is written as the
same members again. -/
theorem read_object {ms : Members} (hkeys : ∀ m ∈ ms, Document.isOperator m.1 = false)
    (h : ∀ m ∈ ms, Kept m.2) :
    ∃ d, (read (.object ms)).value = .ok (.document d) ∧ Bson.relaxedMembers d = ms := by
  obtain ⟨d, hgather, hrelaxed⟩ := gather_of_kept h
  refine ⟨d, ?_, hrelaxed⟩
  rw [read]
  dsimp only
  rw [ofMembers_eq_document hkeys, hgather]
  rfl

/-- **Ordinary data is kept**: by recursion on the value, an object through its members and an array
through its items. -/
theorem kept_of_isOrdinary (v : Json) : v.isOrdinary = true → Kept v := by
  -- On the value: the parts of ordinary data are ordinary, and kept by the hypothesis.
  induction v using Json.induct with
  | null => exact fun _ => ⟨.null, rfl, rfl⟩
  | bool b => exact fun _ => ⟨.boolean b, rfl, rfl⟩
  | int i => exact kept_int
  | double x => exact kept_double
  | string s => exact fun _ => ⟨.string s, rfl, rfl⟩
  | array items ih =>
    intro h
    rw [Json.isOrdinary, Json.itemsOrdinary_iff] at h
    exact kept_array fun v hv => ih v hv (h v hv)
  | object ms ih =>
    intro h
    rw [Json.isOrdinary, Json.membersOrdinary_iff] at h
    -- The keys keep the object from being read as a special value, and the values are kept one by
    -- one.
    obtain ⟨d, hread, hrelaxed⟩ :=
      read_object (fun m hm => (h m hm).1) fun m hm => ih m hm (h m hm).2
    exact ⟨.document d, hread, by rw [Bson.relaxed, hrelaxed]⟩

end ExtendedJson

namespace Document

/-- **A row** of ordinary data becomes a document that becomes this row again. -/
theorem toRow_ofMembers {ms : Members} (h : (Json.object ms).isOrdinary = true) :
    ∃ d, ofMembers ms = .ok d ∧ toRow d = ms := by
  rw [Json.isOrdinary, Json.membersOrdinary_iff] at h
  obtain ⟨d, hread, hrelaxed⟩ := ExtendedJson.read_object (fun m hm => (h m hm).1)
    fun m hm => ExtendedJson.kept_of_isOrdinary m.2 (h m hm).2
  refine ⟨d, ?_, hrelaxed⟩
  rw [ofMembers, Bson.ofJson, hread]

/-- Rows are converted one by one, as an insert does, and no row keeps another from being
converted. -/
theorem toRow_mapM_ofMembers {rows : List Row}
    (h : ∀ ms ∈ rows, (Json.object ms).isOrdinary = true) :
    ∃ documents, rows.mapM ofMembers = .ok documents ∧ documents.map toRow = rows := by
  induction rows with
  | nil => exact ⟨[], rfl, rfl⟩
  | cons ms rest ih =>
    obtain ⟨hms, hrest⟩ := List.forall_mem_cons.mp h
    -- The first row is converted for itself, and the others by the hypothesis.
    obtain ⟨d, hread, hrow⟩ := toRow_ofMembers hms
    obtain ⟨documents, hreads, hrows⟩ := ih hrest
    refine ⟨d :: documents, ?_, ?_⟩
    · rw [List.mapM_cons, hread, hreads]
      rfl
    · rw [List.map_cons, hrow, hrows]

/-- **Ordinary rows come back as they were stored**, with their keys in order, their nesting, and
integers and doubles apart: each row alone becomes a document that becomes this row again, and so do
the rows of an insert together. -/
theorem ordinary_rows_kept :
    (∀ ms : Members, (Json.object ms).isOrdinary = true →
      ∃ d, ofMembers ms = .ok d ∧ toRow d = ms) ∧
    (∀ rows : List Row, (∀ ms ∈ rows, (Json.object ms).isOrdinary = true) →
      ∃ documents, rows.mapM ofMembers = .ok documents ∧ documents.map toRow = rows) :=
  ⟨fun _ => toRow_ofMembers, fun _ => toRow_mapM_ofMembers⟩

/-- A row with the integers at the ends of both widths, the double 2.0 beside the integer 2, an
empty array and an empty object, dollar signs that do not begin a key, and a special key as a
text. -/
def mixedRow : Row :=
  [("_id", .string "a"),
   ("widths", .array [.int (-2147483648), .int 2147483648, .int (-9223372036854775808),
     .int 9223372036854775807]),
   ("twos", .object [("whole", .int 2), ("double", .double ⟨0x4000000000000000⟩)]),
   ("us$", .array
     [.null, .bool true, .array [], .object [("", .string "$oid"), ("a.$", .object [])]])]

/-- The row is kept, and so is a list with it in front. -/
theorem mixedRow_kept :
    ((Json.object mixedRow).isOrdinary = true ∧ ∃ d, ofMembers mixedRow = .ok d ∧
      toRow d = mixedRow) ∧
    ((∀ ms ∈ [mixedRow, []], (Json.object ms).isOrdinary = true) ∧
      ∃ documents, [mixedRow, []].mapM ofMembers = .ok documents ∧
        documents.map toRow = [mixedRow, []]) :=
  have hmixed : (Json.object mixedRow).isOrdinary = true := by decide
  have hrows : ∀ ms ∈ [mixedRow, []], (Json.object ms).isOrdinary = true := by decide
  ⟨⟨hmixed, ordinary_rows_kept.1 mixedRow hmixed⟩, ⟨hrows, ordinary_rows_kept.2 _ hrows⟩⟩

end Document

end StoreBridge
