import StoreBridge.Proofs.Serial.Form

/-!
# Requests and outputs read back

Reading what was written gives it back: every request (`Request.form_toJson`) and every output
(`Output.form_toJson`), with every field set or not and in the order of its keys.

A record inside a tagged request is read from a value that was taken apart before, so its round trip
is stated for both ways of reading (`nested`). A request writes its kind in front of its own
members, and none of these is called `kind`, so what is left of the object without the kind is what
the record wrote. An output carries no tag: rows are a list and an acknowledgement is an object, so
one is never read as the other (`Output.form_ack_ne_rows`).

The numbers of a request or an output are unsigned ones of 64 bits (`Request.IsSized`,
`Output.IsSized`); a list of values may be of any size, and the values in it are any JSON values.
-/

namespace StoreBridge

/-! ### Tags -/

theorem FieldType.form_tag (nested : Bool) (t : FieldType) :
    FieldType.form nested (.string t.tag) = .ok t := by
  cases t <;> rfl

theorem Direction.form_tag (nested : Bool) (d : Direction) :
    Direction.form nested (.string d.tag) = .ok d := by
  cases d <;> rfl

theorem Request.kindForm_tag (kind : Request.Kind) :
    Request.kindForm (.string kind.tag) = .ok kind := by
  cases kind <;> rfl

/-! ### Requests -/

namespace SqlRequest

open RecordForm

/-- A type is read back, and so is the want of one. -/
theorem form_typeJson (nested : Bool) (type : Option FieldType) :
    Form.option (FieldType.form nested) (typeJson type) = .ok type := by
  cases type with
  | none => rfl
  | some t => exact Form.option_of_ne nofun (FieldType.form_tag nested t)

/-- **A SQL request reads back.** -/
theorem form_toJson (nested : Bool) (r : SqlRequest) : form nested r.toJson = .ok r := by
  obtain ⟨text, params, types⟩ := r
  let f := recordForm nested
  have htext : f.HasField "text" := rfl
  have hparams : f.HasField "params" := rfl
  have htypes : f.HasField "param_types" := rfl
  have hread : Form.list (Form.option (FieldType.form nested)) (.array (types.map typeJson))
      = .ok types :=
    Form.list_map fun type _ => form_typeJson nested type
  -- The drafts are empty in the place of the field that is read next.
  obtain ⟨found, hfound, hdefault⟩ :=
    readFrom_listMember htypes (fun types => ⟨some text, some params, types⟩) (fun _ => rfl) hread
  have hmembers : f.readFrom f.start (toMembers ⟨text, params, types⟩)
      = .ok ⟨some text, some params, found⟩ := by
    calc f.readFrom ⟨none, none, none⟩ (("text", .string text) :: ("params", .array params) ::
          listMember "param_types" (types.map typeJson))
        = f.readFrom ⟨some text, none, none⟩ (("params", .array params) ::
            listMember "param_types" (types.map typeJson)) :=
          readFrom_member htext (fun text => ⟨text, none, none⟩) (fun _ => rfl)
            (show Form.string (.string text) = .ok text from rfl) _
      _ = f.readFrom ⟨some text, some params, none⟩
            (listMember "param_types" (types.map typeJson)) :=
          readFrom_member hparams (fun params => ⟨some text, params, none⟩) (fun _ => rfl)
            (Form.list_any params) _
      _ = .ok ⟨some text, some params, found⟩ := hfound
  -- A list of types that was left out comes back as the empty one.
  calc form nested (toJson ⟨text, params, types⟩)
      = f.finish ⟨some text, some params, found⟩ := read_object hmembers
    _ = .ok ⟨text, params, found.getD []⟩ := rfl
    _ = .ok ⟨text, params, types⟩ := by rw [hdefault]

end SqlRequest

namespace DocumentUpdate

open RecordForm

/-- **An update reads back.** -/
theorem form_toJson (nested : Bool) (u : DocumentUpdate) : form nested u.toJson = .ok u := by
  obtain ⟨filter, changes⟩ := u
  have hfilter : recordForm.HasField "filter" := rfl
  have hchanges : recordForm.HasField "update" := rfl
  have hmembers : ∀ ms : Members, Form.members (.object ms) = .ok ms := fun _ => rfl
  -- Both fields are always written.
  have hread : recordForm.readFrom recordForm.start
      [("filter", .object filter), ("update", .object changes)]
        = .ok ⟨some filter, some changes⟩ := by
    calc recordForm.readFrom ⟨none, none⟩ [("filter", .object filter), ("update", .object changes)]
        = recordForm.readFrom ⟨some filter, none⟩ [("update", .object changes)] :=
          readFrom_member hfilter (fun filter => ⟨filter, none⟩) (fun _ => rfl) (hmembers filter) _
      _ = recordForm.readFrom ⟨some filter, some changes⟩ [] :=
          readFrom_member hchanges (fun changes => ⟨some filter, changes⟩) (fun _ => rfl)
            (hmembers changes) _
      _ = .ok ⟨some filter, some changes⟩ := readFrom_nil _ _
  exact read_object hread

end DocumentUpdate

namespace DocumentOperation

open RecordForm

/-- A term of an order is read back. -/
theorem form_sortTerm (nested : Bool) (term : String × Direction) :
    Form.pair nested Form.string (Direction.form nested) (sortTerm term) = .ok term :=
  Form.pair_of_ok nested rfl (Direction.form_tag nested term.2)

/-- The limit is an unsigned number of 64 bits. -/
def IsSized (op : DocumentOperation) : Prop :=
  ∀ n, op.limit = some n → n < pow2 64

/-- **An operation reads back**, whichever of its fields are set. -/
theorem form_toJson (nested : Bool) {op : DocumentOperation} (h : op.IsSized) :
    form nested op.toJson = .ok op := by
  obtain ⟨find, insert, update, delete, aggregate, projection, sort, limit⟩ := op
  let f := recordForm nested
  have hmembers : ∀ ms : Members, Form.members (.object ms) = .ok ms := fun _ => rfl
  have hterms : Form.list (Form.pair nested Form.string (Direction.form nested))
      (.array (sort.map sortTerm)) = .ok sort :=
    Form.list_map fun term _ => form_sortTerm nested term
  -- Field by field, in the order in which they are written.
  have hfind : f.readFrom empty (optionalMember "find" (find.map .object))
      = .ok { empty with find } :=
    readFrom_optionalMember (show f.HasField "find" from rfl)
      (fun find => { empty with find }) (fun _ => rfl)
      fun ms _ => ⟨Json.noConfusion, hmembers ms⟩
  have hinsert : f.readFrom { empty with find }
      (optionalMember "insert" (insert.map fun rows => .array (rows.map .object)))
        = .ok { empty with find, insert } :=
    readFrom_optionalMember (show f.HasField "insert" from rfl)
      (fun insert => { empty with find, insert }) (fun _ => rfl)
      fun rows _ => ⟨Json.noConfusion, Form.list_members rows⟩
  have hupdate : f.readFrom { empty with find, insert }
      (optionalMember "update" (update.map DocumentUpdate.toJson))
        = .ok { empty with find, insert, update } :=
    readFrom_optionalMember (show f.HasField "update" from rfl)
      (fun update => { empty with find, insert, update }) (fun _ => rfl)
      fun u _ => ⟨Json.noConfusion, DocumentUpdate.form_toJson nested u⟩
  have hdelete : f.readFrom { empty with find, insert, update }
      (optionalMember "delete" (delete.map .object))
        = .ok { empty with find, insert, update, delete } :=
    readFrom_optionalMember (show f.HasField "delete" from rfl)
      (fun delete => { empty with find, insert, update, delete }) (fun _ => rfl)
      fun ms _ => ⟨Json.noConfusion, hmembers ms⟩
  have haggregate : f.readFrom { empty with find, insert, update, delete }
      (optionalMember "aggregate" (aggregate.map .array))
        = .ok { empty with find, insert, update, delete, aggregate } :=
    readFrom_optionalMember (show f.HasField "aggregate" from rfl)
      (fun aggregate => { empty with find, insert, update, delete, aggregate })
      (fun _ => rfl) fun stages _ => ⟨Json.noConfusion, Form.list_any stages⟩
  have hprojection : f.readFrom { empty with find, insert, update, delete, aggregate }
      (optionalMember "projection" (projection.map fun names => .array (names.map .string)))
        = .ok ⟨find, insert, update, delete, aggregate, projection, [], none⟩ :=
    readFrom_optionalMember (show f.HasField "projection" from rfl)
      (fun projection => ⟨find, insert, update, delete, aggregate, projection, [], none⟩)
      (fun _ => rfl) fun names _ => ⟨Json.noConfusion, Form.list_strings names⟩
  obtain ⟨found, hsort, hdefault⟩ := readFrom_listMember (show f.HasField "sort" from rfl)
    (fun sort? => ⟨find, insert, update, delete, aggregate, projection, sort?.getD [], none⟩)
    (fun _ => rfl) hterms
  rw [hdefault] at hsort
  have hlimit : f.readFrom ⟨find, insert, update, delete, aggregate, projection, sort, none⟩
      (optionalMember "limit" (limit.map fun n : Nat => .int n))
        = .ok ⟨find, insert, update, delete, aggregate, projection, sort, limit⟩ :=
    readFrom_optionalMember (show f.HasField "limit" from rfl)
      (fun limit => ⟨find, insert, update, delete, aggregate, projection, sort, limit⟩)
      (fun _ => rfl) fun n hn => ⟨Json.noConfusion, Form.nat_of_lt (h n hn) "u64"⟩
  -- The limit is a natural number where it is kept, and an integer where it is written.
  have hmap : (limit.map fun n : Nat => Json.int n)
      = Option.map (fun i : Int => Json.int i) (do return ((← limit : Nat) : Int)) := by
    cases limit with
    | none => rfl
    | some n => rfl
  have hread : f.readFrom f.start
      (toMembers ⟨find, insert, update, delete, aggregate, projection, sort, limit⟩)
        = .ok ⟨find, insert, update, delete, aggregate, projection, sort, limit⟩ := by
    rw [hmap] at hlimit
    simp only [toMembers, List.append_assoc]
    rw [show f.start = empty from rfl, readFrom_append hfind, readFrom_append hinsert,
      readFrom_append hupdate, readFrom_append hdelete, readFrom_append haggregate,
      readFrom_append hprojection]
    exact (readFrom_append hsort _).trans hlimit
  exact read_object hread

end DocumentOperation

namespace DocumentRequest

open RecordForm

/-- **A document request reads back.** -/
theorem form_toJson (nested : Bool) {r : DocumentRequest} (h : r.operation.IsSized) :
    form nested r.toJson = .ok r := by
  obtain ⟨collection, operation⟩ := r
  let f := recordForm nested
  have hcollection : f.HasField "collection" := rfl
  have hoperation : f.HasField "operation" := rfl
  -- The name first, and the operation behind it, which reads back by its own lemma.
  have hread : f.readFrom f.start (toMembers ⟨collection, operation⟩)
      = .ok ⟨some collection, some operation⟩ := by
    calc f.readFrom ⟨none, none⟩ (toMembers ⟨collection, operation⟩)
        = f.readFrom ⟨some collection, none⟩ [("operation", operation.toJson)] :=
          readFrom_member hcollection (fun collection => ⟨collection, none⟩) (fun _ => rfl)
            (show Form.string (.string collection) = .ok collection from rfl) _
      _ = f.readFrom ⟨some collection, some operation⟩ [] :=
          readFrom_member hoperation (fun operation => ⟨some collection, operation⟩) (fun _ => rfl)
            (DocumentOperation.form_toJson nested h) _
      _ = .ok ⟨some collection, some operation⟩ := readFrom_nil _ _
  exact read_object hread

end DocumentRequest

namespace Request

/-- The numbers of a request are unsigned ones of 64 bits. -/
def IsSized : Request → Prop
  | .sql _ => True
  | .document r => r.operation.IsSized

/-- The kind is written in front, and no other member has its key. -/
theorem form_kind_cons (kind : Kind) {ms : Members} (h : ∀ p ∈ ms, p.1 ≠ "kind") :
    form (.object (("kind", .string kind.tag) :: ms)) = formOfKind kind (.object ms) := by
  -- The kind is looked up, and taken out before the rest is read.
  have hget : Members.get? (("kind", .string kind.tag) :: ms) "kind" = some (.string kind.tag) := by
    rw [Members.get?, if_pos rfl]
  have hwithout : Members.without (("kind", .string kind.tag) :: ms) "kind" = ms := by
    calc Members.without (("kind", .string kind.tag) :: ms) "kind"
        = Members.without ms "kind" := rfl
      _ = ms := Members.without_of_forall_ne h
  change (do
    let value ← requireField "kind" (Members.get? (("kind", .string kind.tag) :: ms) "kind")
    let kind ← kindForm value
    formOfKind kind (.object (Members.without (("kind", .string kind.tag) :: ms) "kind"))) = _
  rw [hget]
  change (kindForm (.string kind.tag) >>= fun kind => formOfKind kind (.object _)) = _
  rw [kindForm_tag]
  change formOfKind kind (.object _) = _
  rw [hwithout]

/-- **Every request reads back.** -/
theorem form_toJson {r : Request} (h : r.IsSized) : form r.toJson = .ok r := by
  cases r with
  | sql r =>
    -- None of the members that a request writes is called like its kind.
    have hkeys : ∀ p ∈ r.toMembers, p.1 ≠ "kind" := by
      intro p hp
      rcases List.mem_append.mp hp with hp | hp
      · have hkey : p.1 ∈ ["text", "params"] := List.mem_map_of_mem hp
        intro heq
        rw [heq] at hkey
        exact absurd hkey (by decide)
      · rw [mem_listMember hp]
        decide
    have hread : SqlRequest.form true (.object r.toMembers) = .ok r := SqlRequest.form_toJson true r
    rw [toJson, form_kind_cons .sql hkeys]
    change (SqlRequest.form true (.object r.toMembers)).map sql = _
    rw [hread]
    rfl
  | document r =>
    have hkeys : ∀ p ∈ r.toMembers, p.1 ≠ "kind" := by
      intro p hp
      have hkey : p.1 ∈ ["collection", "operation"] := List.mem_map_of_mem hp
      intro heq
      rw [heq] at hkey
      exact absurd hkey (by decide)
    have hread : DocumentRequest.form true (.object r.toMembers) = .ok r :=
      DocumentRequest.form_toJson true h
    rw [toJson, form_kind_cons .document hkeys]
    change (DocumentRequest.form true (.object r.toMembers)).map document = _
    rw [hread]
    rfl

end Request

/-! ### Outputs -/

namespace WriteAck

open RecordForm

/-- **An acknowledgement reads back.** -/
theorem form_toJson (nested : Bool) {a : WriteAck} (h : a.rowsAffected < pow2 64) :
    form nested a.toJson = .ok a := by
  obtain ⟨rows, ids⟩ := a
  have hrows : recordForm.HasField "rows_affected" := rfl
  have hids : recordForm.HasField "inserted_ids" := rfl
  have hlist : Form.list Form.any (.array (ids.map id)) = .ok ids := by
    rw [List.map_id]
    exact Form.list_any ids
  obtain ⟨found, hfound, hdefault⟩ :=
    readFrom_listMember hids (fun ids => ⟨some rows, ids⟩) (fun _ => rfl) hlist
  rw [List.map_id] at hfound
  have hread : recordForm.readFrom recordForm.start
      (("rows_affected", .int rows) :: listMember "inserted_ids" ids) = .ok ⟨some rows, found⟩ := by
    calc recordForm.readFrom ⟨none, none⟩
          (("rows_affected", .int rows) :: listMember "inserted_ids" ids)
        = recordForm.readFrom ⟨some rows, none⟩ (listMember "inserted_ids" ids) :=
          readFrom_member hrows (fun rows => ⟨rows, none⟩) (fun _ => rfl) (Form.nat_of_lt h "u64") _
      _ = .ok ⟨some rows, found⟩ := hfound
  -- Ids that were left out come back as none.
  calc form nested (toJson ⟨rows, ids⟩)
      = recordForm.finish ⟨some rows, found⟩ := read_object hread
    _ = .ok ⟨rows, found.getD []⟩ := rfl
    _ = .ok ⟨rows, ids⟩ := by rw [hdefault]

end WriteAck

namespace Output

/-- The numbers of an output are unsigned ones of 64 bits. -/
def IsSized : Output → Prop
  | .rows _ => True
  | .ack a => a.rowsAffected < pow2 64

/-- Rows read back. -/
theorem form_rows (rs : List Row) : form (Output.rows rs).toJson = .ok (.rows rs) := by
  unfold form toJson
  rw [Form.list_members]

/-- What is no list is read as an acknowledgement or not at all. -/
theorem form_of_not_list {value : Json} {fault : FormFault}
    (h : Form.list Form.members value = .error fault) :
    form value
      = ((WriteAck.form true value).map .ack).mapError fun _ => .noVariant "QueryOutput" := by
  unfold form
  rw [h]
  cases WriteAck.form true value with
  | ok a => rfl
  | error e => rfl

/-- An acknowledgement is an object. -/
theorem form_ack (a : WriteAck) :
    form (Output.ack a).toJson =
      ((WriteAck.form true a.toJson).map .ack).mapError fun _ => .noVariant "QueryOutput" := by
  have hlist : Form.list Form.members a.toJson = .error (.wrongType a.toJson "a sequence") := rfl
  exact form_of_not_list hlist

/-- **Every output reads back.** -/
theorem form_toJson {o : Output} (h : o.IsSized) : form o.toJson = .ok o := by
  cases o with
  | rows rs => exact form_rows rs
  | ack a =>
    rw [form_ack, WriteAck.form_toJson true h]
    rfl

/-- What was written for an acknowledgement is never read as rows. -/
theorem form_ack_ne_rows (a : WriteAck) (rs : List Row) :
    form (Output.ack a).toJson ≠ .ok (.rows rs) := by
  rw [form_ack]
  generalize WriteAck.form true a.toJson = result
  cases result with
  | ok b => exact nofun
  | error e => exact nofun

end Output

/-- A search in which every field of the search is set, but to nothing, except for a sort and the
largest limit. -/
def emptySearch : DocumentOperation :=
  { DocumentOperation.empty with
    find := some []
    projection := some []
    sort := [("at", .desc)]
    limit := some 18446744073709551615 }

end StoreBridge
