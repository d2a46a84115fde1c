import StoreBridge.Proofs.Checked
import StoreBridge.Serial.Request

/-!
# Reading what was written

How a form reads a value that was written for it. A record is read member by member, so what was
written in parts is read in parts (`readFrom_append`). A member that is left out keeps what the
draft already had in its place: nothing for a field that is not set (`readFrom_optionalMember`), and
nothing for a list that is empty, which counts as the empty list when the draft is finished
(`readFrom_listMember`).
-/

namespace StoreBridge

namespace Form

variable {α β : Type} {read : Form α} {write : α → Json}

/-- A list is read back if its items are. -/
theorem list_map {xs : List α} (h : ∀ x ∈ xs, read (write x) = .ok x) :
    list read (.array (xs.map write)) = .ok xs := by
  change (xs.map write).mapM read = .ok xs
  induction xs with
  | nil => rfl
  | cons x xs ih =>
    obtain ⟨hx, hxs⟩ := List.forall_mem_cons.mp h
    rw [List.map_cons, List.mapM_cons, hx, ih hxs]
    rfl

/-- A list of any values is read as it is. -/
theorem list_any (items : List Json) : list any (.array items) = .ok items := by
  have h : list any (.array (items.map id)) = .ok items := list_map fun _ _ => rfl
  rwa [List.map_id] at h

theorem list_strings (names : List String) :
    list string (.array (names.map .string)) = .ok names :=
  list_map fun _ _ => rfl

theorem list_members (rows : List Members) :
    list members (.array (rows.map .object)) = .ok rows :=
  list_map fun _ _ => rfl

/-- What is not null is read as a value that is there. -/
theorem option_of_ne {a : α} {value : Json} (hvalue : value ≠ .null) (h : read value = .ok a) :
    option read value = .ok (some a) := by
  cases value with
  | null => exact absurd rfl hvalue
  | bool _ | int _ | double _ | string _ | array _ | object _ =>
    simp only [option, h]
    rfl

/-- A number is read as a natural number if it fits the bits. -/
theorem nat_of_lt {bits n : Nat} (h : n < pow2 bits) (type : String) :
    nat bits type (.int n) = .ok n := by
  have hrange : (0 : Int) ≤ n ∧ (n : Int) < pow2 bits := ⟨Int.natCast_nonneg n, Int.ofNat_lt.mpr h⟩
  rw [nat, if_pos hrange, Int.toNat_natCast]

/-- A pair is read part by part. -/
theorem pair_of_ok {first : Form α} {second : Form β} {v w : Json} {a : α} {b : β} (nested : Bool)
    (ha : first v = .ok a) (hb : second w = .ok b) :
    pair nested first second (.array [v, w]) = .ok (a, b) := by
  change (first v >>= fun a => second w >>= fun b => pure (a, b)) = .ok (a, b)
  rw [ha, hb]
  rfl

end Form

/-! ### Members that are left out -/

/-- A list is written under its own key, or not at all. -/
theorem mem_listMember {key : String} {items : List Json} {p : String × Json}
    (h : p ∈ listMember key items) : p.1 = key := by
  cases items with
  | nil => exact absurd h (by simp [listMember])
  | cons item items =>
    rw [List.mem_singleton.mp h]

theorem Members.without_of_forall_ne {m : Members} {key : String} (h : ∀ p ∈ m, p.1 ≠ key) :
    m.without key = m :=
  List.filter_eq_self.mpr fun p hp => bne_iff_ne.mpr (h p hp)

namespace RecordForm

variable {σ α β : Type} {f : RecordForm σ α} {key : String}

/-- The record has a field with this name. -/
def HasField (f : RecordForm σ α) (key : String) : Prop :=
  (f.fields.any fun (name, _) => name == key) = true

/-- Reads one member into a draft. -/
def readMember (f : RecordForm σ α) (draft : σ) (p : String × Json) : Except FormFault σ :=
  if f.fields.any fun (name, _) => name == p.1 then f.put draft p.1 p.2
  else if f.closed then .error (.unknownField p.1 (f.fields.map Prod.fst))
  else .ok draft

/-- Reads members into a draft. -/
def readFrom (f : RecordForm σ α) (draft : σ) (ms : Members) : Except FormFault σ :=
  ms.foldlM f.readMember draft

/-- A record is read from an object when its members are. -/
theorem read_object {draft : σ} {nested : Bool} {ms : Members}
    (h : f.readFrom f.start ms = .ok draft) : f.read nested (.object ms) = f.finish draft := by
  change (f.readFrom f.start ms >>= f.finish) = f.finish draft
  rw [h]
  rfl

theorem readFrom_nil (f : RecordForm σ α) (draft : σ) : f.readFrom draft [] = .ok draft :=
  rfl

/-- **Member by member.** -/
theorem readFrom_append {draft draft' : σ} {xs : Members} (h : f.readFrom draft xs = .ok draft')
    (ys : Members) : f.readFrom draft (xs ++ ys) = f.readFrom draft' ys := by
  unfold readFrom at h ⊢
  rw [List.foldlM_append, h]
  rfl

/-- A member with a known key is put into the draft, and reading goes on. -/
theorem readFrom_cons (hkey : f.HasField key) {draft draft' : σ} {value : Json}
    (h : f.put draft key value = .ok draft') (ms : Members) :
    f.readFrom draft ((key, value) :: ms) = f.readFrom draft' ms := by
  have hmember : f.readMember draft (key, value) = .ok draft' := (if_pos hkey).trans h
  unfold readFrom
  rw [List.foldlM_cons, hmember]
  rfl

/-- **A field that is there.** `put` is the draft with this field, which is empty before. -/
theorem readFrom_member (hkey : f.HasField key) {read : Form β} (put : Option β → σ)
    (hput : ∀ value, f.put (put none) key value = do return put (some (← read value)))
    {value : Json} {b : β} (hread : read value = .ok b) (ms : Members) :
    f.readFrom (put none) ((key, value) :: ms) = f.readFrom (put (some b)) ms := by
  refine readFrom_cons hkey ?_ ms
  rw [hput, hread]
  rfl

/-- **A field that may not be set.** `put` is the draft with this field, which is empty before. -/
theorem readFrom_optionalMember (hkey : f.HasField key) {read : Form β} {write : β → Json}
    (put : Option β → σ)
    (hput : ∀ value, f.put (put none) key value = do return put (← Form.option read value))
    {field : Option β}
    (hfield : ∀ b, field = some b → write b ≠ .null ∧ read (write b) = .ok b) :
    f.readFrom (put none) (optionalMember key (field.map write)) = .ok (put field) := by
  -- Nothing is written for a field that is not set, and then the draft stays empty there.
  cases field with
  | none => exact readFrom_nil f _
  | some b =>
    obtain ⟨hvalue, hread⟩ := hfield b rfl
    have hb : f.put (put none) key (write b) = .ok (put (some b)) := by
      rw [hput, Form.option_of_ne hvalue hread]
      rfl
    rw [Option.map_some, optionalMember, readFrom_cons hkey hb, readFrom_nil]

/-- **A list that may be empty.** `put` is the draft with this field, which is empty before. -/
theorem readFrom_listMember (hkey : f.HasField key) {read : Form (List β)} {write : β → Json}
    (put : Option (List β) → σ)
    (hput : ∀ value, f.put (put none) key value = do return put (some (← read value)))
    {items : List β} (hread : read (.array (items.map write)) = .ok items) :
    ∃ found : Option (List β),
      f.readFrom (put none) (listMember key (items.map write)) = .ok (put found) ∧
        found.getD [] = items := by
  -- An empty list is left out, and reading finds nothing, which counts as the empty list.
  cases items with
  | nil => exact ⟨none, readFrom_nil f _, rfl⟩
  | cons item items =>
    have hitems : f.put (put none) key (.array ((item :: items).map write))
        = .ok (put (some (item :: items))) := by
      rw [hput, hread]
      rfl
    refine ⟨some (item :: items), ?_, rfl⟩
    rw [show listMember key ((item :: items).map write)
      = [(key, .array ((item :: items).map write))] from rfl, readFrom_cons hkey hitems,
        readFrom_nil]

end RecordForm

end StoreBridge
