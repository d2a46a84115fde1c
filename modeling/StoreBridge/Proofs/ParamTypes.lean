import StoreBridge.Query.Statement
import StoreBridge.Sql.Cast

/-!
# The types of the values of a SQL request

A request holds its values and their types in two lists, and the two grow at different paces: a
value without a type leaves the list of types as it is, so that later types would slip to earlier
values, and the next value that comes with a type first cuts or fills that list up to the number of
values. What makes the two lists agree is therefore not that they are equally long. It is `Aligned`:
no type stands behind the last value, and every position answers with the type its own value was
given.

Cutting and filling matter for different requests. A request built from its text is never cut, since
its list of types is never the longer one (`Aligned.paramTypes_length_le`); one that was read from
data may hold any list of types, and `paramType_pushParam` covers that one as well: what a position
answers after a value is pushed depends on the list of types only up to the old number of values.

A compiled request is of the first sort: it is what its text becomes when its bindings are pushed
one after another (`Plan.request_eq_addAll`).
-/

namespace StoreBridge

/-- A call that adds a value to a request: without a type, with a type, or with the type its column
has if the schema declares it. -/
inductive ParamCall where
  | untyped (value : Json)
  | typed (value : Json) (type : FieldType)
  | pushed (value : Json) (type : Option FieldType)

namespace ParamCall

/-- The value a call adds. -/
def value : ParamCall → Json
  | untyped value | typed value _ | pushed value _ => value

/-- The type a call gives to its value. -/
def type? : ParamCall → Option FieldType
  | untyped _ => none
  | typed _ type => some type
  | pushed _ type => type

/-- The request after a call. -/
def on (r : SqlRequest) : ParamCall → SqlRequest
  | untyped value => r.withParam value
  | typed value type => r.withTypedParam value type
  | pushed value type => r.pushParam value type

end ParamCall

namespace SqlRequest

/-- The request after a sequence of calls. -/
def addAll (r : SqlRequest) (calls : List ParamCall) : SqlRequest :=
  calls.foldl ParamCall.on r

/-! ### Pushing one value -/

/-- Behind the end of the list of types there is no type. -/
theorem paramType_of_length_le {r : SqlRequest} {i : Nat} (h : r.paramTypes.length ≤ i) :
    r.paramType i = none := by
  rw [paramType, List.getElem?_eq_none h, Option.join_none]

/-- The list of types that a pushed type is added to: cut or filled up to the number of values. -/
def filledTypes (r : SqlRequest) : List (Option FieldType) :=
  let types := r.paramTypes.take r.params.length
  types ++ List.replicate (r.params.length - types.length) none

theorem pushParam_eq (r : SqlRequest) (value : Json) (type : Option FieldType) :
    r.pushParam value type =
      { r with params := r.params ++ [value], paramTypes := r.filledTypes ++ [type] } := rfl

/-- There is one type for each value, whatever the length of the list was. -/
theorem filledTypes_length (r : SqlRequest) : r.filledTypes.length = r.params.length := by
  simp only [filledTypes, List.length_append, List.length_replicate, List.length_take]
  omega

/-- A position with a value answers as it did: what was cut stands behind the values, and what was
filled in answers like a position behind the list. -/
theorem filledTypes_getElem? (r : SqlRequest) {i : Nat} (h : i < r.params.length) :
    r.filledTypes[i]?.join = r.paramType i := by
  -- The position is in the list of types, or it is behind the end of that list.
  by_cases hi : i < r.paramTypes.length
  · rw [filledTypes, List.getElem?_append_left (by simp only [List.length_take]; omega),
      List.getElem?_take_of_lt h, paramType]
  · have hnone : r.paramType i = none := paramType_of_length_le (by omega)
    rw [filledTypes, List.getElem?_append_right (by simp only [List.length_take]; omega),
      List.getElem?_replicate, hnone]
    split <;> rfl

/-- **Pushing a value** onto any request: the earlier values keep their types, the new value has the
type it came with, and nothing is left behind it. -/
theorem paramType_pushParam (r : SqlRequest) (value : Json) (type : Option FieldType) (i : Nat) :
    (r.pushParam value type).paramType i =
      if i < r.params.length then r.paramType i
      else if i = r.params.length then type else none := by
  have hlength := r.filledTypes_length
  rw [pushParam_eq, paramType]
  -- The new type stands where the new value stands, because the list before it is exactly that
  -- long.
  rcases Nat.lt_trichotomy i r.params.length with h | h | h
  · rw [if_pos h, List.getElem?_append_left (by omega), filledTypes_getElem? r h]
  · rw [if_neg (by omega), if_pos h, h, ← hlength, List.getElem?_concat_length]
    rfl
  · rw [if_neg (by omega), if_neg (by omega), List.getElem?_eq_none, Option.join_none]
    rw [List.length_append, hlength]
    exact h

/-- After a push both lists have the same length. -/
theorem paramTypes_length_pushParam (r : SqlRequest) (value : Json) (type : Option FieldType) :
    (r.pushParam value type).paramTypes.length = (r.pushParam value type).params.length := by
  rw [pushParam_eq, List.length_append, List.length_append, filledTypes_length]
  rfl

/-! ### Sequences of calls -/

/-- **What a request keeps** while it is built: its values are those of the calls so far, its list
of types ends before its list of values does, and every position answers with the type of its own
call. -/
structure Aligned (r : SqlRequest) (calls : List ParamCall) : Prop where
  params : r.params = calls.map ParamCall.value
  paramTypes_length_le : r.paramTypes.length ≤ r.params.length
  paramType : ∀ i, r.paramType i = calls[i]?.bind ParamCall.type?

/-- A request without values is aligned with no calls. -/
theorem aligned_ofText (text : String) : Aligned (ofText text) [] where
  params := rfl
  paramTypes_length_le := Nat.le_refl 0
  paramType _ := rfl

namespace Aligned

variable {r : SqlRequest} {calls : List ParamCall}

theorem params_length (h : Aligned r calls) : r.params.length = calls.length := by
  rw [h.params, List.length_map]

/-- A value with its type goes to the end of both lists, the second of which is filled up before. -/
theorem pushParam (h : Aligned r calls) {call : ParamCall}
    (hcall : call.on r = r.pushParam call.value call.type?) :
    Aligned (call.on r) (calls ++ [call]) where
  params := by rw [hcall, SqlRequest.pushParam, h.params, List.map_append]; rfl
  paramTypes_length_le := by
    rw [hcall]
    exact Nat.le_of_eq (paramTypes_length_pushParam r _ _)
  paramType i := by
    rw [hcall, paramType_pushParam, h.params_length]
    -- Before the new call, at it, and behind it.
    rcases Nat.lt_trichotomy i calls.length with hi | hi | hi
    · rw [if_pos hi, h.paramType, List.getElem?_append_left hi]
    · rw [if_neg (by omega), if_pos hi, hi, List.getElem?_concat_length]
      rfl
    · rw [if_neg (by omega), if_neg (by omega), List.getElem?_eq_none, Option.bind_none]
      rw [List.length_append, List.length_singleton]
      exact hi

/-- A value without a type lengthens only the list of values. Its position answers with no type
because the list of types ends before it: this is what the bound on that list is for. -/
theorem withParam (h : Aligned r calls) (value : Json) :
    Aligned (r.withParam value) (calls ++ [.untyped value]) where
  params := by rw [SqlRequest.withParam, h.params, List.map_append]; rfl
  paramTypes_length_le := by
    rw [SqlRequest.withParam, List.length_append]
    exact Nat.le_succ_of_le h.paramTypes_length_le
  paramType i := by
    -- The list of types is as it was, so only what is said of the new position has to be looked at.
    have hsame : (r.withParam value).paramType i = r.paramType i := rfl
    rw [hsame]
    by_cases hi : i < calls.length
    · rw [h.paramType, List.getElem?_append_left hi]
    · have hnone : r.paramType i = none := by
        have hlength := h.paramTypes_length_le
        rw [h.params_length] at hlength
        exact paramType_of_length_le (by omega)
      rw [hnone, List.getElem?_append_right (by omega), List.getElem?_singleton]
      split <;> rfl

/-- One call, of any of the three kinds. -/
theorem on (h : Aligned r calls) (call : ParamCall) : Aligned (call.on r) (calls ++ [call]) := by
  cases call with
  | untyped value => exact h.withParam value
  | typed value type => exact h.pushParam rfl
  | pushed value type => exact h.pushParam rfl

/-- A run of calls, one step at a time. -/
theorem addAll (h : Aligned r calls) (more : List ParamCall) :
    Aligned (r.addAll more) (calls ++ more) := by
  induction more generalizing r calls with
  | nil => rwa [List.append_nil]
  | cons call more ih =>
    have hrest := ih (h.on call)
    rwa [List.append_assoc] at hrest

end Aligned

theorem text_on (r : SqlRequest) (call : ParamCall) : (call.on r).text = r.text := by
  cases call <;> rfl

/-- No call changes the text. -/
theorem text_addAll (r : SqlRequest) (calls : List ParamCall) : (r.addAll calls).text = r.text := by
  induction calls generalizing r with
  | nil => rfl
  | cons call calls ih => exact (ih (call.on r)).trans (r.text_on call)

/-- **Types stay with their values.** Whatever values are added to a text, with their types or
without and in any order, the request holds them in the order of the calls, its list of types is
never the longer one, and a position answers with the type that came with its value, and with none
if there is no such value. A value pushed onto any request, however long its list of types is,
changes no other value and no type of another value, and has the type it was pushed with. -/
theorem paramTypes_attached :
    (∀ (text : String) (calls : List ParamCall),
      ((ofText text).addAll calls).text = text ∧
      ((ofText text).addAll calls).params = calls.map ParamCall.value ∧
      ((ofText text).addAll calls).paramTypes.length ≤ ((ofText text).addAll calls).params.length ∧
      ∀ i, ((ofText text).addAll calls).paramType i = calls[i]?.bind ParamCall.type?) ∧
    (∀ (r : SqlRequest) (value : Json) (type : Option FieldType),
      (r.pushParam value type).text = r.text ∧
      (r.pushParam value type).params = r.params ++ [value] ∧
      ∀ i, (r.pushParam value type).paramType i =
        if i < r.params.length then r.paramType i
        else if i = r.params.length then type else none) := by
  constructor
  · intro text calls
    have h := (aligned_ofText text).addAll calls
    rw [List.nil_append] at h
    exact ⟨text_addAll _ calls, h.params, h.paramTypes_length_le, h.paramType⟩
  · intro r value type
    exact ⟨rfl, rfl, r.paramType_pushParam value type⟩

/-- A request read from data may hold more types than values. Pushing cuts the list, so that the
type of no value is left for the new one; a value without a type would get it. -/
example :
    let r : SqlRequest := ⟨"SELECT ?", [], [some .date]⟩
    (r.pushParam (.string "a") none).paramType 0 = none ∧
      (r.withParam (.string "a")).paramType 0 = some .date := by
  decide

/-- **The cast of a placeholder** is that of its own value: the value must be a text, and the type
is the one of the call that added it. -/
theorem cast?_addAll (text : String) (calls : List ParamCall) (i : Nat) :
    ((ofText text).addAll calls).cast? i =
      calls[i]?.bind fun call =>
        match call.value with
        | .string _ => call.type?.bind FieldType.cast?
        | _ => none := by
  have h := (aligned_ofText text).addAll calls
  rw [List.nil_append] at h
  -- Value and type at the position both come from the same call, if there is one.
  rw [cast?, h.params, h.paramType, List.getElem?_map]
  cases calls[i]? with
  | none => rfl
  | some call => cases hvalue : call.value <;> simp [hvalue]

/-! ### Compiled requests -/

/-- Where both lists have the same length nothing is filled in. -/
theorem filledTypes_of_length_eq {r : SqlRequest} (h : r.paramTypes.length = r.params.length) :
    r.filledTypes = r.paramTypes := by
  rw [filledTypes, List.take_of_length_le (Nat.le_of_eq h), h, Nat.sub_self, List.replicate_zero,
    List.append_nil]

/-- Values that are pushed onto a request with one type for each value go behind both lists. -/
theorem addAll_pushed {r : SqlRequest} (h : r.paramTypes.length = r.params.length)
    (pairs : List (Json × Option FieldType)) :
    r.addAll (pairs.map fun (value, type) => .pushed value type) =
      { r with
        params := r.params ++ pairs.map Prod.fst
        paramTypes := r.paramTypes ++ pairs.map Prod.snd } := by
  induction pairs generalizing r with
  | nil => simp [addAll]
  | cons pair pairs ih =>
    -- The lists have the same length, so that nothing has to be filled in.
    have hpush : (r.pushParam pair.1 pair.2) =
        { r with params := r.params ++ [pair.1], paramTypes := r.paramTypes ++ [pair.2] } := by
      rw [pushParam_eq, filledTypes_of_length_eq h]
    have hnext := ih (r.paramTypes_length_pushParam pair.1 pair.2)
    rw [hpush] at hnext
    refine (congrArg (addAll · _) hpush).trans (hnext.trans ?_)
    simp only [List.append_assoc, List.singleton_append, List.map_cons]

end SqlRequest

/-- **The request of a plan** is the text of its statement with the bindings pushed one after
another, each with the type that the schema declares for its column. -/
theorem Plan.request_eq_addAll (s : Schema) (p : Plan) :
    p.request s = (SqlRequest.ofText (String.ofList p.statement.write)).addAll
      (p.bindings.map fun (column, value) => .pushed value (s.fieldType? column)) := by
  have hpushed := SqlRequest.addAll_pushed (r := .ofText (String.ofList p.statement.write)) rfl
    (p.bindings.map fun (column, value) => (value, s.fieldType? column))
  rw [List.map_map, List.map_map, List.map_map] at hpushed
  exact hpushed.symm

end StoreBridge
