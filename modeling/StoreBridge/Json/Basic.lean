import StoreBridge.Number.Binary64

/-!
# JSON values

Data values are JSON. An object keeps its members in order, so two objects with the same members in
a different order are different values; numbers are exact integers or doubles. `Members.set` writes
a member: a key that is present keeps its position and takes the new value, a new key goes to the
end.
-/

namespace StoreBridge

/-- A JSON value. -/
inductive Json where
  | null
  | bool (b : Bool)
  | int (i : Int)
  | double (x : Binary64)
  | string (s : String)
  | array (items : List Json)
  | object (members : List (String × Json))
  deriving Repr, Inhabited

/-- The members of an object, in order. -/
abbrev Members := List (String × Json)

namespace Json

mutual

/-- Equality of values is decided by comparing them part by part. -/
def decEq : (a b : Json) → Decidable (a = b)
  | .null, .null => isTrue rfl
  | .bool a, .bool b => decidable_of_iff (a = b) (by simp)
  | .int a, .int b => decidable_of_iff (a = b) (by simp)
  | .double a, .double b => decidable_of_iff (a = b) (by simp)
  | .string a, .string b => decidable_of_iff (a = b) (by simp)
  | .array as, .array bs =>
    match decEqItems as bs with
    | isTrue h => isTrue (by rw [h])
    | isFalse h => isFalse (by simpa using h)
  | .object as, .object bs =>
    match decEqMembers as bs with
    | isTrue h => isTrue (by rw [h])
    | isFalse h => isFalse (by simpa using h)
  | .null, .bool _ | .null, .int _ | .null, .double _ | .null, .string _ | .null, .array _
  | .null, .object _ | .bool _, .null | .bool _, .int _ | .bool _, .double _ | .bool _, .string _
  | .bool _, .array _ | .bool _, .object _ | .int _, .null | .int _, .bool _ | .int _, .double _
  | .int _, .string _ | .int _, .array _ | .int _, .object _ | .double _, .null
  | .double _, .bool _ | .double _, .int _ | .double _, .string _ | .double _, .array _
  | .double _, .object _ | .string _, .null | .string _, .bool _ | .string _, .int _
  | .string _, .double _ | .string _, .array _ | .string _, .object _ | .array _, .null
  | .array _, .bool _ | .array _, .int _ | .array _, .double _ | .array _, .string _
  | .array _, .object _ | .object _, .null | .object _, .bool _ | .object _, .int _
  | .object _, .double _ | .object _, .string _ | .object _, .array _ => isFalse (by simp)

/-- Equality of two lists of values. -/
def decEqItems : (as bs : List Json) → Decidable (as = bs)
  | [], [] => isTrue rfl
  | [], _ :: _ => isFalse (by simp)
  | _ :: _, [] => isFalse (by simp)
  | a :: as, b :: bs =>
    match decEq a b, decEqItems as bs with
    | isTrue h, isTrue hs => isTrue (by rw [h, hs])
    | isFalse h, _ => isFalse (by simp [h])
    | _, isFalse hs => isFalse (by simp [hs])

/-- Equality of two lists of members. -/
def decEqMembers : (as bs : List (String × Json)) → Decidable (as = bs)
  | [], [] => isTrue rfl
  | [], _ :: _ => isFalse (by simp)
  | _ :: _, [] => isFalse (by simp)
  | (k, a) :: as, (l, b) :: bs =>
    match decEq a b, decEqMembers as bs with
    | isTrue h, isTrue hs =>
      if hk : k = l then isTrue (by rw [h, hs, hk]) else isFalse (by simp [hk])
    | isFalse h, _ => isFalse (by simp [h])
    | _, isFalse hs => isFalse (by simp [hs])

end

instance : DecidableEq Json := decEq

/-- What a value is, for messages: the article and the kind. -/
def kindName : Json → String
  | .null => "null"
  | .bool _ => "a boolean"
  | .int _ => "a number"
  | .double _ => "a number"
  | .string _ => "a string"
  | .array _ => "an array"
  | .object _ => "an object"

/-- Whether two values are of the same kind. -/
def sameKind : Json → Json → Bool
  | .null, .null => true
  | .bool _, .bool _ => true
  | .int _, .int _ => true
  | .int _, .double _ => true
  | .double _, .int _ => true
  | .double _, .double _ => true
  | .string _, .string _ => true
  | .array _, .array _ => true
  | .object _, .object _ => true
  | _, _ => false

end Json

namespace Members

/-- The keys, in order. -/
def keys (m : Members) : List String :=
  m.map Prod.fst

/-- The value of a key, if the key is present. -/
def get? : Members → String → Option Json
  | [], _ => none
  | (k, v) :: rest, key => if k = key then some v else get? rest key

/-- Whether the key is present. -/
def has (m : Members) (key : String) : Bool :=
  m.any fun (k, _) => k == key

/-- Writes a member: in place if the key is present, at the end otherwise. -/
def set : Members → String → Json → Members
  | [], key, value => [(key, value)]
  | (k, v) :: rest, key, value =>
    if k = key then (k, value) :: rest else (k, v) :: set rest key value

/-- Writes the members of `new` one after another. -/
def setAll (m new : Members) : Members :=
  new.foldl (fun acc (k, v) => acc.set k v) m

/-- The members written one after another into an empty object. -/
def ofPairs (pairs : List (String × Json)) : Members :=
  setAll [] pairs

/-- The members in which a key does not occur any more. -/
def without (m : Members) (key : String) : Members :=
  m.filter fun (k, _) => k != key

/-- A member that was written is found with its value. -/
theorem get?_set_self (m : Members) (key : String) (value : Json) :
    (m.set key value).get? key = some value := by
  induction m with
  | nil => simp [set, get?]
  | cons p m ih =>
    obtain ⟨k, v⟩ := p
    by_cases h : k = key
    · simp [set, get?, h]
    · simpa [set, get?, h] using ih

/-- Writing a member leaves the values of all other keys as they are. -/
theorem get?_set_of_ne {m : Members} {key other : String} (value : Json) (h : other ≠ key) :
    (m.set key value).get? other = m.get? other := by
  induction m with
  | nil => simp [set, get?, h.symm]
  | cons p m ih =>
    obtain ⟨k, v⟩ := p
    by_cases hk : k = key
    · have : k ≠ other := fun e => h (e ▸ hk)
      simp [set, get?, hk, h.symm]
    · simp only [set, hk, if_false, get?]
      rw [ih]

/-- Writing a key that is present leaves the keys and their order as they are. -/
theorem keys_set_of_mem {m : Members} {key : String} (value : Json) (h : key ∈ m.keys) :
    (m.set key value).keys = m.keys := by
  induction m with
  | nil => simp [keys] at h
  | cons p m ih =>
    obtain ⟨k, v⟩ := p
    by_cases hk : k = key
    · simp [set, keys, hk]
    · have hm : key ∈ keys m := by
        simp only [keys, List.map_cons, List.mem_cons] at h
        exact h.resolve_left fun e => hk e.symm
      simpa [set, keys, hk] using ih hm

/-- Writing a new key puts it behind the others. -/
theorem keys_set_of_not_mem {m : Members} {key : String} (value : Json) (h : key ∉ m.keys) :
    (m.set key value).keys = m.keys ++ [key] := by
  induction m with
  | nil => simp [set, keys]
  | cons p m ih =>
    obtain ⟨k, v⟩ := p
    simp only [keys, List.map_cons, List.mem_cons, not_or] at h
    have hk : k ≠ key := fun e => h.1 e.symm
    simpa [set, keys, hk] using ih h.2

end Members

end StoreBridge
