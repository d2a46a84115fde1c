import StoreBridge.Json.Writer
import StoreBridge.Text.Quoted

/-!
# Reading records from JSON

A `Form α` reads a JSON value as an `α` or says why it cannot. A record is read from an object by
its keys, in the order in which they stand there, or from an array, whose items are the fields in
order of declaration. Keys that the record does not have are ignored unless it is closed; a missing
field is reported after the faults of those that are there.
-/

namespace StoreBridge

/-- Why a value does not have the expected form. -/
inductive FormFault where
  | wrongType (got : Json) (expected : String)
  | wrongValue (got : Json) (expected : String)
  | missingField (name : String)
  | unknownField (got : String) (fields : List String)
  | unknownVariant (got : String) (variants : List String)
  | wrongLength (got : Nat) (expected : String)
  | noVariant (type : String)
  deriving DecidableEq, Repr, Inhabited

namespace FormFault

/-- What a value is, for messages. -/
def describe : Json → String
  | .null => "null"
  | .bool true => "boolean \x60true\x60"
  | .bool false => "boolean \x60false\x60"
  | .int i => "integer \x60" ++ intText i ++ "\x60"
  | .double x => "floating point \x60" ++ String.ofList x.jsonDigits ++ "\x60"
  | .string s => "string " ++ quoted s
  | .array _ => "sequence"
  | .object _ => "map"

/-- A name between backquotes. -/
def backquoted (s : String) : String :=
  "\x60" ++ s ++ "\x60"

/-- The alternatives of a choice. -/
def alternatives : List String → String
  | [a] => backquoted a
  | [a, b] => backquoted a ++ " or " ++ backquoted b
  | many => "one of " ++ ", ".intercalate (many.map backquoted)

/-- The wording of a fault. -/
def message : FormFault → String
  | .wrongType got expected => "invalid type: " ++ describe got ++ ", expected " ++ expected
  | .wrongValue got expected => "invalid value: " ++ describe got ++ ", expected " ++ expected
  | .missingField name => "missing field " ++ backquoted name
  | .unknownField got fields =>
    "unknown field " ++ backquoted got ++ ", expected " ++ alternatives fields
  | .unknownVariant got variants =>
    "unknown variant " ++ backquoted got ++ ", expected " ++ alternatives variants
  | .wrongLength got expected => "invalid length " ++ natText got ++ ", expected " ++ expected
  | .noVariant type => "data did not match any variant of untagged enum " ++ type

end FormFault

/-- Reads a JSON value as an `α`. -/
abbrev Form (α : Type) := Json → Except FormFault α

namespace Form

/-- A text. -/
def string : Form String
  | .string s => .ok s
  | other => .error (.wrongType other "a string")

/-- A truth value. -/
def bool : Form Bool
  | .bool b => .ok b
  | other => .error (.wrongType other "a boolean")

/-- A natural number of so many bits. -/
def nat (bits : Nat) (type : String) : Form Nat
  | .int i => if 0 ≤ i ∧ i < pow2 bits then .ok i.toNat else .error (.wrongValue (.int i) type)
  | other => .error (.wrongType other type)

/-- Any value. -/
def any : Form Json := .ok

/-- An object, whatever its members are. -/
def members : Form Members
  | .object ms => .ok ms
  | other => .error (.wrongType other "a map")

/-- A list of values of one form. -/
def list (item : Form α) : Form (List α)
  | .array items => items.mapM item
  | other => .error (.wrongType other "a sequence")

/-- A value that may be null. -/
def option (value : Form α) : Form (Option α)
  | .null => .ok none
  | other => (value other).map some

/-- Items that are left over after the expected ones. A value that was taken apart before (`nested`)
says how many were expected. -/
def leftOver (nested : Bool) (got taken : Nat) : FormFault :=
  if nested then
    .wrongLength got (natText taken ++ (if taken = 1 then " element" else " elements") ++
      " in sequence")
  else .wrongLength got "fewer elements in array"

/-- A pair, written as an array of two. -/
def pair (nested : Bool) (first : Form α) (second : Form β) : Form (α × β)
  | .array items => do
    match items with
    | [] => .error (.wrongLength 0 "a tuple of size 2")
    | a :: rest =>
      let a ← first a
      match rest with
      | [] => .error (.wrongLength 1 "a tuple of size 2")
      | b :: rest =>
        let b ← second b
        if rest = [] then return (a, b) else .error (leftOver nested items.length 2)
  | other => .error (.wrongType other "a tuple of size 2")

/-- A variant by its name. -/
def variantNamed (all : List α) (tag : α → String) (name : String) : Except FormFault α :=
  match all.find? fun a => tag a == name with
  | some a => .ok a
  | none => .error (.unknownVariant name (all.map tag))

/-- One of a list of variants, given by its name, or as the only key of an object with nothing
behind it. -/
def variant (nested : Bool) (all : List α) (tag : α → String) : Form α
  | .string s => variantNamed all tag s
  | .object [(key, value)] => do
    let a ← variantNamed all tag key
    match value with
    | .null => return a
    | .object [] => if nested then return a else .error (.wrongType value "unit")
    | value => .error (.wrongType value "unit")
  | .object ms => .error (.wrongValue (.object ms) "map with a single key")
  | other => .error (.wrongType other "string or map")

end Form

/-- How a record is read: its fields are put one after another into an empty draft. Each field comes
with whether it may be missing at the end of an array; a `closed` record allows no other keys. -/
structure RecordForm (σ α : Type) where
  name : String
  closed : Bool := false
  fields : List (String × Bool)
  start : σ
  put : σ → String → Json → Except FormFault σ
  finish : σ → Except FormFault α

namespace RecordForm

variable {σ α : Type}

/-- What is expected where the record stands. -/
def expected (f : RecordForm σ α) : String :=
  "struct " ++ f.name

/-- What is expected of an array. -/
def expectedItems (f : RecordForm σ α) : String :=
  f.expected ++ " with " ++ natText f.fields.length ++
    (if f.fields.length = 1 then " element" else " elements")

/-- Reads the members of an object in order. -/
def readMembers (f : RecordForm σ α) (ms : Members) : Except FormFault σ :=
  ms.foldlM (fun draft (key, value) =>
    if f.fields.any fun (name, _) => name == key then f.put draft key value
    else if f.closed then .error (.unknownField key (f.fields.map Prod.fst))
    else .ok draft) f.start

/-- Reads the items of an array as the fields in order; returns what is left over. -/
def readItems (f : RecordForm σ α) :
    Nat → List (String × Bool) → σ → List Json → Except FormFault (σ × List Json)
  | _, [], draft, items => .ok (draft, items)
  | i, (_, optional) :: fields, draft, [] =>
    if optional then f.readItems (i + 1) fields draft []
    else .error (.wrongLength i f.expectedItems)
  | i, (name, _) :: fields, draft, item :: items => do
    let draft ← f.put draft name item
    f.readItems (i + 1) fields draft items

/-- Reads a record. -/
def read (f : RecordForm σ α) (nested : Bool) : Form α
  | .object ms => do f.finish (← f.readMembers ms)
  | .array items => do
    let (draft, rest) ← f.readItems 0 f.fields f.start items
    if rest = [] then f.finish draft
    else .error (Form.leftOver nested items.length (items.length - rest.length))
  | other => .error (.wrongType other f.expected)

end RecordForm

/-- A field that has to be there. -/
def requireField (name : String) : Option α → Except FormFault α
  | some a => .ok a
  | none => .error (.missingField name)

end StoreBridge
