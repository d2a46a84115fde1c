import StoreBridge.Argument
import StoreBridge.Bson.Basic
import StoreBridge.Serial.Form

/-!
# Reading extended JSON

JSON as BSON. An object with one of the special keys stands for a value of its own and may hold
nothing else; every other object is a document. Integers take 32 bits if they fit, else 64, and
numbers beyond become doubles.
-/

namespace StoreBridge

/-- Why an object is no BSON value. -/
inductive BsonFault where
  | form (fault : FormFault)
  | subtypeLength
  | idLength (text : String)
  | idCharacter (c : Char) (index : Nat) (text : String)
  deriving Repr, Inhabited

/-- The wording of a fault. -/
def BsonFault.message : BsonFault → String
  | .form fault => fault.message
  | .subtypeLength => "invalid value: byte array, expected one byte subtype"
  | .idLength text =>
    "provided hex string representation must be exactly 12 bytes, instead got: \"" ++ text ++
      "\", length " ++ natText text.utf8ByteSize
  | .idCharacter c index text =>
    "invalid character '" ++ String.singleton c ++ "' was found at index " ++ natText index ++
      " in the provided hex string: \"" ++ text ++ "\""

namespace ExtendedJson

/-- The outcome of reading. -/
abbrev Outcome (α : Type) := Except BsonFault α

/-- A reader of JSON used for a part of a special value. -/
def readAs (form : Form α) (value : Json) : Outcome α :=
  match form value with
  | .ok a => .ok a
  | .error fault => .error (.form fault)

/-- A text that does not spell what is expected. -/
def badText (text expected : String) : Outcome α :=
  .error (.form (.wrongValue (.string text) expected))

/-- A closed record of one field. -/
def single (name key : String) (value : Form α) : RecordForm (Option α) α where
  name := name
  closed := true
  fields := [(key, false)]
  start := none
  put _ _ json := (value json).map some
  finish := requireField key

/-- A closed record of two fields. -/
def double (name : String) (nested : Bool) (first : String × Form α) (second : String × Form β) :
    Form (α × β) :=
  RecordForm.read (σ := Option α × Option β)
    { name := name
      closed := true
      fields := [(first.1, false), (second.1, false)]
      start := (none, none)
      -- The fields come in any order, and it is only checked at the end that both are there.
      put draft key json := do
        if key = first.1 then return (some (← first.2 json), draft.2)
        else return (draft.1, some (← second.2 json))
      finish draft := do
        let a ← requireField first.1 draft.1
        let b ← requireField second.1 draft.2
        return (a, b) } nested

/-- The first byte of a text that is no hexadecimal digit, with its position. -/
def firstBadDigit (i : Nat) : Bytes → Option (Nat × Char)
  | [] => none
  | b :: rest =>
    let c := Char.ofNat b.toNat
    if (hexValue? c).isSome then firstBadDigit (i + 1) rest else some (i, c)

/-- An object id of 24 hexadecimal digits. -/
def objectId (text : String) : Outcome Bytes :=
  if text.utf8ByteSize % 2 = 1 then .error (.idLength text)
  else
    match firstBadDigit 0 (Bytes.ofText text) with
    | some (i, c) => .error (.idCharacter c i text)
    | none =>
      match Bytes.ofHex? text.toList with
      | some bytes => if bytes.length = 12 then .ok bytes else .error (.idLength text)
      | none => .error (.idLength text)

/-- An integer of so many bits, spelled as text. -/
def spelledInt (bits : Nat) (expected text : String) : Outcome Int :=
  match intOfText? text.toList with
  | some i => if -(pow2 (bits - 1)) ≤ i ∧ i < pow2 (bits - 1) then .ok i else badText text expected
  | none => badText text expected

/-- A double, spelled as text. -/
def spelledDouble (text : String) : Outcome Binary64 :=
  match Binary64.ofText? text.toList with
  | some x => .ok x
  | none => badText text "bson double as string"

/-- A decimal, spelled as text. -/
def spelledDecimal (text : String) : Outcome Decimal128 :=
  match Decimal128.ofText? text.toList with
  | some d => .ok d
  | none => badText text "bson decimal128 as string"

/-- Bytes with the number of their kind. -/
def binary (base64 subtype : String) : Outcome Bson :=
  match Base64.decode? base64.toList with
  | none => badText base64 "base64 encoded bytes"
  | some bytes =>
    match Bytes.ofHex? subtype.toList with
    | none => badText subtype "hexadecimal number as a string"
    | some [b] => .ok (.binary b bytes)
    | some _ => .error .subtypeLength

/-- The digits of a UUID: all 32 together, or in groups with hyphens, which may stand in braces or
after a prefix. -/
def uuidDigits? (cs : List Char) : Option (List Char) :=
  let grouped (cs : List Char) : Option (List Char) :=
    let groups := splitOnChar '-' cs
    if groups.map List.length = [8, 4, 4, 4, 12] then some groups.flatten else none
  if cs.length = 32 then some cs
  else
    match cs with
    | '\x7b' :: rest =>
      if rest.getLast? = some '\x7d' then grouped rest.dropLast else none
    | cs =>
      if "urn:uuid:".toList.isPrefixOf cs then grouped (cs.drop 9) else grouped cs

/-- A UUID as bytes of kind 4. -/
def uuid (text : String) : Outcome Bson :=
  match (uuidDigits? text.toList).bind Bytes.ofHex? with
  | some bytes => .ok (.binary 4 bytes)
  | none =>
    badText text "$uuid value does not follow RFC 4122 format regarding length and hyphens"

/-- A value that has to be one. -/
def one (key : String) (value : Bson) (n : Nat) : Outcome Bson :=
  if n = 1 then .ok value
  else
    .error (.form (.wrongValue (.int n) ("value of " ++ key ++ " should always be 1")))

/-- A date: its milliseconds spelled as text, an internet date-time, or its milliseconds. -/
def dateBody (value : Json) : Outcome Int :=
  match (single "Int64" "$numberLong" Form.string).read true value with
  | .ok text => spelledInt 64 "i64 as a string" text
  | .error _ =>
    match value with
    | .string text =>
      match Instant.parse? text.toList with
      | some millis => .ok millis
      | none => badText text "rfc3339 formatted utc datetime"
    | .int i =>
      if isInt64 i then .ok i else .error (.form (.noVariant "DateTimeBody"))
    | _ => .error (.form (.noVariant "DateTimeBody"))

/-- Reads the field of a special value with one key. -/
def only (key : String) (value : Form α) (ms : Members) : Outcome α :=
  readAs ((single key key value).read false) (.object ms)

/-- A special value, chosen by the first of the keys that is present. Code is treated apart, because
it may hold a document. -/
def special? (ms : Members) : Option (Outcome Bson) :=
  let has := Members.has ms
  if has "$oid" then some do
    return .objectId (← objectId (← only "$oid" Form.string ms))
  else if has "$symbol" then some do
    return .symbol (← only "$symbol" Form.string ms)
  else if has "$regularExpression" then some do
    let body := double "RegexBody" false ("pattern", Form.string) ("options", Form.string)
    let (pattern, options) ← only "$regularExpression" body ms
    return .regularExpression pattern (Bson.sortedOptions options)
  else if has "$numberInt" then some do
    return .int32 (← spelledInt 32 "i32 as a string" (← only "$numberInt" Form.string ms))
  else if has "$numberLong" then some do
    return .int64 (← spelledInt 64 "i64 as a string" (← only "$numberLong" Form.string ms))
  else if has "$numberDouble" then some do
    return .double (← spelledDouble (← only "$numberDouble" Form.string ms))
  else if has "$numberDecimal" then some do
    return .decimal128 (← spelledDecimal (← only "$numberDecimal" Form.string ms))
  else if has "$binary" then some do
    let body := double "BinaryBody" false ("base64", Form.string) ("subType", Form.string)
    let (base64, subtype) ← only "$binary" body ms
    binary base64 subtype
  else if has "$uuid" then some do
    uuid (← only "$uuid" Form.string ms)
  else none

/-- A special value that is looked for after code. -/
def laterSpecial? (ms : Members) : Option (Outcome Bson) :=
  let has := Members.has ms
  if has "$timestamp" then some do
    let body := double "TimestampBody" false ("t", Form.nat 32 "u32") ("i", Form.nat 32 "u32")
    let (time, increment) ← only "$timestamp" body ms
    return .timestamp time increment
  else if has "$date" then some do
    -- A body that is no date at all is refused before other keys are, a bad date after them.
    let value ← only "$date" (fun value =>
      match dateBody value with
      | .error (.form (.noVariant type)) => .error (.noVariant type)
      | _ => .ok value) ms
    return .dateTime (← dateBody value)
  else if has "$minKey" then some do
    one "$minKey" .minKey (← only "$minKey" (Form.nat 8 "u8") ms)
  else if has "$maxKey" then some do
    one "$maxKey" .maxKey (← only "$maxKey" (Form.nat 8 "u8") ms)
  else if has "$dbPointer" then some do
    let id := (single "ObjectId" "$oid" Form.string).read false
    let body := double "DbPointerBody" false ("$ref", Form.string) ("$id", id)
    let (ref, id) ← only "$dbPointer" body ms
    return .dbPointer ref (← objectId id)
  else if has "$undefined" then some do
    if ← only "$undefined" Form.bool ms then return .undefined
    else .error (.form (.wrongValue (.bool false) "$undefined should always be true"))
  else none

/-- The text of a piece of code, and whether a scope goes with it. -/
def codeForm : Form (String × Bool) :=
  RecordForm.read (σ := Option String × Bool)
    { name := "JavaScriptCodeWithScope"
      closed := true
      fields := [("$code", false), ("$scope", true)]
      start := (none, false)
      put draft key json := do
        if key = "$code" then return (some (← Form.string json), draft.2)
        else return (draft.1, (← Form.option Form.members json).isSome)
      finish draft := do
        return (← requireField "$code" draft.1, draft.2) } false

/-- What a JSON value stands for, and what its members stand for if it is taken as a document
whatever its keys are. -/
structure Reading where
  value : Outcome Bson
  members : Outcome Document
  deriving Inhabited

/-- The document of members that are already read; the first fault counts. -/
def gather : List (String × Reading) → Outcome Document
  | [] => .ok []
  | (key, r) :: rest => do
    let value ← r.value
    let others ← gather rest
    return (key, value) :: others

/-- Code with its scope, if there is one. -/
def code (ms : Members) (parts : List (String × Reading)) : Outcome Bson := do
  let (code, hasScope) ← readAs codeForm (.object ms)
  if hasScope then
    match parts.find? fun (key, _) => key == "$scope" with
    | some (_, r) => return .javaScriptCodeWithScope code (← r.members)
    | none => return .javaScriptCode code
  else return .javaScriptCode code

/-- What an object stands for, given its members. -/
def ofMembers (ms : Members) (parts : List (String × Reading)) : Outcome Bson :=
  match special? ms with
  | some outcome => outcome
  | none =>
    if Members.has ms "$code" then code ms parts
    else
      match laterSpecial? ms with
      | some outcome => outcome
      | none => (gather parts).map .document

/-- An integer with as many bits as it needs. -/
def ofInt (i : Int) : Bson :=
  if -(pow2 31) ≤ i ∧ i < pow2 31 then .int32 i
  else if isInt64 i then .int64 i
  else .double (Binary64.ofInt i)

mutual

/-- Reads a value. -/
def read : Json → Reading
  | .null => ⟨.ok .null, .ok []⟩
  | .bool b => ⟨.ok (.boolean b), .ok []⟩
  | .int i => ⟨.ok (ofInt i), .ok []⟩
  | .double x => ⟨.ok (.double x), .ok []⟩
  | .string s => ⟨.ok (.string s), .ok []⟩
  | .array items => ⟨(readItems items).map .array, .ok []⟩
  | .object ms =>
    let parts := readMembers ms
    ⟨ofMembers ms parts, gather parts⟩

/-- Reads the items of an array; the first fault counts. -/
def readItems : List Json → Outcome (List Bson)
  | [] => .ok []
  | item :: rest => do
    let item ← (read item).value
    let rest ← readItems rest
    return item :: rest

/-- Reads the members of an object, each for itself. -/
def readMembers : List (String × Json) → List (String × Reading)
  | [] => []
  | (key, value) :: rest => (key, read value) :: readMembers rest

end

end ExtendedJson

/-- The BSON value that extended JSON stands for. -/
def Bson.ofJson (value : Json) : Except BsonFault Bson :=
  (ExtendedJson.read value).value

end StoreBridge
