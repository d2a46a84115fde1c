import StoreBridge.Bson.Decimal
import StoreBridge.Bytes.Base64
import StoreBridge.Json.Basic
import StoreBridge.Number.Shortest
import StoreBridge.Time.Instant

/-!
# BSON values

The values that MongoDB stores. `Bson.relaxed` and `Bson.canonical` write them as extended JSON: the
relaxed form uses plain JSON where it can, the canonical form keeps every type apart.
-/

namespace StoreBridge

/-- A BSON value. Dates are milliseconds since 1970, an object id is twelve bytes. -/
inductive Bson where
  | double (x : Binary64)
  | string (s : String)
  | document (members : List (String × Bson))
  | array (items : List Bson)
  | binary (subtype : UInt8) (bytes : Bytes)
  | undefined
  | objectId (bytes : Bytes)
  | boolean (b : Bool)
  | dateTime (millis : Int)
  | null
  | regularExpression (pattern options : String)
  | dbPointer (ref : String) (id : Bytes)
  | javaScriptCode (code : String)
  | symbol (s : String)
  | javaScriptCodeWithScope (code : String) (scope : List (String × Bson))
  | int32 (i : Int)
  | timestamp (time increment : Nat)
  | int64 (i : Int)
  | decimal128 (d : Decimal128)
  | maxKey
  | minKey
  deriving Repr, Inhabited

/-- A BSON document: named values in order. -/
abbrev Document := List (String × Bson)

namespace Bson

/-- The name of a value's type. -/
def typeName : Bson → String
  | .double _ => "Double"
  | .string _ => "String"
  | .document _ => "EmbeddedDocument"
  | .array _ => "Array"
  | .binary _ _ => "Binary"
  | .undefined => "Undefined"
  | .objectId _ => "ObjectId"
  | .boolean _ => "Boolean"
  | .dateTime _ => "DateTime"
  | .null => "Null"
  | .regularExpression _ _ => "RegularExpression"
  | .dbPointer _ _ => "DbPointer"
  | .javaScriptCode _ => "JavaScriptCode"
  | .symbol _ => "Symbol"
  | .javaScriptCodeWithScope _ _ => "JavaScriptCodeWithScope"
  | .int32 _ => "Int32"
  | .timestamp _ _ => "Timestamp"
  | .int64 _ => "Int64"
  | .decimal128 _ => "Decimal128"
  | .maxKey => "MaxKey"
  | .minKey => "MinKey"

/-- An object with one member. -/
def tagged (key : String) (value : Json) : Json :=
  .object [(key, value)]

/-- A number that is kept as its spelling. -/
def spelled (key : String) (cs : List Char) : Json :=
  tagged key (.string (String.ofList cs))

/-- An object id as 24 hexadecimal digits. -/
def oidJson (id : Bytes) : Json :=
  spelled "$oid" id.toHex

/-- A double that JSON has no number for. -/
def specialDouble (x : Binary64) : Json :=
  let name := if x.isNaN then "NaN" else "Infinity"
  tagged "$numberDouble" (.string (if x.negative then "-" ++ name else name))

/-- The options of a regular expression in alphabetical order. -/
def sortedOptions (options : String) : String :=
  String.ofList (options.toList.mergeSort (fun a b => a.toNat ≤ b.toNat))

/-- A date with its milliseconds spelled out. -/
def millisJson (millis : Int) : Json :=
  tagged "$date" (spelled "$numberLong" (intDigits millis))

/-- The values that both forms write alike; null for all others. -/
def plainJson : Bson → Json
  | .string s => .string s
  | .boolean b => .bool b
  | .binary subtype bytes =>
    tagged "$binary" (.object
      [("base64", .string (String.ofList (Base64.encode bytes))),
       ("subType", .string (String.ofList (Bytes.hexOfByte subtype)))])
  | .undefined => tagged "$undefined" (.bool true)
  | .objectId id => oidJson id
  | .regularExpression pattern options =>
    tagged "$regularExpression" (.object
      [("pattern", .string pattern), ("options", .string (sortedOptions options))])
  | .dbPointer ref id =>
    tagged "$dbPointer" (.object [("$ref", .string ref), ("$id", oidJson id)])
  | .javaScriptCode code => tagged "$code" (.string code)
  | .symbol s => tagged "$symbol" (.string s)
  | .timestamp time increment =>
    tagged "$timestamp" (.object [("t", .int time), ("i", .int increment)])
  | .decimal128 d => spelled "$numberDecimal" d.text
  | .maxKey => tagged "$maxKey" (.int 1)
  | .minKey => tagged "$minKey" (.int 1)
  | _ => .null

mutual

/-- The relaxed form. -/
def relaxed : Bson → Json
  | .double x => if x.isFinite then .double x else specialDouble x
  | .int32 i => .int i
  | .int64 i => .int i
  | .dateTime millis =>
    if 0 ≤ millis ∧ millis ≤ Instant.lastFourDigitMillis then
      tagged "$date" (.string (String.ofList (Instant.text millis)))
    else millisJson millis
  | .document members => .object (relaxedMembers members)
  | .array items => .array (relaxedItems items)
  | .javaScriptCodeWithScope code scope =>
    .object [("$code", .string code), ("$scope", .object (relaxedMembers scope))]
  | other => plainJson other

/-- The relaxed form of the items of an array. -/
def relaxedItems : List Bson → List Json
  | [] => []
  | item :: rest => relaxed item :: relaxedItems rest

/-- The relaxed form of the members of a document. -/
def relaxedMembers : List (String × Bson) → List (String × Json)
  | [] => []
  | (key, value) :: rest => (key, relaxed value) :: relaxedMembers rest

end

/-- The canonical form of a double. The doubles nearest to zero are written as plain numbers. -/
def canonicalDouble (x : Binary64) : Json :=
  if !x.isFinite then specialDouble x
  else if x.exponentField = 0 ∧ x.fractionField ≠ 0 then .double x
  else spelled "$numberDouble" x.plainDigits

mutual

/-- The canonical form. -/
def canonical : Bson → Json
  | .double x => canonicalDouble x
  | .int32 i => spelled "$numberInt" (intDigits i)
  | .int64 i => spelled "$numberLong" (intDigits i)
  | .dateTime millis => millisJson millis
  | .document members => .object (canonicalMembers members)
  | .array items => .array (canonicalItems items)
  | .javaScriptCodeWithScope code scope =>
    .object [("$code", .string code), ("$scope", .object (canonicalMembers scope))]
  | other => plainJson other

/-- The canonical form of the items of an array. -/
def canonicalItems : List Bson → List Json
  | [] => []
  | item :: rest => canonical item :: canonicalItems rest

/-- The canonical form of the members of a document. -/
def canonicalMembers : List (String × Bson) → List (String × Json)
  | [] => []
  | (key, value) :: rest => (key, canonical value) :: canonicalMembers rest

end

end Bson

end StoreBridge
