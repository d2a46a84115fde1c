import StoreBridge.Argument
import StoreBridge.Bytes.Base64
import StoreBridge.Json.Reader
import StoreBridge.Number.Reading

/-!
# Column values as JSON

The JSON value for what a column holds. Numbers that JSON cannot write become their names, bytes
become base64, and text is parsed where the name of the column's type mentions JSON.
-/

namespace StoreBridge

namespace Column

/-- The value of a floating-point column. -/
def ofFloat (x : Binary64) : Json :=
  if x.isFinite then .double x else .string (String.ofList x.plainDigits)

/-- The value of a binary column. -/
def ofBytes (bs : Bytes) : Json :=
  .string (String.ofList (Base64.encode bs))

/-- The value of a text column; text that is no JSON is kept as it is. -/
def ofText (typeName text : String) : Json :=
  if occursIn "json".toList (lower typeName.toList) then (Json.parse? text).getD (.string text)
  else .string text

/-- The value of a number column that is sent as text: an integer of 64 bits, else the double that
the text spells, else the text. -/
def ofNumberText (text : String) : Json :=
  match (intOfText? text.toList).filter isInt64 with
  | some i => .int i
  | none =>
    match Binary64.ofText? text.toList with
    | some x => ofFloat x
    | none => .string text

end Column

end StoreBridge
