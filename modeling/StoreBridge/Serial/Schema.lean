import StoreBridge.Schema

/-!
# Schemas as JSON

The written form of a schema; a field's default is written when there is one, even when it is null.
-/

namespace StoreBridge

/-- The declaration of a field. -/
def Field.toJson (f : Field) : Json :=
  .object ([("type", .string f.type.tag), ("primary", .bool f.primary),
    ("nullable", .bool f.nullable)] ++
    match f.default with
    | some value => [("default", value)]
    | none => [])

/-- A schema with its fields in order. -/
def Schema.toJson (s : Schema) : Json :=
  .object [("name", .string s.name), ("kind", .string s.kind.tag),
    ("fields", .array (s.fields.map fun (name, f) => .array [.string name, f.toJson]))]

end StoreBridge
