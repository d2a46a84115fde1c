import StoreBridge.Query.Document
import StoreBridge.Query.Tabular

/-!
# Compiling queries

A chain becomes SQL text on a table and a document operation on a collection. Nothing is sent while
a chain is compiled.
-/

namespace StoreBridge

/-- Compiles a chain by the kind of its schema. -/
def compile (s : Schema) (ops : List Operation) : Except DbError Request :=
  match s.kind with
  | .tabular => (compileTabular s ops).map .sql
  | .document => (compileDocument s ops).map .document

end StoreBridge
