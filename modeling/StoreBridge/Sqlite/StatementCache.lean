/-!
# Prepared statements that are kept

A connection keeps the statements it has prepared, by their texts, up to a limit. The one whose last
use is longest ago gives way to a new one. A limit of zero keeps none.
-/

namespace StoreBridge

namespace Sqlite

/-- The texts of the statements that are kept, the one used last at the end. -/
structure StatementCache where
  capacity : Nat
  texts : List String := []
  deriving DecidableEq, Repr, Inhabited

namespace StatementCache

/-- The number of statements that are kept. -/
def size (c : StatementCache) : Nat := c.texts.length

/-- Uses the statement with a text, which is kept if there is room for any. -/
def touch (c : StatementCache) (text : String) : StatementCache :=
  let texts := c.texts.filter (· ≠ text) ++ [text]
  { c with texts := texts.drop (texts.length - c.capacity) }

/-- No more statements are kept than fit. -/
theorem size_touch_le (c : StatementCache) (text : String) : (c.touch text).size ≤ c.capacity := by
  simp only [touch, size, List.length_drop]
  omega

end StatementCache

end Sqlite

end StoreBridge
