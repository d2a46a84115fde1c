import StoreBridge.Text.Blank
import StoreBridge.Text.Fold

/-!
# Reads and inserts

What a statement does is told from its first six characters: one that begins with `select` reads,
every other one writes, and one that begins with `insert` may report the key it generated.
-/

namespace StoreBridge

/-- Whether a text begins with a word of ASCII letters, in any letter case. -/
def beginsWith (word cs : List Char) : Bool :=
  sameIgnoringCase (cs.take word.length) word

/-- A statement that returns rows. -/
def isRead (text : String) : Bool :=
  beginsWith "select".toList (trim text.toList)

/-- A statement that inserts rows. -/
def isInsert (text : String) : Bool :=
  beginsWith "insert".toList (trimStart text.toList)

end StoreBridge
