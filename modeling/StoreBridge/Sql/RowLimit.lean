import StoreBridge.Number.Digits
import StoreBridge.Text.Blank
import StoreBridge.Text.Fold

/-!
# Row limits

Stores without a `LIMIT` clause take `FETCH FIRST n ROWS ONLY` instead. Only a limit at the very end
of the text counts: a number after a blank, preceded by the word `limit` and another blank.
-/

namespace StoreBridge

namespace RowLimit

def keyword : List Char := "limit".toList

/-- The part before a final limit clause, and its number. -/
def split? (cs : List Char) : Option (List Char × List Char) := do
  let (head, count) ← splitAtLast ' ' (trimEnd cs)
  if count.isEmpty || !count.all isDigit then none
  else
    let head := trimEnd head
    let before := head.take (head.length - keyword.length)
    let word := head.drop (head.length - keyword.length)
    if sameIgnoringCase word keyword && before.getLast?.any isBlank then
      some (trimEnd before, count)
    else none

/-- Replaces a final limit clause; a text without one is unchanged. -/
def fetchFirst (text : String) : String :=
  match split? text.toList with
  | some (before, count) =>
    String.ofList (before ++ " FETCH FIRST ".toList ++ count ++ " ROWS ONLY".toList)
  | none => text

end RowLimit

end StoreBridge
