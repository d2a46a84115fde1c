import StoreBridge.Identifier
import StoreBridge.Proofs.Text.Joined

/-!
# Characters of identifiers

An accepted name is a run of letters, digits, underscores and points
(`isNameChar_of_isIdentifier`). In a statement text the first character that is none of these ends
the name, whatever the name spells.
-/

namespace StoreBridge

/-- A character that an identifier may contain. -/
def isNameChar (c : Char) : Bool :=
  isWordPart c || c == '.'

/-- The letter that begins a word may stand inside a word as well. -/
theorem isWordPart_of_isWord {cs : List Char} (h : isWord cs = true) :
    ∀ c ∈ cs, isWordPart c = true := by
  cases cs with
  | nil => simp
  | cons d ds =>
    simp only [isWord, Bool.and_eq_true, List.all_eq_true] at h
    intro c hc
    rcases List.mem_cons.mp hc with rfl | hc
    · simp [isWordPart, h.1]
    · exact h.2 c hc

/-- Every character of an identifier is one of a word, or a point between words. -/
theorem isNameChar_of_isIdentifier {name : String} (h : isIdentifier name = true) :
    ∀ c ∈ name.toList, isNameChar c = true := by
  intro c hc
  rw [← joinWith_splitOnChar '.' name.toList] at hc
  -- The name is its words joined by points.
  rcases mem_joinWith hc with hc | ⟨word, hword, hc⟩
  · obtain rfl : c = '.' := by simpa using hc
    rfl
  · have hw := isWordPart_of_isWord (List.all_eq_true.mp h word hword) c hc
    simp [isNameChar, hw]

end StoreBridge
