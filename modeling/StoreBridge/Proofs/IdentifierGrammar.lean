import Mathlib.Computability.RegularExpressions
import StoreBridge.Proofs.Identifier
import StoreBridge.Text.Blank

/-!
# The grammar of identifiers

`identifierPattern` is the regular expression `[A-Za-z_][A-Za-z0-9_]*(\.[A-Za-z_][A-Za-z0-9_]*)*`. A
name is an identifier exactly if it matches that in full (`identifier_grammar`).

The test splits a name at its points and looks at each piece. The pattern puts a word and further
words behind points one after another. Both speak of a list of words with points between them:
`matches_pointed_iff` says so of the pattern. For the test it rests on splitting being the inverse
of joining, and that needs words without points.
-/

namespace StoreBridge

open RegularExpression

/-- The ASCII characters from one to another. -/
def charRange (first last : Char) : List Char :=
  ((List.range 128).map Char.ofNat).filter fun c => first ≤ c && c ≤ last

/-- The class `[A-Za-z_]`. -/
def wordStarts : List Char :=
  charRange 'A' 'Z' ++ charRange 'a' 'z' ++ ['_']

/-- The class `[A-Za-z0-9_]`. -/
def wordParts : List Char :=
  charRange 'A' 'Z' ++ charRange 'a' 'z' ++ charRange '0' '9' ++ ['_']

/-- One of the listed characters. -/
def oneOf : List Char → RegularExpression Char
  | [] => 0
  | c :: cs => char c + oneOf cs

/-- The pattern `[A-Za-z_][A-Za-z0-9_]*`. -/
def wordPattern : RegularExpression Char :=
  oneOf wordStarts * star (oneOf wordParts)

/-- A text of the pattern, and any number of others, each behind a point. -/
def pointed (pattern : RegularExpression Char) : RegularExpression Char :=
  pattern * star (char '.' * pattern)

/-- **The pattern of an identifier.** -/
def identifierPattern : RegularExpression Char :=
  pointed wordPattern

/-! ### Characters -/

/-- A range holds the characters between its ends, if it is one of ASCII. -/
theorem mem_charRange_iff {first last : Char} (hlast : last.toNat < 128) {c : Char} :
    c ∈ charRange first last ↔ first ≤ c ∧ c ≤ last := by
  rw [charRange, List.mem_filter, Bool.and_eq_true, decide_eq_true_eq, decide_eq_true_eq]
  refine and_iff_right_of_imp fun ⟨_, hc⟩ => ?_
  have hascii : c.toNat < 128 := Nat.lt_of_le_of_lt hc hlast
  exact List.mem_map.mpr ⟨c.toNat, List.mem_range.mpr hascii, Char.ofNat_toNat c⟩

/-- The check for the first character of a word is the list in the pattern. -/
theorem isWordStart_iff {c : Char} : isWordStart c = true ↔ c ∈ wordStarts := by
  have hupper : c ∈ charRange 'A' 'Z' ↔ 'A' ≤ c ∧ c ≤ 'Z' := mem_charRange_iff (by decide)
  have hlower : c ∈ charRange 'a' 'z' ↔ 'a' ≤ c ∧ c ≤ 'z' := mem_charRange_iff (by decide)
  simp only [isWordStart, wordStarts, Bool.or_eq_true, Bool.and_eq_true, decide_eq_true_eq,
    beq_iff_eq, List.mem_append, List.mem_singleton, hupper, hlower]
  rw [or_comm (a := 'a' ≤ c ∧ c ≤ 'z')]

/-- The check for the other characters of a word is the list in the pattern. -/
theorem isWordPart_iff {c : Char} : isWordPart c = true ↔ c ∈ wordParts := by
  have hdigit : c ∈ charRange '0' '9' ↔ '0' ≤ c ∧ c ≤ '9' := mem_charRange_iff (by decide)
  rw [isWordPart, Bool.or_eq_true, isWordStart_iff]
  simp only [wordStarts, wordParts, Bool.and_eq_true, decide_eq_true_eq, List.mem_append, hdigit]
  rw [or_right_comm]

/-- No character of a name is beyond ASCII. -/
theorem lt_of_isNameChar {c : Char} (h : isNameChar c = true) : c.toNat < 128 := by
  -- A range of characters ends with its last one.
  have hrange : ∀ {first last : Char}, last.toNat < 128 → c ∈ charRange first last →
      c.toNat < 128 :=
    fun hlast hc => Nat.lt_of_le_of_lt ((mem_charRange_iff hlast).mp hc).2 hlast
  simp only [isNameChar, Bool.or_eq_true, isWordPart_iff, wordParts, List.mem_append,
    List.mem_singleton, beq_iff_eq] at h
  rcases h with (((hc | hc) | hc) | rfl) | rfl
  · exact hrange (by decide) hc
  · exact hrange (by decide) hc
  · exact hrange (by decide) hc
  · decide
  · decide

/-- A character of an identifier is an ASCII character, and no mark that means something in a
statement. -/
theorem isNameChar_harmless {c : Char} (h : isNameChar c = true) :
    c.toNat < 128 ∧ isBlank c = false ∧ c ∉ ['\'', '"', '\x60', '?', ';'] := by
  have hchars : ∀ c : Char, c.toNat < 128 → isNameChar c = true →
      isBlank c = false ∧ c ∉ ['\'', '"', '\x60', '?', ';'] := forall_char_lt (by decide)
  exact ⟨lt_of_isNameChar h, hchars c (lt_of_isNameChar h) h⟩

/-! ### Words -/

/-- One of the listed characters. -/
theorem matches_oneOf_iff {cs text : List Char} :
    text ∈ (oneOf cs).matches' ↔ ∃ c ∈ cs, text = [c] := by
  induction cs with
  | nil => simp [oneOf]
  | cons c cs ih =>
    rw [oneOf, matches'_add, Language.mem_add, ih, matches'_char, List.exists_mem_cons_iff]
    exact Iff.rfl

/-- The star of a character class matches the texts all of whose characters belong to the class. -/
theorem matches_star_oneOf_iff {cs text : List Char} :
    text ∈ (star (oneOf cs)).matches' ↔ ∀ c ∈ text, c ∈ cs := by
  rw [matches'_star, Language.mem_kstar]
  constructor
  · rintro ⟨pieces, rfl, hpieces⟩ c hc
    obtain ⟨piece, hpiece, hc⟩ := List.mem_flatten.mp hc
    obtain ⟨d, hd, rfl⟩ := matches_oneOf_iff.mp (hpieces piece hpiece)
    rwa [List.mem_singleton.mp hc]
  · intro hcs
    -- A text is made of its characters, each of which is a piece.
    have htext : text = (text.map fun c => [c]).flatten := by
      rw [← List.flatMap_def, List.flatMap_singleton']
    refine ⟨text.map fun c => [c], htext, fun piece hpiece => ?_⟩
    obtain ⟨c, hc, rfl⟩ := List.mem_map.mp hpiece
    exact matches_oneOf_iff.mpr ⟨c, hcs c hc, rfl⟩

/-- **A word** matches its pattern: one opening character, then any number of further ones. -/
theorem matches_word_iff {cs : List Char} : cs ∈ wordPattern.matches' ↔ isWord cs = true := by
  rw [wordPattern, matches'_mul, Language.mem_mul]
  simp only [matches_oneOf_iff, matches_star_oneOf_iff]
  cases cs with
  | nil => simp [isWord]
  | cons c cs =>
    rw [isWord, Bool.and_eq_true, List.all_eq_true, isWordStart_iff]
    simp only [isWordPart_iff]
    constructor
    · -- The pattern has the first character apart from the others, as the check does.
      rintro ⟨_, ⟨d, hd, rfl⟩, ds, hds, htext⟩
      obtain ⟨rfl, rfl⟩ := List.cons.inj htext
      exact ⟨hd, hds⟩
    · rintro ⟨hc, hcs⟩
      exact ⟨[c], ⟨c, hc, rfl⟩, cs, hcs, rfl⟩

theorem not_mem_of_isWord {cs : List Char} (h : isWord cs = true) : '.' ∉ cs :=
  fun hmem => absurd (isWordPart_of_isWord h '.' hmem) (by decide)

/-! ### Words behind points -/

/-- **A list joined by points** matches exactly if it has an item and each of its items matches. -/
theorem matches_pointed_iff {pattern : RegularExpression Char} {text : List Char} :
    text ∈ (pointed pattern).matches' ↔
      ∃ items, items ≠ [] ∧ joinWith ['.'] items = text ∧
        ∀ item ∈ items, item ∈ pattern.matches' := by
  -- A piece that is repeated is a point with an item behind it.
  have hbehind : ∀ piece, piece ∈ (char '.' * pattern).matches' ↔
      ∃ item ∈ pattern.matches', ['.'] ++ item = piece := by
    intro piece
    rw [matches'_mul, Language.mem_mul, matches'_char]
    exact ⟨fun ⟨_, hpoint, hrest⟩ => hpoint ▸ hrest, fun hrest => ⟨['.'], rfl, hrest⟩⟩
  rw [pointed, matches'_mul, Language.mem_mul]
  simp only [matches'_star, Language.mem_kstar, hbehind]
  constructor
  · rintro ⟨item, hitem, _, ⟨pieces, rfl, hpieces⟩, rfl⟩
    -- Each of the pieces is a point and an item; these items are the rest of the list.
    obtain ⟨items, hitems, rfl⟩ : ∃ items : List (List Char),
        (∀ item ∈ items, item ∈ pattern.matches') ∧ items.map (['.'] ++ ·) = pieces := by
      induction pieces with
      | nil => exact ⟨[], by simp, rfl⟩
      | cons piece pieces ih =>
        obtain ⟨hpiece, hrest⟩ := List.forall_mem_cons.mp hpieces
        obtain ⟨next, hnext, rfl⟩ := hpiece
        obtain ⟨items, hitems, rfl⟩ := ih hrest
        exact ⟨next :: items, List.forall_mem_cons.mpr ⟨hnext, hitems⟩, rfl⟩
    refine ⟨item :: items, List.cons_ne_nil _ _, ?_, List.forall_mem_cons.mpr ⟨hitem, hitems⟩⟩
    rw [joinWith_cons, List.flatMap_def]
  · rintro ⟨items, hne, rfl, hitems⟩
    obtain ⟨item, items, rfl⟩ := List.exists_cons_of_ne_nil hne
    obtain ⟨hitem, hrest⟩ := List.forall_mem_cons.mp hitems
    refine ⟨item, hitem, _, ⟨items.map (['.'] ++ ·), rfl, fun piece hpiece => ?_⟩, ?_⟩
    · obtain ⟨next, hnext, rfl⟩ := List.mem_map.mp hpiece
      exact ⟨next, hrest next hnext, rfl⟩
    · rw [joinWith_cons, List.flatMap_def]

/-! ### Identifiers -/

/-- The words of an identifier are the pieces between its points. -/
theorem isIdentifier_iff {name : String} :
    isIdentifier name = true ↔
      ∃ words, words ≠ [] ∧ joinWith ['.'] words = name.toList ∧
        ∀ word ∈ words, isWord word = true := by
  rw [isIdentifier, List.all_eq_true]
  constructor
  · intro hpieces
    exact ⟨_, splitOnChar_ne_nil '.' name.toList, joinWith_splitOnChar '.' name.toList, hpieces⟩
  · -- A word has no point in it, so that splitting gives the words back.
    rintro ⟨words, hne, hname, hwords⟩
    rwa [← hname, splitOnChar_joinWith hne fun word hword => not_mem_of_isWord (hwords word hword)]

/-- **The grammar of identifiers.** A name is accepted exactly if it matches the pattern in full. So
names joined by a point are accepted exactly if both are, and an accepted name holds no character
beyond ASCII, no white space, no quotation mark, no placeholder and no semicolon. -/
theorem identifier_grammar :
    (∀ name, isIdentifier name = true ↔ name.toList ∈ identifierPattern.matches') ∧
    (∀ a b, isIdentifier (a ++ "." ++ b) = true ↔ isIdentifier a = true ∧ isIdentifier b = true) ∧
    ∀ name, isIdentifier name = true → ∀ c ∈ name.toList,
      c.toNat < 128 ∧ isBlank c = false ∧ c ∉ ['\'', '"', '\x60', '?', ';'] := by
  refine ⟨fun name => ?_, fun a b => ?_, fun name hname c hc => ?_⟩
  · rw [isIdentifier_iff, identifierPattern, matches_pointed_iff]
    simp only [matches_word_iff]
  · -- The names are split at the point between them, so their words are checked apart.
    have hpoint : (a ++ "." ++ b).toList = a.toList ++ '.' :: b.toList := by
      simp
    rw [isIdentifier, hpoint, splitOnChar_append_cons, List.all_append, Bool.and_eq_true]
    exact Iff.rfl
  · exact isNameChar_harmless (isNameChar_of_isIdentifier hname c hc)

/-- A table with its schema. -/
theorem qualifiedTable_grammar :
    isIdentifier "public.users" = true ∧
      "public.users".toList ∈ identifierPattern.matches' ∧
      ∀ c ∈ "public.users".toList,
        c.toNat < 128 ∧ isBlank c = false ∧ c ∉ ['\'', '"', '\x60', '?', ';'] := by
  obtain ⟨hgrammar, -, hharmless⟩ := identifier_grammar
  have htable : isIdentifier "public.users" = true := by decide
  exact ⟨htable, (hgrammar _).mp htable, hharmless _ htable⟩

end StoreBridge
