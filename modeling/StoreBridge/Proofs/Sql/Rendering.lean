import Mathlib.Data.String.Basic
import StoreBridge.Proofs.Sql.Placeholder

/-!
# Rendered placeholders

What rendering does to any text, with quoted parts and with characters of any width.

A text is read in two ways. `Lexes` is the lexical grammar: a quoted part runs to the first quote of
its kind that is not doubled, or to the end of the text. There is exactly one way to read a text by
it (`exists_lexes`, `Lexes.unique`). A reader that follows nothing but the open quote takes a
doubled quote for an end and a new beginning, and is inside quotes again after both. So it finds the
same placeholders (`positions_of_lexes`).

Rendering is stated on the slices of the text between the placeholders. Slices are cut at offsets in
bytes, and `slice?` has no answer where an offset falls inside a character. A placeholder is one
byte wide and every other offset is the width of the characters before it, so all slices are there
(`slicesFrom_eq`), and the rendered text is made of them and of the marks between them.

What has been rendered has no placeholder, unless a mark brings one in (`positionsFrom_renderFrom`).
-/

namespace StoreBridge

namespace Placeholder

/-! ### The lexical grammar -/

/-- A part of a text. -/
inductive Lexeme where
  /-- A question mark outside quotes. -/
  | mark
  /-- Any other character outside quotes. -/
  | plain (c : Char)
  /-- A quoted part. A doubled quote in it stands for the quote itself, and the quote that closes it
  may be missing. -/
  | quoted (quote : Char) (content : List Char) (closed : Bool)
  deriving DecidableEq, Repr

/-- What stands inside quotes, as it is written. -/
def doubled (quote : Char) (content : List Char) : List Char :=
  content.flatMap fun c => if c = quote then [quote, quote] else [c]

/-- A part, as it is written. -/
def Lexeme.text : Lexeme → List Char
  | .mark => ['?']
  | .plain c => [c]
  | .quoted quote content closed =>
    quote :: (doubled quote content ++ if closed then [quote] else [])

/-- **The lexical grammar** of a text. -/
inductive Lexes : List Lexeme → List Char → Prop
  | nil : Lexes [] []
  | mark {lexemes : List Lexeme} {rest : List Char} (hrest : Lexes lexemes rest) :
      Lexes (.mark :: lexemes) ('?' :: rest)
  | plain {c : Char} {lexemes : List Lexeme} {rest : List Char} (hquote : isQuote c = false)
      (hmark : c ≠ '?') (hrest : Lexes lexemes rest) : Lexes (.plain c :: lexemes) (c :: rest)
  /-- The quote that closes a part is not followed by another one. -/
  | quoted {quote : Char} {content : List Char} {lexemes : List Lexeme} {rest : List Char}
      (hquote : isQuote quote = true) (hstop : rest.head? ≠ some quote)
      (hrest : Lexes lexemes rest) :
      Lexes (.quoted quote content true :: lexemes)
        (quote :: (doubled quote content ++ quote :: rest))
  /-- Without a quote that closes it, a part runs to the end. -/
  | unclosed {quote : Char} {content : List Char} (hquote : isQuote quote = true) :
      Lexes [.quoted quote content false] (quote :: doubled quote content)

/-- The positions of the marks among the parts of a text, counted from `start`. -/
def markPositions (start : Nat) : List Lexeme → List Nat
  | [] => []
  | .mark :: lexemes => start :: markPositions (start + 1) lexemes
  | lexeme :: lexemes => markPositions (start + lexeme.text.length) lexemes

section Grammar

variable {quote c : Char} {content content' rest rest' cs : List Char}
  {lexemes lexemes' : List Lexeme}

/-- A quotation mark inside a quoted part is written twice. -/
theorem doubled_cons_self (quote : Char) (content : List Char) :
    doubled quote (quote :: content) = quote :: quote :: doubled quote content := by
  simp [doubled]

/-- A character that is not the quotation mark is written once. -/
theorem doubled_cons_of_ne (hc : c ≠ quote) (content : List Char) :
    doubled quote (c :: content) = c :: doubled quote content := by
  simp [doubled, hc]

/-- A text after an opening quote: it has no closing quote, or a first one that is not doubled. -/
theorem doubled_or_closed (quote : Char) :
    ∀ cs : List Char, (∃ content, cs = doubled quote content) ∨
      ∃ content rest, cs = doubled quote content ++ quote :: rest ∧ rest.head? ≠ some quote
  | [] => .inl ⟨[], rfl⟩
  | [c] => by
    by_cases hc : c = quote
    · subst hc
      exact .inr ⟨[], [], rfl, by simp⟩
    · exact .inl ⟨[c], (doubled_cons_of_ne hc []).symm⟩
  | c :: d :: cs => by
    by_cases hc : c = quote
    · subst hc
      by_cases hd : d = c
      · -- A doubled quote is content, and what follows it is still inside.
        subst hd
        rcases doubled_or_closed d cs with ⟨content, rfl⟩ | ⟨content, rest, rfl, hstop⟩
        · exact .inl ⟨d :: content, (doubled_cons_self d content).symm⟩
        · refine .inr ⟨d :: content, rest, ?_, hstop⟩
          rw [doubled_cons_self, List.cons_append, List.cons_append]
      · exact .inr ⟨[], d :: cs, rfl, by simpa using hd⟩
    · -- Any other character is content, and the rest decides.
      rcases doubled_or_closed quote (d :: cs) with ⟨content, h⟩ | ⟨content, rest, h, hstop⟩
      · exact .inl ⟨c :: content, by rw [doubled_cons_of_ne hc, h]⟩
      · exact .inr ⟨c :: content, rest, by rw [doubled_cons_of_ne hc, h, List.cons_append], hstop⟩

/-- **Every text can be read** by the grammar. -/
theorem exists_lexes (cs : List Char) : ∃ lexemes, Lexes lexemes cs := by
  -- On the length, because a quoted part is read as a whole.
  induction h : cs.length using Nat.strongRecOn generalizing cs with
  | ind n ih =>
    cases cs with
    | nil => exact ⟨[], .nil⟩
    | cons c cs =>
      have hshorter : cs.length < n := by rw [← h, List.length_cons]; omega
      by_cases hquote : isQuote c = true
      · rcases doubled_or_closed c cs with ⟨content, rfl⟩ | ⟨content, rest, rfl, hstop⟩
        · exact ⟨_, .unclosed hquote⟩
        · -- Behind a closing quote the text goes on, and it is shorter.
          have hrest : rest.length < n := by
            rw [List.length_append, List.length_cons] at hshorter
            omega
          obtain ⟨lexemes, hlexemes⟩ := ih _ hrest rest rfl
          exact ⟨_, .quoted hquote hstop hlexemes⟩
      · obtain ⟨lexemes, hlexemes⟩ := ih _ hshorter cs rfl
        by_cases hmark : c = '?'
        · subst hmark
          exact ⟨_, .mark hlexemes⟩
        · exact ⟨_, .plain (Bool.eq_false_iff.mpr hquote) hmark hlexemes⟩

/-- Where content ends: at the end of the text, or at a quote that is not doubled. -/
def Ends (quote : Char) (rest : List Char) : Prop :=
  rest = [] ∨ ∃ after, rest = quote :: after ∧ after.head? ≠ some quote

theorem Ends.closing (hstop : rest.head? ≠ some quote) : Ends quote (quote :: rest) :=
  .inr ⟨rest, rfl, hstop⟩

/-- No content begins where content ends: a quote in it is written twice, and the one that ends it
once. -/
theorem not_ends_doubled_cons (quote c : Char) (content rest : List Char) :
    ¬ Ends quote (doubled quote (c :: content) ++ rest) := by
  intro h
  -- Content begins with a doubled quote or with another character, and neither ends it.
  by_cases hc : c = quote
  · subst hc
    rw [doubled_cons_self] at h
    rcases h with h | ⟨after, h, hstop⟩
    · exact absurd h (by simp)
    · exact hstop (by rw [← (List.cons.inj h).2]; rfl)
  · rw [doubled_cons_of_ne hc] at h
    rcases h with h | ⟨after, h, -⟩
    · exact absurd h (by simp)
    · exact hc (List.cons.inj h).1

/-- Content is told from what follows it. -/
theorem doubled_append_inj (h : doubled quote content ++ rest = doubled quote content' ++ rest')
    (hends : Ends quote rest) (hends' : Ends quote rest') : content = content' ∧ rest = rest' := by
  -- On both contents, which cannot be of different lengths, as none begins where the other ends.
  induction content generalizing content' with
  | nil =>
    cases content' with
    | nil => exact ⟨rfl, h⟩
    | cons d content' =>
      have hrest : rest = doubled quote (d :: content') ++ rest' := h
      exact absurd (hrest ▸ hends) (not_ends_doubled_cons _ _ _ _)
  | cons c content ih =>
    cases content' with
    | nil =>
      have hrest : doubled quote (c :: content) ++ rest = rest' := h
      exact absurd (hrest ▸ hends') (not_ends_doubled_cons _ _ _ _)
    | cons d content' =>
      -- The first character of both is the same, and it is doubled in both or in neither.
      by_cases hc : c = quote
      · by_cases hd : d = quote
        · subst hc hd
          rw [doubled_cons_self, doubled_cons_self] at h
          have htail : doubled d content ++ rest = doubled d content' ++ rest' :=
            (List.cons.inj (List.cons.inj h).2).2
          obtain ⟨rfl, hrest⟩ := ih htail
          exact ⟨rfl, hrest⟩
        · rw [hc, doubled_cons_self, doubled_cons_of_ne hd] at h
          exact absurd (List.cons.inj h).1.symm hd
      · by_cases hd : d = quote
        · rw [hd, doubled_cons_self, doubled_cons_of_ne hc] at h
          exact absurd (List.cons.inj h).1 hc
        · rw [doubled_cons_of_ne hc, doubled_cons_of_ne hd] at h
          obtain ⟨rfl, htail⟩ := List.cons.inj h
          obtain ⟨rfl, hrest⟩ := ih htail
          exact ⟨rfl, hrest⟩

/-- The parts of a text make up the text. -/
theorem Lexes.flatMap_text (h : Lexes lexemes cs) : lexemes.flatMap Lexeme.text = cs := by
  induction h with
  | nil => rfl
  | mark _ ih => rw [List.flatMap_cons, ih]; rfl
  | plain _ _ _ ih => rw [List.flatMap_cons, ih]; rfl
  | quoted _ _ _ ih => rw [List.flatMap_cons, ih]; simp [Lexeme.text]
  | unclosed _ => simp [Lexeme.text]

/-- **There is one way to read a text.** -/
theorem Lexes.unique (h : Lexes lexemes cs) (h' : Lexes lexemes' cs) : lexemes = lexemes' := by
  -- On the first reading. The first character decides which kind of part the other one begins with.
  induction h generalizing lexemes' with
  | nil =>
    cases h'
    rfl
  | mark _ ih =>
    cases h' with
    | mark hrest => rw [ih hrest]
    | plain _ hmark => exact absurd rfl hmark
    | quoted hquote => exact absurd hquote (by decide)
    | unclosed hquote => exact absurd hquote (by decide)
  | plain hplain hmark _ ih =>
    cases h' with
    | mark => exact absurd rfl hmark
    | plain _ _ hrest => rw [ih hrest]
    | quoted hquote => exact absurd hquote (by rw [hplain]; decide)
    | unclosed hquote => exact absurd hquote (by rw [hplain]; decide)
  | @quoted quote content lexemes rest hquote hstop _ ih =>
    -- The text is told apart from the one of another reading by where its content ends.
    generalize htext : doubled quote content ++ quote :: rest = text at h'
    cases h' with
    | mark => exact absurd hquote (by decide)
    | plain hplain => exact absurd hquote (by rw [hplain]; decide)
    | quoted _ hstop' hrest' =>
      obtain ⟨rfl, hrest⟩ := doubled_append_inj htext (.closing hstop) (.closing hstop')
      obtain rfl := (List.cons.inj hrest).2
      rw [ih hrest']
    | @unclosed _ content' =>
      rw [← List.append_nil (doubled quote content')] at htext
      exact absurd (doubled_append_inj htext (.closing hstop) (.inl rfl)).2 (by simp)
  | @unclosed quote content hquote =>
    generalize htext : doubled quote content = text at h'
    rw [← List.append_nil (doubled quote content)] at htext
    cases h' with
    | mark => exact absurd hquote (by decide)
    | plain hplain => exact absurd hquote (by rw [hplain]; decide)
    | quoted _ hstop' =>
      exact absurd (doubled_append_inj htext (.inl rfl) (.closing hstop')).2 (by simp)
    | @unclosed _ content' =>
      rw [← List.append_nil (doubled quote content')] at htext
      rw [(doubled_append_inj htext (.inl rfl) (.inl rfl)).1]

/-! ### Following the open quote -/

/-- A question mark is no quote. -/
theorem ne_mark_of_isQuote (hquote : isQuote quote = true) : quote ≠ '?' := by
  rintro rfl
  exact absurd hquote (by decide)

/-- A quotation mark opens a quoted part. -/
theorem positionsFrom_open (hquote : isQuote quote = true) (start : Nat) (cs : List Char) :
    positionsFrom none start (quote :: cs) = positionsFrom (some quote) (start + 1) cs := by
  rw [positionsFrom]
  simp [ne_mark_of_isQuote hquote, nextQuote, hquote]

/-- The mark that opened a quoted part closes it. -/
theorem positionsFrom_close (quote : Char) (start : Nat) (cs : List Char) :
    positionsFrom (some quote) start (quote :: cs) = positionsFrom none (start + 1) cs := by
  rw [positionsFrom]
  simp [nextQuote]

/-- No other character inside a quoted part counts. -/
theorem positionsFrom_inside (hc : c ≠ quote) (start : Nat) (cs : List Char) :
    positionsFrom (some quote) start (c :: cs) = positionsFrom (some quote) (start + 1) cs := by
  rw [positionsFrom]
  simp [nextQuote, hc]

/-- Inside quotes there is no placeholder, and after content the quote is still open. A doubled
quote closes it and opens it again. -/
theorem positionsFrom_doubled (hquote : isQuote quote = true) (start : Nat)
    (content rest : List Char) :
    positionsFrom (some quote) start (doubled quote content ++ rest)
      = positionsFrom (some quote) (start + (doubled quote content).length) rest := by
  -- On the content: a quote takes two characters, any other one takes itself.
  induction content generalizing start with
  | nil => rfl
  | cons c content ih =>
    by_cases hc : c = quote
    · subst hc
      rw [doubled_cons_self, List.cons_append, List.cons_append, positionsFrom_close,
        positionsFrom_open hquote, ih, List.length_cons, List.length_cons]
      congr 1
      omega
    · rw [doubled_cons_of_ne hc, List.cons_append, positionsFrom_inside hc, ih, List.length_cons]
      congr 1
      omega

/-- **The placeholders are the marks** of the text as the grammar reads it. -/
theorem positionsFrom_of_lexes (h : Lexes lexemes cs) (start : Nat) :
    positionsFrom none start cs = markPositions start lexemes := by
  induction h generalizing start with
  | nil => rfl
  | mark _ ih =>
    rw [positionsFrom_cons (by decide), if_pos rfl, ih]
    rfl
  | plain hplain hmark _ ih =>
    rw [positionsFrom_cons hplain, if_neg hmark, ih]
    rfl
  | @quoted quote content lexemes rest hquote _ _ ih =>
    -- A quoted part is as wide as its content with the two quotes around it.
    have hwidth : (Lexeme.quoted quote content true).text.length
        = 1 + (doubled quote content).length + 1 := by
      simp [Lexeme.text]
      omega
    rw [positionsFrom_open hquote, positionsFrom_doubled hquote, positionsFrom_close, ih,
      markPositions, hwidth]
    · congr 1
      omega
    · exact nofun
  | @unclosed quote content hquote =>
    have hinside := positionsFrom_doubled hquote (start + 1) content []
    rw [List.append_nil] at hinside
    rw [positionsFrom_open hquote, hinside]
    rfl

theorem positions_of_lexes (h : Lexes lexemes cs) : positions cs = markPositions 0 lexemes :=
  positionsFrom_of_lexes h 0

end Grammar

/-! ### Slices -/

/-- The place of a character of a text, counted in bytes. -/
def offset (text : String) (i : Nat) : String.Pos.Raw :=
  ⟨String.utf8Len (text.toList.take i)⟩

/-- The part of a text between two places, counted in bytes. There is none if the places are out of
order, and none if one of them is behind the end of the text or inside a character. -/
def slice? (text : String) (start stop : String.Pos.Raw) : Option String :=
  if start ≤ stop ∧ start.IsValid text ∧ stop.IsValid text then
    some (String.Pos.Raw.extract text start stop)
  else none

/-- The slices of a text between places where one byte is left out. -/
def slicesFrom (text : String) (start : String.Pos.Raw) : List String.Pos.Raw → Option (List String)
  | [] => (slice? text start text.rawEndPos).map ([·])
  | place :: places =>
    (slice? text start place).bind fun slice =>
      (slicesFrom text ⟨place.byteIdx + 1⟩ places).map (slice :: ·)

/-- The slices of a text between its placeholders. -/
def slices? (text : String) : Option (List String) :=
  slicesFrom text 0 ((positions text.toList).map (offset text))

/-- Slices with marks between them. -/
def interleave (mark : Nat → String) (n : Nat) : List String → String
  | [] => ""
  | [slice] => slice
  | slice :: slices => slice ++ mark n ++ interleave mark (n + 1) slices

section Slices

variable {text : String} {before slice after : List Char}

/-- A position behind whole characters is one between characters. -/
theorem isValid_of_toList (h : text.toList = before ++ after) :
    String.Pos.Raw.IsValid text ⟨String.utf8Len before⟩ := by
  rw [String.Pos.Raw.isValid_iff_exists_append]
  refine ⟨String.ofList before, String.ofList after, ?_, (String.rawEndPos_ofList before).symm⟩
  rw [← String.ofList_append, ← h, String.ofList_toList]

/-- A slice between two characters is there. -/
theorem slice?_eq (h : text.toList = before ++ slice ++ after) :
    slice? text ⟨String.utf8Len before⟩ ⟨String.utf8Len (before ++ slice)⟩
      = some (String.ofList slice) := by
  have hstart : String.Pos.Raw.IsValid text ⟨String.utf8Len before⟩ :=
    isValid_of_toList (h.trans (List.append_assoc _ _ _))
  have hstop : String.Pos.Raw.IsValid text ⟨String.utf8Len (before ++ slice)⟩ :=
    isValid_of_toList h
  -- The two ends are beginnings of characters, in this order, and so the slice is cut.
  have horder :
      (⟨String.utf8Len before⟩ : String.Pos.Raw) ≤ ⟨String.utf8Len (before ++ slice)⟩ := by
    rw [String.Pos.Raw.mk_le_mk, String.utf8Len_append]
    exact Nat.le_add_right _ _
  have htext : text = String.ofList (before ++ slice ++ after) := by
    rw [← h, String.ofList_toList]
  rw [slice?, if_pos ⟨horder, hstart, hstop⟩, String.utf8Len_append, htext,
    String.extract_of_valid]

/-- The end of a text is behind all of its characters. -/
theorem rawEndPos_of_toList (h : text.toList = before) :
    text.rawEndPos = ⟨String.utf8Len before⟩ := by
  rw [← h, ← String.rawEndPos_ofList, String.ofList_toList]

/-- **All slices are there**, and the text is rendered by putting marks between them. It has been
read up to `before ++ slice`, and the last placeholder is at the end of `before`. -/
theorem slicesFrom_eq (quote : Option Char) (before slice after : List Char)
    (h : text.toList = before ++ slice ++ after) :
    ∃ slices, slicesFrom text ⟨String.utf8Len before⟩
        ((positionsFrom quote (before ++ slice).length after).map (offset text)) = some slices ∧
      slices.length = (positionsFrom quote (before ++ slice).length after).length + 1 ∧
      ∀ (mark : Nat → List Char) (n : Nat), String.ofList (slice ++ renderFrom mark quote n after)
        = interleave (fun k => String.ofList (mark k)) n slices := by
  -- On what has not been read. A placeholder ends a slice, any other character makes it longer.
  induction after generalizing quote before slice with
  | nil =>
    have hend := rawEndPos_of_toList h
    rw [List.append_nil] at hend
    refine ⟨[String.ofList slice], ?_, rfl, fun mark n => ?_⟩
    · rw [positionsFrom, List.map_nil, slicesFrom, hend, slice?_eq h]
      rfl
    · rw [renderFrom, List.append_nil]
      rfl
  | cons c after ih =>
    by_cases hmark : quote.isNone = true ∧ c = '?'
    · obtain ⟨hnone, rfl⟩ := hmark
      obtain rfl : quote = none := Option.isNone_iff_eq_none.mp hnone
      obtain ⟨slices, hslices, hlength, hrender⟩ :=
        ih none (before ++ slice ++ ['?']) [] (by rw [h]; simp)
      -- The placeholder ends the slice, and the next one begins behind it, with nothing read of it.
      have hplace : offset text (before ++ slice).length = ⟨String.utf8Len (before ++ slice)⟩ := by
        rw [offset, h, List.take_left]
      have hnext : (⟨String.utf8Len (before ++ slice) + 1⟩ : String.Pos.Raw)
          = ⟨String.utf8Len (before ++ slice ++ ['?'])⟩ := by
        rw [String.utf8Len_append (before ++ slice)]
        rfl
      have hpositions : positionsFrom none (before ++ slice).length ('?' :: after)
          = (before ++ slice).length ::
            positionsFrom none (before ++ slice ++ ['?'] ++ []).length after := by
        rw [positionsFrom_cons (by decide), if_pos rfl, List.append_nil,
          @List.length_append _ (before ++ slice)]
        rfl
      refine ⟨String.ofList slice :: slices, ?_, ?_, fun mark n => ?_⟩
      · rw [hpositions, List.map_cons, hplace, slicesFrom, slice?_eq h, Option.bind_some]
        rw [hnext, hslices]
        rfl
      · rw [hpositions, List.length_cons, List.length_cons, hlength]
      · -- There is one slice more than there are placeholders, so one stands behind the mark.
        have hne : slices ≠ [] := by
          intro hnil
          rw [hnil] at hlength
          exact absurd hlength (by simp)
        obtain ⟨first, others, rfl⟩ := List.exists_cons_of_ne_nil hne
        have hrest := hrender mark (n + 1)
        rw [List.nil_append] at hrest
        have hrendered : renderFrom mark none n ('?' :: after)
            = mark n ++ renderFrom mark none (n + 1) after := by
          rw [renderFrom]
          simp
        rw [hrendered, String.ofList_append, String.ofList_append, hrest, ← String.append_assoc]
        rfl
    · -- The character belongs to the slice that is being read.
      have hplain : (quote.isNone && c == '?') = false := by
        rw [Bool.and_eq_false_iff, beq_eq_false_iff_ne, ← Bool.not_eq_true]
        exact Classical.not_and_iff_not_or_not.mp hmark
      obtain ⟨slices, hslices, hlength, hrender⟩ :=
        ih (nextQuote quote c) before (slice ++ [c]) (by rw [h]; simp)
      have hpositions : positionsFrom quote (before ++ slice).length (c :: after)
          = positionsFrom (nextQuote quote c) (before ++ (slice ++ [c])).length after := by
        rw [positionsFrom, if_neg (by rw [hplain]; decide), ← List.append_assoc,
          @List.length_append _ (before ++ slice)]
        rfl
      refine ⟨slices, ?_, ?_, fun mark n => ?_⟩
      · rw [hpositions, hslices]
      · rw [hpositions, hlength]
      · rw [renderFrom, if_neg (by rw [hplain]; decide), ← hrender mark n, List.append_assoc]
        rfl

end Slices

/-! ### Rendering again -/

/-- The text neither is nor hides a placeholder. -/
def Bare (cs : List Char) : Prop :=
  ∀ c ∈ cs, c ≠ '?' ∧ isQuote c = false

/-- Rendering has nothing to do on the text. -/
structure Settled (text : String) : Prop where
  count : Placeholder.count text = 0
  render (style : PlaceholderStyle) : Placeholder.render style text = text
  renderCast (cast : Nat → Option String) : Placeholder.renderCast cast text = text

section Again

variable {mark : Nat → List Char} {text : String}

theorem Bare.unquoted {cs : List Char} (h : Bare cs) : Unquoted cs :=
  fun c hc => (h c hc).2

/-- A bare text has no placeholder. -/
theorem Bare.positionsFrom_eq_nil {cs : List Char} (h : Bare cs) (start : Nat) :
    positionsFrom none start cs = [] := by
  rw [← List.length_eq_zero_iff, length_positionsFrom h.unquoted, List.count_eq_zero]
  intro hmem
  exact (h '?' hmem).1 rfl

/-- **No placeholder is left** where the marks bring none in. -/
theorem positionsFrom_renderFrom (hmark : ∀ n, Bare (mark n)) (quote : Option Char)
    (start n : Nat) (cs : List Char) :
    positionsFrom quote start (renderFrom mark quote n cs) = [] := by
  induction cs generalizing quote start n with
  | nil => rfl
  | cons c cs ih =>
    by_cases hc : (quote.isNone && c == '?') = true
    · have hnone : quote = none := Option.isNone_iff_eq_none.mp (Bool.and_eq_true_iff.mp hc).1
      subst hnone
      rw [renderFrom, if_pos hc, positionsFrom_append (hmark n).unquoted,
        (hmark n).positionsFrom_eq_nil, List.nil_append]
      exact ih none _ _
    · -- What is copied leaves the same quote open in both texts.
      rw [renderFrom, if_neg hc, positionsFrom, if_neg hc]
      exact ih _ _ _

/-- Rendering copies a text without placeholders. -/
theorem renderFrom_of_positionsFrom (mark : Nat → List Char) {quote : Option Char} {start : Nat}
    {cs : List Char} (h : positionsFrom quote start cs = []) (n : Nat) :
    renderFrom mark quote n cs = cs := by
  induction cs generalizing quote start with
  | nil => rfl
  | cons c cs ih =>
    by_cases hc : (quote.isNone && c == '?') = true
    · rw [positionsFrom, if_pos hc] at h
      exact absurd h (by simp)
    · rw [positionsFrom, if_neg hc] at h
      rw [renderFrom, if_neg hc, ih h]

/-- A text without placeholders is not changed. -/
theorem settled_of_count (h : count text = 0) : Settled text := by
  have hpositions : positionsFrom none 0 text.toList = [] := List.length_eq_zero_iff.mp h
  have hsame : ∀ mark, String.ofList (renderFrom mark none 0 text.toList) = text := by
    intro mark
    rw [renderFrom_of_positionsFrom mark hpositions, String.ofList_toList]
  refine ⟨h, fun style => ?_, fun cast => hsame _⟩
  cases style with
  | question => rfl
  | dollar => exact hsame _
  | colon => exact hsame _

/-- A text in which all placeholders became bare marks has none left. -/
theorem settled_of_bare (hmark : ∀ n, Bare (mark n)) (text : String) :
    Settled (String.ofList (renderFrom mark none 0 text.toList)) := by
  apply settled_of_count
  rw [count, positions, String.toList_ofList, positionsFrom_renderFrom hmark]
  rfl

/-- A digit is neither a placeholder nor a quotation mark. -/
theorem ne_mark_of_isDigit {c : Char} (h : isDigit c = true) : c ≠ '?' ∧ isQuote c = false := by
  refine ⟨?_, Bool.eq_false_iff.mpr fun hquote => ?_⟩
  · rintro rfl
    exact absurd h (by decide)
  · simp only [isQuote, Bool.or_eq_true, beq_iff_eq] at hquote
    rcases hquote with (rfl | rfl) | rfl <;> exact absurd h (by decide)

/-- A number with its sign and a cast without quotes and question marks. -/
theorem bare_numbered {sign : Char} {cast : Nat → Option String}
    (hsign : sign ≠ '?' ∧ isQuote sign = false)
    (hcast : ∀ n type, cast n = some type → Bare type.toList) (n : Nat) :
    Bare (numbered sign cast n) := by
  intro c hc
  -- The sign, a digit of the number, or a character of the cast.
  rcases List.mem_cons.mp hc with rfl | hc
  · exact hsign
  rcases List.mem_append.mp hc with hdigit | htype
  · exact ne_mark_of_isDigit (isDigit_of_mem_natDigits hdigit)
  · cases hn : cast n with
    | none =>
      rw [hn] at htype
      exact absurd htype (by simp)
    | some type =>
      rw [hn] at htype
      rcases List.mem_cons.mp htype with rfl | htype
      · decide
      rcases List.mem_cons.mp htype with rfl | htype
      · decide
      exact hcast n type hn c htype

end Again

/-! ### Rendering -/

/-- What a cast adds to a mark. -/
def castSuffix : Option String → String
  | some type => "::" ++ type
  | none => ""

/-- A mark is its sign, the number of the placeholder, and the cast. -/
theorem ofList_numbered (sign : Char) (cast : Nat → Option String) (n : Nat) :
    String.ofList (numbered sign cast n)
      = String.singleton sign ++ natText (n + 1) ++ castSuffix (cast n) := by
  apply String.toList_injective
  rw [String.toList_append, String.toList_append, String.toList_ofList, natText,
    String.toList_ofList, numbered]
  cases cast n with
  | none => simp [castSuffix]
  | some type => simp [castSuffix]

/-- **Rendering rewrites the placeholders and nothing else.** The placeholders of a text are the
question marks outside quoted parts, by the one way in which the text can be read. The slices
between them can be cut, and the rendered text consists of these slices in their order, with the
sign and the number of each placeholder between them, and with its cast if there is one. A text
without placeholders is not changed, and a text that has been rendered has none, if the casts bring
none in. -/
theorem rendering_rewrites_placeholders (text : String) :
    (∃ lexemes, Lexes lexemes text.toList ∧ lexemes.flatMap Lexeme.text = text.toList ∧
      (∀ other, Lexes other text.toList → other = lexemes) ∧
      positions text.toList = markPositions 0 lexemes) ∧
    (∃ slices, slices? text = some slices ∧ slices.length = count text + 1 ∧
      render .dollar text = interleave (fun n => "$" ++ natText (n + 1)) 0 slices ∧
      render .colon text = interleave (fun n => ":" ++ natText (n + 1)) 0 slices ∧
      ∀ cast, renderCast cast text
        = interleave (fun n => "$" ++ natText (n + 1) ++ castSuffix (cast n)) 0 slices) ∧
    render .question text = text ∧
    (count text = 0 → Settled text) ∧
    Settled (render .dollar text) ∧ Settled (render .colon text) ∧
    ∀ cast : Nat → Option String, (∀ n type, cast n = some type → Bare type.toList) →
      Settled (renderCast cast text) := by
  refine ⟨?_, ?_, rfl, settled_of_count, ?_, ?_, ?_⟩
  · obtain ⟨lexemes, hlexemes⟩ := exists_lexes text.toList
    exact ⟨lexemes, hlexemes, hlexemes.flatMap_text, fun _ hother => hother.unique hlexemes,
      positions_of_lexes hlexemes⟩
  · obtain ⟨slices, hslices, hlength, hrender⟩ :=
      @slicesFrom_eq text none [] [] text.toList rfl
    -- All styles are one rendering, with a sign and a cast of their own.
    have hnumbered : ∀ sign cast, String.ofList (renderFrom (numbered sign cast) none 0 text.toList)
        = interleave (fun n => String.singleton sign ++ natText (n + 1) ++ castSuffix (cast n)) 0
          slices := by
      intro sign cast
      have hmarks : (fun n => String.ofList (numbered sign cast n))
          = fun n => String.singleton sign ++ natText (n + 1) ++ castSuffix (cast n) :=
        funext fun n => ofList_numbered sign cast n
      rw [← hmarks, ← hrender, List.nil_append]
    have hplain : ∀ sign, String.ofList
        (renderFrom (numbered sign fun _ => none) none 0 text.toList)
        = interleave (fun n => String.singleton sign ++ natText (n + 1)) 0 slices := by
      intro sign
      rw [hnumbered]
      simp [castSuffix]
    exact ⟨slices, hslices, hlength, hplain '$', hplain ':', hnumbered '$'⟩
  · exact settled_of_bare (bare_numbered (by decide) (by simp)) text
  · exact settled_of_bare (bare_numbered (by decide) (by simp)) text
  · intro cast hcast
    exact settled_of_bare (bare_numbered (by decide) hcast) text

/-- A condition with a doubled quote, and with a question mark inside quotes behind a character of
two bytes. -/
def reminder : String := "note = 'it''s é?' AND due = ? AND id = ?"

/-- A cast for the first placeholder. -/
def dueCast : Nat → Option String
  | 0 => some "timestamptz"
  | _ + 1 => none

/-- The two placeholders outside quotes are rewritten, and are no placeholders any more. -/
theorem reminder_rendering :
    positions reminder.toList = [28, 39] ∧
    (∀ n type, dueCast n = some type → Bare type.toList) ∧
    renderCast dueCast reminder = "note = 'it''s é?' AND due = $1::timestamptz AND id = $2" ∧
    Settled (renderCast dueCast reminder) := by
  -- The one cast that there is has neither a quote nor a question mark.
  have hcast : ∀ n type, dueCast n = some type → Bare type.toList := by
    intro n type htype
    cases n with
    | zero =>
      obtain rfl : "timestamptz" = type := Option.some.inj htype
      intro c hc
      have hall : ("timestamptz".toList.all fun c => c ≠ '?' ∧ isQuote c = false) = true := by
        decide
      exact of_decide_eq_true (List.all_eq_true.mp hall c hc)
    | succ n => exact absurd htype nofun
  have htext : renderCast dueCast reminder
      = "note = 'it''s é?' AND due = $1::timestamptz AND id = $2" := by
    have hone : natDigits 1 = ['1'] := by rw [natDigits]; rfl
    have htwo : natDigits 2 = ['2'] := by rw [natDigits]; rfl
    -- Everything but the digits of the numbers is read off the text.
    change String.ofList ("note = 'it''s é?' AND due = ".toList ++ numbered '$' dueCast 0 ++
      (" AND id = ".toList ++ numbered '$' dueCast 1 ++ [])) = _
    rw [numbered, numbered, hone, htwo]
    rfl
  obtain ⟨-, -, -, -, -, -, hsettled⟩ := rendering_rewrites_placeholders reminder
  exact ⟨by decide, hcast, htext, hsettled dueCast hcast⟩

end Placeholder

end StoreBridge
