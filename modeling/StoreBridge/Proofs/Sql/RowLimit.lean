import StoreBridge.Proofs.Sql.Classification

/-!
# Where a row limit is rewritten

Oracle gets the text with numbered placeholders, in which a limit clause at the end is replaced.
Three things make it certain that the clause is hit and nothing else:

* what is written in front of a limit ends in a word that is no number, a name, a placeholder, the
  direction of a sort, or a parenthesis (`Statement.endsInWord_unlimited`). So a statement without a
  limit has no clause, whatever its table and its columns are called, and one with a limit has that
  one;
* no part of a limit clause can come from a placeholder or from a mark, because a mark has a sign
  and a clause begins with a blank (`Placeholder.renderFrom_eq_append`). So a clause is found before
  rendering exactly where it is found after it (`split?_renderFrom`);
* the result ends in a word (`endsInWord_replaced`), so that it has no clause any more.

The text is cut by bytes, five before the end of its head. `fetchFirstByBytes?` has no answer if
such a cut falls inside a character; it always has one (`fetchFirstByBytes?_eq`), because the cut is
only made where five bytes that spell the word have been found behind it.
-/

namespace StoreBridge

/-! ### What rendering leaves in its place -/

namespace Placeholder

variable {mark : Nat → List Char} {quote : Option Char} {cs before ys : List Char} {c : Char}

/-- One character is rendered: a placeholder outside of quotes becomes its mark, all others stay. -/
theorem renderFrom_cons (mark : Nat → List Char) (quote : Option Char) (n : Nat) (c : Char)
    (cs : List Char) : renderFrom mark quote n (c :: cs) =
      if quote.isNone && c == '?' then mark n ++ renderFrom mark quote (n + 1) cs
      else c :: renderFrom mark (nextQuote quote c) n cs :=
  rfl

/-- Behind the last placeholder a text is copied. -/
theorem renderFrom_append (mark : Nat → List Char) (quote : Option Char) (n : Nat)
    (xs : List Char) (hys : '?' ∉ ys) :
    renderFrom mark quote n (xs ++ ys) = renderFrom mark quote n xs ++ ys := by
  -- On the front; behind it every character is copied, in quotes or not.
  induction xs generalizing quote n with
  | nil =>
    induction ys generalizing quote with
    | nil => rfl
    | cons c cs ih =>
      rw [List.mem_cons, not_or] at hys
      have hc : (quote.isNone && c == '?') = false := by
        rw [Bool.and_eq_false_iff, beq_eq_false_iff_ne]
        exact .inr (Ne.symm hys.1)
      rw [List.nil_append, renderFrom_cons, hc, if_neg Bool.false_ne_true]
      exact congrArg (c :: ·) (ih hys.2 _)
  | cons c cs ih =>
    rw [List.cons_append, renderFrom_cons, renderFrom_cons]
    split
    · rw [ih, List.append_assoc]
    · rw [ih, List.cons_append]

/-- The last character is copied or makes room for a mark. -/
theorem renderFrom_concat (mark : Nat → List Char) (quote : Option Char) (n : Nat)
    (xs : List Char) (c : Char) :
    renderFrom mark quote n (xs ++ [c]) = renderFrom mark quote n xs ++ [c] ∨
      ∃ k, renderFrom mark quote n (xs ++ [c]) = renderFrom mark quote n xs ++ mark k := by
  -- On the characters in front, which leave a quote open or not, and a number of marks.
  induction xs generalizing quote n with
  | nil =>
    rw [List.nil_append, renderFrom_cons]
    split
    · exact .inr ⟨n, List.append_nil _⟩
    · exact .inl rfl
  | cons d xs ih =>
    rw [List.cons_append, renderFrom_cons, renderFrom_cons]
    split
    · rcases ih quote (n + 1) with h | ⟨k, h⟩
      · exact .inl (by rw [h, List.append_assoc])
      · exact .inr ⟨k, by rw [h, List.append_assoc]⟩
    · rcases ih (nextQuote quote d) n with h | ⟨k, h⟩
      · exact .inl (by rw [h, List.cons_append])
      · exact .inr ⟨k, by rw [h, List.cons_append]⟩

/-- A rendered text without marks is the text. -/
theorem renderFrom_eq_self {P : Char → Prop} (hmark : ∀ n, ∃ d ∈ mark n, ¬ P d) (n : Nat)
    (h : ∀ d ∈ renderFrom mark quote n cs, P d) : renderFrom mark quote n cs = cs := by
  induction cs generalizing quote n with
  | nil => rfl
  | cons c cs ih =>
    rw [renderFrom_cons] at h ⊢
    split at h
    · -- A mark would have brought in a character without the property.
      obtain ⟨d, hd, hP⟩ := hmark n
      exact absurd (h d (List.mem_append_left _ hd)) hP
    · next hc =>
      rw [if_neg hc, ih n fun d hd => h d (List.mem_cons_of_mem _ hd)]

/-- **A text behind a character that is in no mark.** If nothing from there on is in a mark, all of
it has been copied. -/
theorem renderFrom_eq_append {P : Char → Prop} (hmark : ∀ n, ∃ d ∈ mark n, ¬ P d)
    (hc : ∀ n, c ∉ mark n) (hys : ∀ d ∈ ys, P d) (n : Nat)
    (h : renderFrom mark quote n cs = before ++ c :: ys) :
    ∃ front, cs = front ++ c :: ys ∧ renderFrom mark quote n front = before := by
  induction cs generalizing quote n before with
  | nil =>
    rw [renderFrom] at h
    exact absurd h.symm (by simp)
  | cons d cs ih =>
    by_cases hd : (quote.isNone && d == '?') = true
    · rw [renderFrom, if_pos hd] at h
      -- The mark stands in front of the character, which is no part of it.
      obtain ⟨rest, rfl, hrest⟩ : ∃ rest, before = mark n ++ rest ∧
          renderFrom mark quote (n + 1) cs = rest ++ c :: ys := by
        rcases List.append_eq_append_iff.mp h with ⟨rest, hbefore, hrest⟩ | ⟨rest, hwhole, hrest⟩
        · exact ⟨rest, hbefore, hrest⟩
        · cases rest with
          | nil => exact ⟨[], by rw [hwhole, List.append_nil, List.append_nil], hrest.symm⟩
          | cons e rest =>
            obtain ⟨rfl, -⟩ := List.cons.inj hrest
            exact absurd (by rw [hwhole]; simp) (hc n)
      obtain ⟨front, rfl, hfront⟩ := ih (n + 1) hrest
      refine ⟨d :: front, rfl, ?_⟩
      rw [renderFrom, if_pos hd, hfront]
    · -- A copied character is the one that is looked for, or it stands in front of it.
      rw [renderFrom, if_neg hd] at h
      cases before with
      | nil =>
        obtain ⟨rfl, htail⟩ := List.cons.inj h
        have hself := renderFrom_eq_self hmark n (by rw [htail]; exact hys)
        exact ⟨[], by rw [← htail, hself]; rfl, rfl⟩
      | cons e before =>
        obtain ⟨rfl, htail⟩ := List.cons.inj h
        obtain ⟨front, rfl, hfront⟩ := ih n htail
        refine ⟨d :: front, rfl, ?_⟩
        rw [renderFrom, if_neg hd, hfront]

end Placeholder

namespace RowLimit

open Placeholder (renderFrom numbered)

/-! ### Clauses and marks -/

/-- A character that can stand in a limit clause. -/
def IsClauseChar (c : Char) : Prop :=
  isBlank c = true ∨ isWordStart c = true ∨ isDigit c = true

/-- No clause has a question mark. -/
theorem ne_mark_of_isClauseChar {c : Char} (h : IsClauseChar c) : c ≠ '?' := by
  rintro rfl
  exact absurd h (by unfold IsClauseChar; decide)

/-- A limit clause is made of blanks, letters and digits. -/
theorem LimitClause.isClauseChar {count clause : List Char} (h : LimitClause count clause) :
    ∀ c ∈ clause, IsClauseChar c := by
  obtain ⟨-, hgap, hword, hblanks, -, hcount, hrest⟩ := h
  have hletters := isWordStart_of_sameIgnoringCase hword keyword_letters
  intro c hc
  simp only [List.mem_append, List.mem_cons] at hc
  rcases hc with hc | hc | hc | rfl | hc | hc
  · exact .inl (hgap c hc)
  · exact .inr (.inl (hletters c hc))
  · exact .inl (hblanks c hc)
  · exact .inl rfl
  · exact .inr (.inr (hcount c hc))
  · exact .inl (hrest c hc)

/-- A limit clause begins with a blank. -/
theorem LimitClause.exists_cons {count clause : List Char} (h : LimitClause count clause) :
    ∃ c rest, clause = c :: rest ∧ isBlank c = true := by
  obtain ⟨hgap_ne, hgap, -⟩ := h
  obtain ⟨c, gap, rfl⟩ := List.exists_cons_of_ne_nil hgap_ne
  exact ⟨c, _, rfl, hgap c List.mem_cons_self⟩

/-- A mark with a sign that is in no clause, and without blanks. -/
structure IsMark (mark : List Char) : Prop where
  sign : ∃ c ∈ mark, ¬ IsClauseChar c
  isBlank_eq : ∀ c ∈ mark, isBlank c = false

/-- The numbered marks of Oracle are marks. -/
theorem isMark_numbered (n : Nat) : IsMark (numbered ':' (fun _ => none) n) where
  sign := ⟨':', List.mem_cons_self, by unfold IsClauseChar; decide⟩
  isBlank_eq c hc := by
    rw [numbered, List.append_nil] at hc
    rcases List.mem_cons.mp hc with rfl | hc
    · decide
    · exact isBlank_of_isDigit (isDigit_of_mem_natDigits hc)

section Render

variable {mark : Nat → List Char}

/-- Rendering neither brings blanks to the end of a text nor takes them away. -/
theorem getLast?_renderFrom_iff (hmark : ∀ n, IsMark (mark n)) (xs : List Char) :
    (∀ c ∈ (renderFrom mark none 0 xs).getLast?, isBlank c = false) ↔
      ∀ c ∈ xs.getLast?, isBlank c = false := by
  rcases List.eq_nil_or_concat xs with rfl | ⟨front, c, rfl⟩
  · rfl
  rw [List.concat_eq_append, List.getLast?_concat]
  by_cases hc : c = '?'
  · subst hc
    have hlast : ∀ c ∈ some '?', isBlank c = false := by
      rintro c ⟨⟩
      rfl
    refine iff_of_true ?_ hlast
    -- The last character may become a mark, and no mark ends with a blank.
    rcases Placeholder.renderFrom_concat mark none 0 front '?' with h | ⟨k, h⟩
    · rw [h, List.getLast?_concat]
      exact hlast
    · rw [h]
      obtain ⟨sign, hsign, -⟩ := (hmark k).sign
      exact getLast?_append_forall (List.ne_nil_of_mem hsign) (hmark k).isBlank_eq
  · rw [Placeholder.renderFrom_append mark none 0 front (by simpa using Ne.symm hc),
      List.getLast?_concat]

/-- **A clause is found before rendering where it is found after it.** -/
theorem split?_renderFrom (hmark : ∀ n, IsMark (mark n)) (cs : List Char) :
    split? (renderFrom mark none 0 cs) =
      (split? cs).map fun (before, count) => (renderFrom mark none 0 before, count) := by
  refine Option.ext fun ⟨before, count⟩ => ?_
  rw [Option.map_eq_some_iff]
  constructor
  · intro h
    obtain ⟨hbefore, clause, hclause, htext⟩ := split?_eq_some_iff.mp h
    have hchars := hclause.isClauseChar
    obtain ⟨b, rest, rfl, hb⟩ := hclause.exists_cons
    -- The clause begins with a blank, which no mark has, so it was copied as a whole.
    have hnot : ∀ n, b ∉ mark n :=
      fun n hmem => absurd hb (by rw [(hmark n).isBlank_eq b hmem]; decide)
    obtain ⟨front, rfl, rfl⟩ := Placeholder.renderFrom_eq_append (fun n => (hmark n).sign) hnot
      (List.forall_mem_cons.mp hchars).2 0 htext
    have hfront := (getLast?_renderFrom_iff hmark front).mp hbefore
    exact ⟨(front, count), split?_eq_some_iff.mpr ⟨hfront, _, hclause, rfl⟩, rfl⟩
  · rintro ⟨⟨front, count'⟩, h, heq⟩
    obtain ⟨rfl, rfl⟩ := Prod.mk.inj heq
    obtain ⟨hfront, clause, hclause, rfl⟩ := split?_eq_some_iff.mp h
    -- The other way round, a clause has no placeholder and stays at the end.
    have hmarks : '?' ∉ clause :=
      fun hmem => ne_mark_of_isClauseChar (hclause.isClauseChar _ hmem) rfl
    rw [Placeholder.renderFrom_append mark none 0 front hmarks]
    exact split?_eq_some_iff.mpr
      ⟨(getLast?_renderFrom_iff hmark front).mpr hfront, clause, hclause, rfl⟩

end Render

/-! ### Rewriting -/

/-- The text in which the clause is replaced. -/
def replaced (before count : List Char) : List Char :=
  before ++ " FETCH FIRST ".toList ++ count ++ " ROWS ONLY".toList

/-- The rewriting by characters. -/
theorem toList_fetchFirst (text : String) :
    (fetchFirst text).toList = match split? text.toList with
      | some (before, count) => replaced before count
      | none => text.toList := by
  unfold fetchFirst
  cases split? text.toList with
  | none => rfl
  | some parts => exact String.toList_ofList

/-- A text without a limit clause stays as it is. -/
theorem fetchFirst_of_split?_eq_none {text : String} (h : split? text.toList = none) :
    fetchFirst text = text := by
  rw [fetchFirst, h]

/-- The clause of Oracle ends in a word. -/
theorem endsInWord_replaced (before count : List Char) : EndsInWord (replaced before count) := by
  have hword : replaced before count
      = (before ++ " FETCH FIRST ".toList ++ count ++ " ROWS ".toList) ++ "ONLY".toList := by
    rw [replaced, List.append_assoc _ " ROWS ".toList]
    rfl
  rw [hword]
  exact .of_word _ (by decide) (by decide)

/-- **Rewriting again changes nothing.** -/
theorem fetchFirst_fetchFirst (text : String) : fetchFirst (fetchFirst text) = fetchFirst text := by
  cases h : split? text.toList with
  | none => rw [fetchFirst_of_split?_eq_none h, fetchFirst_of_split?_eq_none h]
  | some parts =>
    apply fetchFirst_of_split?_eq_none
    rw [toList_fetchFirst, h]
    exact split?_eq_none_of_endsInWord (endsInWord_replaced _ _)

theorem toList_render_colon (text : String) : (Placeholder.render .colon text).toList
    = renderFrom (numbered ':' fun _ => none) none 0 text.toList :=
  String.toList_ofList

/-- **The clause may be rewritten before or after the placeholders.** -/
theorem fetchFirst_render_colon (text : String) :
    fetchFirst (Placeholder.render .colon text) = Placeholder.render .colon (fetchFirst text) := by
  apply String.toList_injective
  rw [toList_fetchFirst, toList_render_colon, toList_render_colon,
    split?_renderFrom isMark_numbered, toList_fetchFirst]
  cases h : split? text.toList with
  | none => rfl
  | some parts =>
    obtain ⟨before, count⟩ := parts
    obtain ⟨-, clause, hclause, -⟩ := split?_eq_some_iff.mp h
    -- What takes the place of the clause has no placeholder either.
    have hmarks : '?' ∉ " FETCH FIRST ".toList ++ (count ++ " ROWS ONLY".toList) := by
      rw [List.mem_append, List.mem_append]
      rintro (hmem | hmem | hmem)
      · exact absurd hmem (by decide)
      · exact absurd (hclause.isDigit _ hmem) (by decide)
      · exact absurd hmem (by decide)
    simp only [Option.map_some, replaced, List.append_assoc]
    rw [Placeholder.renderFrom_append _ none 0 before hmarks]

/-! ### Cutting by bytes -/

open Placeholder (slice?)

/-- The rewriting of a limit clause with cuts by bytes. Five bytes before its end the head of the
text is cut, and there is no answer if that cut is made inside a character. Whether the last five
bytes are the word is tested before, and the test fails where they are no text of their own. -/
def fetchFirstByBytes? (text : String) : Option String :=
  match splitAtLast ' ' (trimEnd text.toList) with
  | none => some text
  | some (head, count) =>
    if count.isEmpty || !count.all isDigit then some text
    else
      let head := String.ofList (trimEnd head)
      if head.utf8ByteSize < keyword.length then some text
      else
        -- The word is compared first; only then is the text in front of it cut out.
        let cut : String.Pos.Raw := ⟨head.utf8ByteSize - keyword.length⟩
        match slice? head cut head.rawEndPos with
        | none => some text
        | some word =>
          if sameIgnoringCase word.toList keyword then
            (slice? head 0 cut).map fun before =>
              if before.toList.getLast?.any isBlank then
                String.ofList (replaced (trimEnd before.toList) count)
              else text
          else some text

section LastBytes

variable {word cs : List Char}

/-- The place before the last bytes of a text, as many as the word has letters. -/
def lastCut (word cs : List Char) : String.Pos.Raw :=
  ⟨(String.ofList cs).utf8ByteSize - word.length⟩

/-- **A text that ends in the word** can be cut in front of it. -/
theorem slice?_of_sameIgnoringCase (hword : ∀ c ∈ word, isWordStart c = true)
    (h : sameIgnoringCase (cs.drop (cs.length - word.length)) word = true) :
    word.length ≤ (String.ofList cs).utf8ByteSize ∧
      slice? (String.ofList cs) (lastCut word cs) (String.ofList cs).rawEndPos
        = some (String.ofList (cs.drop (cs.length - word.length))) ∧
      slice? (String.ofList cs) 0 (lastCut word cs)
        = some (String.ofList (cs.take (cs.length - word.length))) := by
  have hlength := length_of_sameIgnoringCase h
  have hwidth := utf8Len_of_isWordStart (isWordStart_of_sameIgnoringCase h hword)
  generalize cs.length - word.length = k at *
  -- The word has as many bytes as letters, so cutting it off by bytes cuts in front of it.
  have hsize : (String.ofList cs).utf8ByteSize = String.utf8Len (cs.take k) + word.length := by
    calc (String.ofList cs).utf8ByteSize = String.utf8Len cs :=
          congrArg String.Pos.Raw.byteIdx (String.rawEndPos_ofList cs)
      _ = String.utf8Len (cs.take k ++ cs.drop k) := by rw [List.take_append_drop]
      _ = String.utf8Len (cs.take k) + word.length := by
          rw [String.utf8Len_append, hwidth, hlength]
  have hcut : lastCut word cs = ⟨String.utf8Len (cs.take k)⟩ := by
    rw [lastCut, hsize, Nat.add_sub_cancel]
  have hend : (String.ofList cs).rawEndPos = ⟨String.utf8Len (cs.take k ++ cs.drop k)⟩ := by
    rw [List.take_append_drop, String.rawEndPos_ofList]
  refine ⟨by rw [hsize]; exact Nat.le_add_left _ _, ?_, ?_⟩
  · rw [hcut, hend]
    refine Placeholder.slice?_eq (?_ : _ = _ ++ _ ++ [])
    rw [String.toList_ofList, List.append_nil, List.take_append_drop]
  · rw [hcut]
    refine Placeholder.slice?_eq (?_ : _ = [] ++ _ ++ cs.drop k)
    rw [String.toList_ofList, List.nil_append, List.take_append_drop]

/-- **A text whose last bytes spell the word** ends in it. -/
theorem sameIgnoringCase_of_slice? {last : String}
    (hslice : slice? (String.ofList cs) (lastCut word cs) (String.ofList cs).rawEndPos = some last)
    (hlast : sameIgnoringCase last.toList word = true) :
    sameIgnoringCase (cs.drop (cs.length - word.length)) word = true := by
  -- The cut falls between two characters, or there would be no slice.
  have hvalid : (lastCut word cs).IsValid (String.ofList cs) := by
    unfold Placeholder.slice? at hslice
    split at hslice
    · next h => exact h.2.1
    · exact absurd hslice nofun
  obtain ⟨front, rest, htext, hfront⟩ := String.Pos.Raw.isValid_iff_exists_append.mp hvalid
  have hcs : cs = front.toList ++ rest.toList := by
    rw [← String.toList_append, ← htext, String.toList_ofList]
  have hplace : lastCut word cs = ⟨String.utf8Len front.toList⟩ := by
    rw [hfront, Placeholder.rawEndPos_of_toList rfl]
  have hend : (String.ofList cs).rawEndPos = ⟨String.utf8Len (front.toList ++ rest.toList)⟩ := by
    rw [← hcs, String.rawEndPos_ofList]
  -- The slice behind the cut is the rest of the text, so that is what was compared.
  have hcut : slice? (String.ofList cs) (lastCut word cs) (String.ofList cs).rawEndPos
      = some rest := by
    have htext : (String.ofList cs).toList = front.toList ++ rest.toList ++ [] := by
      rw [String.toList_ofList, List.append_nil, hcs]
    rw [hplace, hend, Placeholder.slice?_eq htext, String.ofList_toList]
  obtain rfl : rest = last := Option.some.inj (hcut.symm.trans hslice)
  have hlength := length_of_sameIgnoringCase hlast
  rw [hcs, List.length_append, hlength, Nat.add_sub_cancel, List.drop_left]
  exact hlast

end LastBytes

/-- **No cut is made inside a character**, and cutting by bytes gives the same text. -/
theorem fetchFirstByBytes?_eq (text : String) :
    fetchFirstByBytes? text = some (fetchFirst text) := by
  unfold fetchFirstByBytes? fetchFirst split?
  cases splitAtLast ' ' (trimEnd text.toList) with
  | none => rfl
  | some parts =>
    obtain ⟨head, count⟩ := parts
    simp only [bind, Option.bind_some]
    generalize trimEnd head = head
    cases hdigits : (count.isEmpty || !count.all isDigit) with
    | true => rfl
    | false =>
      simp only [Bool.false_eq_true, if_false]
      cases hword : sameIgnoringCase (head.drop (head.length - keyword.length)) keyword with
      | true =>
        -- The head ends in the word, and cutting in front of it gives both slices.
        obtain ⟨hsize, hlast, hbefore⟩ := slice?_of_sameIgnoringCase keyword_letters hword
        unfold lastCut at hlast hbefore
        simp only [Nat.not_lt.mpr hsize, if_false, hlast, hbefore, String.toList_ofList, hword,
          if_true, Option.map_some, Bool.true_and]
        cases (head.take (head.length - keyword.length)).getLast?.any isBlank <;> rfl
      | false =>
        -- The head is too short, cannot be cut, or ends in another word.
        simp only [Bool.false_and, Bool.false_eq_true, if_false]
        split
        · rfl
        · split
          · rfl
          · next last hslice =>
            cases hlast : sameIgnoringCase last.toList keyword with
            | true => exact absurd (sameIgnoringCase_of_slice? hslice hlast) (by rw [hword]; decide)
            | false => rfl

end RowLimit

/-! ### How statements end -/

open RowLimit (EndsInWord)

/-- A name ends in a word that is no number: it has no blanks, and its first word does not begin
with a digit. -/
theorem endsInWord_of_isIdentifier {name : String} (h : isIdentifier name = true) :
    EndsInWord name.toList := by
  refine ⟨[], name.toList, rfl, fun c hc => ?_, ?_⟩
  · have hchar := isNameChar_of_isIdentifier h c hc
    simp only [isNameChar, isWordPart, Bool.or_eq_true, beq_iff_eq] at hchar
    rcases hchar with (hletter | hdigit) | rfl
    · exact isBlank_of_isWordStart hletter
    · exact RowLimit.isBlank_of_isDigit hdigit
    · decide
  · -- The first word of the name begins with a letter or an underscore.
    obtain ⟨word, words, hwords⟩ := List.exists_cons_of_ne_nil (splitOnChar_ne_nil '.' name.toList)
    have hword : isWord word = true :=
      List.all_eq_true.mp h word (by rw [hwords]; exact List.mem_cons_self)
    cases word with
    | nil => exact absurd hword (by decide)
    | cons c cs =>
      refine ⟨c, ?_, ?_⟩
      · rw [← joinWith_splitOnChar '.' name.toList, hwords, joinWith_cons]
        exact List.mem_append_left _ List.mem_cons_self
      · have hrange := toNat_of_isWordStart (Bool.and_eq_true_iff.mp hword).1
        rw [Bool.eq_false_iff]
        intro hdigit
        have hdigits := toNat_of_isDigit hdigit
        omega

/-- Joined texts end as the last one of them does. -/
theorem endsInWord_joinWith {sep : List Char} {xs : List (List Char)} (hne : xs ≠ [])
    (h : ∀ x ∈ xs, EndsInWord x) : EndsInWord (joinWith sep xs) := by
  rcases List.eq_nil_or_concat xs with rfl | ⟨front, x, rfl⟩
  · exact absurd rfl hne
  · rw [List.concat_eq_append, joinWith_append_cons, List.flatMap_nil, List.append_nil]
    exact (h x (by simp)).append _

/-- A condition ends in a sign that is no blank and no digit. -/
theorem endsInWord_equation (column : String) : EndsInWord (equation column) := by
  have hword : equation column = (column.toList ++ " = ".toList) ++ ['?'] := by
    rw [equation, List.append_assoc]
    rfl
  rw [hword]
  exact .of_word _ (by decide) (by decide)

/-- A term of an order ends in the keyword of its direction. -/
theorem endsInWord_writeTerm (term : String × Direction) : EndsInWord (writeTerm term) := by
  obtain ⟨field, direction⟩ := term
  have hword :
      writeTerm (field, direction) = (field.toList ++ [' ']) ++ direction.keyword.toList := by
    rw [List.append_assoc]
    rfl
  rw [hword]
  cases direction <;> exact .of_word _ (by decide) (by decide)

/-- Clauses without a limit leave a last word or bring one. -/
theorem endsInWord_append_clauses {head : List Char} (h : EndsInWord head)
    (conditions : List String) (order : List (String × Direction)) :
    EndsInWord (head ++ Clauses.write ⟨conditions, order, none⟩) := by
  have hlimit : Clauses.write ⟨conditions, order, none⟩
      = Clauses.writeConditions conditions ++ Clauses.writeOrder order := List.append_nil _
  rw [hlimit]
  -- The last clause that is there ends the text; without any the head does.
  by_cases horder : order = []
  · rw [horder]
    by_cases hconditions : conditions = []
    · rw [hconditions]
      simpa [Clauses.writeConditions, Clauses.writeOrder] using h
    · rw [writeConditions_of_ne_nil hconditions]
      have hequations : EndsInWord (joinWith " AND ".toList (conditions.map equation)) := by
        refine endsInWord_joinWith (by simpa using hconditions) fun x hx => ?_
        obtain ⟨column, -, rfl⟩ := List.mem_map.mp hx
        exact endsInWord_equation column
      simpa [Clauses.writeOrder] using (hequations.append " WHERE ".toList).append head
  · rw [writeOrder_of_ne_nil horder]
    have hterms : EndsInWord (joinWith ", ".toList (order.map writeTerm)) := by
      refine endsInWord_joinWith (by simpa using horder) fun x hx => ?_
      obtain ⟨term, -, rfl⟩ := List.mem_map.mp hx
      exact endsInWord_writeTerm term
    exact ((hterms.append _).append _).append _

namespace Statement

/-- The limit of a statement. An insert has none. -/
def limit? : Statement → Option Nat
  | .select _ _ clauses | .update _ _ clauses | .delete _ clauses => clauses.limit
  | .insert _ _ _ => none

/-- The statement without its limit. -/
def unlimited : Statement → Statement
  | .select table columns clauses => .select table columns { clauses with limit := none }
  | .insert table columns rows => .insert table columns rows
  | .update table columns clauses => .update table columns { clauses with limit := none }
  | .delete table clauses => .delete table { clauses with limit := none }

/-- The limit stands at the end of the text. -/
theorem write_eq (st : Statement) :
    st.write = st.unlimited.write ++ Clauses.writeLimit st.limit? := by
  -- The limit is the last of the clauses, and these are the last part of a statement.
  have hclauses : ∀ c : Clauses, c.write
      = Clauses.write { c with limit := none } ++ Clauses.writeLimit c.limit := by
    intro c
    have hnone : Clauses.write { c with limit := none }
        = Clauses.writeConditions c.conditions ++ Clauses.writeOrder c.order := List.append_nil _
    rw [hnone]
    rfl
  cases st with
  | select table columns clauses =>
    rw [write_select, hclauses, ← List.append_assoc]
    rfl
  | insert table columns rows => exact (List.append_nil _).symm
  | update table columns clauses =>
    rw [write_update, hclauses, ← List.append_assoc]
    rfl
  | delete table clauses =>
    rw [write_delete, hclauses, ← List.append_assoc]
    rfl

/-- **What stands in front of a limit** ends in a word that is no number. -/
theorem endsInWord_unlimited {st : Statement} (h : st.WellFormed) :
    EndsInWord st.unlimited.write := by
  cases st with
  | select table columns clauses =>
    obtain ⟨htable, -⟩ := h
    exact endsInWord_append_clauses ((endsInWord_of_isIdentifier htable).append _) _ _
  | insert table columns rows =>
    obtain ⟨-, -, -, hrows⟩ := h
    -- A group of slots ends in a bracket, which makes it a word that is no number.
    have hslots : ∀ group ∈ List.replicate rows (slots columns.length), EndsInWord group := by
      intro group hgroup
      rw [List.eq_of_mem_replicate hgroup]
      exact .of_word _ (by decide) (by decide)
    have hne : List.replicate rows (slots columns.length) ≠ [] := by simpa using hrows
    exact (endsInWord_joinWith hne hslots).append _
  | update table columns clauses =>
    obtain ⟨-, hcolumns, -, -⟩ := h
    have hequations : EndsInWord (commaList (columns.map equation)) := by
      refine endsInWord_joinWith (by simpa using hcolumns) fun x hx => ?_
      obtain ⟨column, -, rfl⟩ := List.mem_map.mp hx
      exact endsInWord_equation column
    exact endsInWord_append_clauses (hequations.append _) _ _
  | delete table clauses =>
    exact endsInWord_append_clauses ((endsInWord_of_isIdentifier h.1).append _) _ _

/-- **The clause of a statement** is its limit. -/
theorem split?_write {st : Statement} (h : st.WellFormed) :
    RowLimit.split? st.write = st.limit?.map fun n => (st.unlimited.write, natDigits n) := by
  have hword := endsInWord_unlimited h
  rw [write_eq]
  cases st.limit? with
  | none =>
    rw [show Clauses.writeLimit none = [] from rfl, List.append_nil]
    exact RowLimit.split?_eq_none_of_endsInWord hword
  | some n =>
    refine RowLimit.split?_eq_some_iff.mpr ⟨hword.getLast?, _, ?_, rfl⟩
    -- A space, the word and the number, with nothing between and behind them.
    have hclause : RowLimit.LimitClause (natDigits n)
        ([' '] ++ ("LIMIT".toList ++ ([] ++ ' ' :: (natDigits n ++ [])))) :=
      .intro (by decide) (List.all_eq_true.mp rfl) (by decide) (List.forall_mem_nil _)
        (natDigits_ne_nil n) (fun _ => isDigit_of_mem_natDigits) (List.forall_mem_nil _)
    rw [List.append_nil] at hclause
    exact hclause

/-! ### Statements for Oracle -/

section Rendered

variable {st : Statement} {text : String} (htext : text.toList = st.write) (h : st.WellFormed)

include htext h

/-- Numbering the placeholders of a statement leaves its limit where it is. -/
theorem split?_render_colon : RowLimit.split? (Placeholder.render .colon text).toList =
    st.limit?.map fun n => (Placeholder.renderFrom (Placeholder.numbered ':' fun _ => none) none 0
      st.unlimited.write, natDigits n) := by
  rw [RowLimit.toList_render_colon, htext, RowLimit.split?_renderFrom RowLimit.isMark_numbered,
    split?_write h, Option.map_map]
  rfl

/-- **The text of a statement with a limit**, with its placeholders numbered and for Oracle. -/
theorem oracleText_of_limit {n : Nat} (hlimit : st.limit? = some n) :
    ∃ front, (Placeholder.render .colon text).toList = front ++ " LIMIT ".toList ++ natDigits n ∧
      (oracleText text).toList
        = front ++ " FETCH FIRST ".toList ++ natDigits n ++ " ROWS ONLY".toList := by
  refine ⟨Placeholder.renderFrom (Placeholder.numbered ':' fun _ => none) none 0 st.unlimited.write,
    ?_, ?_⟩
  · have hclause : Clauses.writeLimit (some n) = " LIMIT ".toList ++ natDigits n := rfl
    -- Numbering leaves the clause as it is.
    have hmarks : '?' ∉ " LIMIT ".toList ++ natDigits n := by
      rw [List.mem_append]
      rintro (hmem | hmem)
      · exact absurd hmem (by decide)
      · exact absurd (isDigit_of_mem_natDigits hmem) (by decide)
    rw [RowLimit.toList_render_colon, htext, write_eq, hlimit, hclause,
      Placeholder.renderFrom_append _ none 0 _ hmarks, List.append_assoc]
  · rw [oracleText, RowLimit.toList_fetchFirst, split?_render_colon htext h, hlimit]
    rfl

/-- **The text of a statement without a limit** is only numbered. -/
theorem oracleText_of_limit_eq_none (hlimit : st.limit? = none) :
    oracleText text = Placeholder.render .colon text := by
  apply RowLimit.fetchFirst_of_split?_eq_none
  rw [split?_render_colon htext h, hlimit]
  rfl

end Rendered

end Statement

/-- The limit of a compiled chain. -/
theorem limit?_chainStatement (table : String) (ops : List Operation) :
    (chainStatement table ops).limit? =
      match (ops.filterMap Operation.write?).getLast? with
      | some (.insert _) => none
      | _ => (ops.filterMap Operation.limit?).getLast? := by
  unfold chainStatement Draft.statement Draft.reading
  cases (ops.filterMap Operation.write?).getLast? with
  | none => rfl
  | some write => cases write <;> rfl

/-- **A row limit is rewritten where it stands, and nothing else is.** A chain that compiles gets
its last limit as a clause at the end of its text, unless its last write is an insert. In the text
for Oracle the clause with that number, and with everything in front of it, is the one that is
replaced; any other chain's text is only numbered. Of any text whatever: rewriting it again changes
nothing, its placeholders may be numbered before or after, and no cut is made inside a character. -/
theorem row_limit_rewriting :
    (∀ (s : Schema) (ops : List Operation) (r : SqlRequest), compile s ops = .ok (.sql r) →
      (∀ n, (∀ data, (ops.filterMap Operation.write?).getLast? ≠ some (.insert data)) →
        (ops.filterMap Operation.limit?).getLast? = some n →
        ∃ front, (Placeholder.render .colon r.text).toList
            = front ++ " LIMIT ".toList ++ natDigits n ∧
          (oracleText r.text).toList
            = front ++ " FETCH FIRST ".toList ++ natDigits n ++ " ROWS ONLY".toList) ∧
      ((∃ data, (ops.filterMap Operation.write?).getLast? = some (.insert data)) ∨
          (ops.filterMap Operation.limit?).getLast? = none →
        oracleText r.text = Placeholder.render .colon r.text)) ∧
    ∀ text : String,
      RowLimit.fetchFirst (RowLimit.fetchFirst text) = RowLimit.fetchFirst text ∧
      RowLimit.fetchFirst (Placeholder.render .colon text)
        = Placeholder.render .colon (RowLimit.fetchFirst text) ∧
      RowLimit.fetchFirstByBytes? text = some (RowLimit.fetchFirst text) := by
  refine ⟨fun s ops r h => ?_, fun text => ⟨RowLimit.fetchFirst_fetchFirst text,
    RowLimit.fetchFirst_render_colon text, RowLimit.fetchFirstByBytes?_eq text⟩⟩
  obtain ⟨htext, -, -, hwf, -⟩ := compile_eq_ok_sql h
  have hlimit := limit?_chainStatement s.name ops
  -- The statement of a chain has a limit unless it inserts.
  refine ⟨fun n hinsert hlast => ?_, fun hnone => ?_⟩
  · refine Statement.oracleText_of_limit htext hwf (hlimit.trans ?_)
    split
    · next data hdata => exact absurd hdata (hinsert data)
    · exact hlast
  · refine Statement.oracleText_of_limit_eq_none htext hwf (hlimit.trans ?_)
    split
    · rfl
    · next hother =>
      rcases hnone with ⟨data, hdata⟩ | hlast
      · exact absurd hdata (hother data)
      · exact hlast

/-- A table that is called `limit`. -/
def limitTable : Schema :=
  ⟨"limit", .tabular, []⟩

/-- Its rows by a column that is called so as well, with two limits in the chain. -/
def limitChain : List Operation :=
  [.limit 7, .filter (.object [("limit", .int 5)]), .orderBy "limit" .asc, .limit 10, .select none]

/-- The same without a limit. -/
def limitlessChain : List Operation :=
  [.filter (.object [("limit", .int 5)]), .select none]

/-- The last limit is replaced, and where there is none the names are left alone. -/
theorem limitChain_row_limit :
    (∃ r front, compile limitTable limitChain = .ok (.sql r) ∧
      (∀ data, (limitChain.filterMap Operation.write?).getLast? ≠ some (.insert data)) ∧
      (limitChain.filterMap Operation.limit?).getLast? = some 10 ∧
      (Placeholder.render .colon r.text).toList = front ++ " LIMIT ".toList ++ natDigits 10 ∧
      (oracleText r.text).toList
        = front ++ " FETCH FIRST ".toList ++ natDigits 10 ++ " ROWS ONLY".toList) ∧
    ∃ r, compile limitTable limitlessChain = .ok (.sql r) ∧
      (limitlessChain.filterMap Operation.limit?).getLast? = none ∧
      oracleText r.text = Placeholder.render .colon r.text := by
  obtain ⟨r, hr⟩ : ∃ r, compile limitTable limitChain = .ok (.sql r) := ⟨_, rfl⟩
  obtain ⟨r', hr'⟩ : ∃ r, compile limitTable limitlessChain = .ok (.sql r) := ⟨_, rfl⟩
  obtain ⟨front, hcolon, horacle⟩ := (row_limit_rewriting.1 _ _ r hr).1 10 (fun _ => nofun) rfl
  -- The second chain has no limit, whatever its names are.
  have hnone := (row_limit_rewriting.1 _ _ r' hr').2 (.inr rfl)
  exact ⟨⟨r, front, hr, fun _ => nofun, rfl, hcolon, horacle⟩, r', hr', rfl, hnone⟩

end StoreBridge
