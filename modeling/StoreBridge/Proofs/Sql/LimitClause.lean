import StoreBridge.Sql.RowLimit
import StoreBridge.Proofs.Number.Digits
import StoreBridge.Proofs.Text.Opening

/-!
# Limit clauses at the end of a text

`RowLimit.split?` finds a limit clause by going back from the end of a text: blanks, a run of
digits, the last space, blanks, five characters, blanks (`split?_eq_some_iff_exists`). `LimitClause`
says what it looks for as a form of its own, and `split?_eq_some_iff` that it finds this form and
nothing else. Going back is not ambiguous, because each part of the clause ends where a character of
another class stands (`trimEnd_eq_iff`): no blank is a digit or a letter, and a run of digits has no
space.

From the form follows where there is no clause: a text whose last word is not made of digits alone
has none (`split?_eq_none_of_endsInWord`).
-/

namespace StoreBridge

/-! ### Characters at the end -/

section Trim

variable {p : Char → Bool} {xs ys : List Char}

/-- Characters at the end that are all dropped make no difference. -/
theorem dropEndWhile_append_of_all (xs : List Char) (hys : ∀ c ∈ ys, p c = true) :
    dropEndWhile p (xs ++ ys) = dropEndWhile p xs := by
  -- The end is looked at first, so the front is taken off on both sides.
  induction xs with
  | nil =>
    induction ys with
    | nil => rfl
    | cons c cs ih =>
      obtain ⟨hc, hcs⟩ := List.forall_mem_cons.mp hys
      have hrest : dropEndWhile p cs = [] := ih hcs
      simp only [List.nil_append, dropEndWhile, hrest, hc, if_true]
  | cons c cs ih => rw [List.cons_append, dropEndWhile, ih, dropEndWhile]

/-- Nothing is dropped behind a character of another class. -/
theorem dropEndWhile_of_getLast? (h : ∀ c ∈ xs.getLast?, p c = false) : dropEndWhile p xs = xs := by
  obtain ⟨dropped, hxs, hdropped⟩ := exists_dropEndWhile_append p xs
  rcases List.eq_nil_or_concat dropped with rfl | ⟨front, c, rfl⟩
  · rw [List.append_nil] at hxs
    exact hxs.symm
  · have hlast : xs.getLast? = some c := by
      rw [hxs, List.concat_eq_append, ← List.append_assoc, List.getLast?_concat]
    have hc : p c = true := hdropped c (by simp)
    exact absurd hc (by rw [h c hlast]; decide)

/-- **Trimming** drops blanks behind a character that is none, and nothing else. -/
theorem trimEnd_eq_iff : trimEnd xs = ys ↔
    (∀ c ∈ ys.getLast?, isBlank c = false) ∧ ∃ blanks, (∀ c ∈ blanks, isBlank c = true) ∧
      xs = ys ++ blanks := by
  constructor
  · rintro rfl
    obtain ⟨blanks, hxs, hblanks⟩ := exists_dropEndWhile_append isBlank xs
    exact ⟨getLast?_dropEndWhile isBlank xs, blanks, hblanks, hxs⟩
  · rintro ⟨hlast, blanks, hblanks, rfl⟩
    rw [trimEnd, dropEndWhile_append_of_all ys hblanks, dropEndWhile_of_getLast? hlast]

end Trim

section Split

variable {sep : Char} {cs before after : List Char}

/-- There is nothing to split at exactly if the character does not occur. -/
theorem splitAtLast_eq_none_iff : splitAtLast sep cs = none ↔ sep ∉ cs := by
  induction cs with
  | nil => exact iff_of_true rfl (List.not_mem_nil)
  | cons c cs ih =>
    rw [splitAtLast, List.mem_cons]
    cases hcs : splitAtLast sep cs with
    | some parts =>
      have hmem : sep ∈ cs := Classical.byContradiction fun hnot => by
        rw [ih.mpr hnot] at hcs
        exact absurd hcs nofun
      exact iff_of_false nofun fun h => h (.inr hmem)
    | none =>
      have hnot : sep ∉ cs := ih.mp hcs
      by_cases hc : c = sep
      · exact iff_of_false (by simp [hc]) fun h => h (.inl hc.symm)
      · exact iff_of_true (if_neg hc) fun h => h.elim (fun heq => hc heq.symm) hnot

/-- **Splitting at the last separator** gives back the text around it, and the part behind has no
separator left. -/
theorem splitAtLast_eq_some_iff :
    splitAtLast sep cs = some (before, after) ↔ cs = before ++ sep :: after ∧ sep ∉ after := by
  constructor
  · intro h
    induction cs generalizing before with
    | nil => exact absurd h nofun
    | cons c cs ih =>
      rw [splitAtLast] at h
      -- A separator in the rest is further back, so it is taken before this character is looked at.
      cases hcs : splitAtLast sep cs with
      | some parts =>
        obtain ⟨front, rest⟩ := parts
        rw [hcs] at h
        obtain ⟨rfl, rfl⟩ := Prod.mk.inj (Option.some.inj h)
        obtain ⟨rfl, hrest⟩ := ih hcs
        exact ⟨rfl, hrest⟩
      | none =>
        rw [hcs] at h
        obtain ⟨rfl, hparts⟩ := Option.ite_none_right_eq_some.mp h
        obtain ⟨rfl, rfl⟩ := Prod.mk.inj (Option.some.inj hparts)
        exact ⟨rfl, splitAtLast_eq_none_iff.mp hcs⟩
  · rintro ⟨rfl, hafter⟩
    induction before with
    | nil =>
      rw [List.nil_append, splitAtLast, splitAtLast_eq_none_iff.mpr hafter]
      exact if_pos rfl
    | cons c before ih => rw [List.cons_append, splitAtLast, ih]

end Split

namespace RowLimit

/-! ### The form of a clause -/

/-- **A limit clause**: blanks, the word in any letter case, further blanks with a space at their
end, a run of digits, and any blanks behind it. -/
inductive LimitClause (count : List Char) : List Char → Prop
  | intro {gap word blanks rest : List Char} (hgap_ne : gap ≠ [])
      (hgap : ∀ c ∈ gap, isBlank c = true)
      (hword : sameIgnoringCase word keyword = true) (hblanks : ∀ c ∈ blanks, isBlank c = true)
      (hcount_ne : count ≠ []) (hcount : ∀ c ∈ count, isDigit c = true)
      (hrest : ∀ c ∈ rest, isBlank c = true) :
      LimitClause count (gap ++ (word ++ (blanks ++ ' ' :: (count ++ rest))))

/-- The count of a limit clause consists of digits. -/
theorem LimitClause.isDigit {count clause : List Char} (h : LimitClause count clause) :
    ∀ c ∈ count, isDigit c = true := by
  obtain ⟨-, -, -, -, -, hcount, -⟩ := h
  exact hcount

theorem keyword_letters : ∀ c ∈ keyword, isWordStart c = true :=
  List.all_eq_true.mp rfl

/-- No digit is blank. -/
theorem isBlank_of_isDigit {c : Char} (h : isDigit c = true) : isBlank c = false := by
  have hrange := toNat_of_isDigit h
  simp only [isBlank, Bool.or_eq_false_iff, Bool.and_eq_false_iff, decide_eq_false_iff_not,
    beq_eq_false_iff_ne]
  omega

/-- The last character of a text with something behind it. -/
theorem getLast?_append_forall {p : Char → Prop} {xs ys : List Char} (hne : ys ≠ [])
    (h : ∀ c ∈ ys, p c) : ∀ c ∈ (xs ++ ys).getLast?, p c := by
  intro c hc
  rw [List.getLast?_append, List.getLast?_eq_some_getLast hne, Option.some_or] at hc
  obtain rfl := Option.some.inj hc
  exact h _ (List.getLast_mem hne)

/-- A clause is found step by step from the end: a number behind the last space of the trimmed text,
and the word, with a blank before it, at the end of the trimmed text in front of this space. -/
theorem split?_eq_some_iff_exists {cs before count : List Char} :
    split? cs = some (before, count) ↔
      (count ≠ [] ∧ ∀ c ∈ count, isDigit c = true) ∧ ∃ head upTo word,
        trimEnd cs = head ++ ' ' :: count ∧ trimEnd head = upTo ++ word ∧
        sameIgnoringCase word keyword = true ∧ upTo.getLast?.any isBlank = true ∧
        trimEnd upTo = before := by
  have hnumber : (count.isEmpty || !count.all isDigit) = false ↔
      count ≠ [] ∧ ∀ c ∈ count, isDigit c = true := by
    rw [Bool.or_eq_false_iff, List.isEmpty_eq_false_iff, Bool.not_eq_false', List.all_eq_true]
  constructor
  · -- Each line of `split?` gives one of the parts, and the checks between them.
    intro h
    unfold split? at h
    simp only [bind, Option.bind_eq_some_iff] at h
    obtain ⟨⟨head, count'⟩, hsplit, h⟩ := h
    obtain ⟨hdigits, h⟩ := Option.ite_none_left_eq_some.mp h
    obtain ⟨hclause, h⟩ := Option.ite_none_right_eq_some.mp h
    obtain ⟨rfl, rfl⟩ := Prod.mk.inj (Option.some.inj h)
    obtain ⟨hword, hblank⟩ := Bool.and_eq_true_iff.mp hclause
    obtain ⟨hsplit, -⟩ := splitAtLast_eq_some_iff.mp hsplit
    rw [Bool.not_eq_true] at hdigits
    exact ⟨hnumber.mp hdigits, head, _, _, hsplit, (List.take_append_drop _ _).symm, hword, hblank,
      rfl⟩
  · rintro ⟨hcount, head, upTo, word, hcs, hhead, hword, hblank, rfl⟩
    have hspace : ' ' ∉ count := fun hmem => absurd (hcount.2 ' ' hmem) (by decide)
    -- The word is as long as the keyword, so cutting off so many characters leaves what is in front
    -- of it.
    have hplace : (upTo ++ word).length - keyword.length = upTo.length := by
      rw [List.length_append, length_of_sameIgnoringCase hword, Nat.add_sub_cancel]
    unfold split?
    rw [hcs, splitAtLast_eq_some_iff.mpr ⟨rfl, hspace⟩]
    simp only [bind, Option.bind_some, hnumber.mpr hcount, hhead, hplace, List.take_left,
      List.drop_left, hword, hblank, Bool.and_self, if_true, Bool.false_eq_true, if_false]

/-- **A limit clause is found** where it stands at the end, and nothing else is. -/
theorem split?_eq_some_iff {cs before count : List Char} :
    split? cs = some (before, count) ↔
      (∀ c ∈ before.getLast?, isBlank c = false) ∧ ∃ clause, LimitClause count clause ∧
        cs = before ++ clause := by
  rw [split?_eq_some_iff_exists]
  constructor
  · rintro ⟨hcount, head, upTo, word, hcs, hhead, hword, hblank, hbefore⟩
    -- What trimming drops: at the end of the text, behind the word and in front of it.
    obtain ⟨-, rest, hrest, rfl⟩ := trimEnd_eq_iff.mp hcs
    obtain ⟨-, blanks, hblanks, rfl⟩ := trimEnd_eq_iff.mp hhead
    obtain ⟨hlast, gap, hgap, rfl⟩ := trimEnd_eq_iff.mp hbefore
    have hgap_ne : gap ≠ [] := by
      rintro rfl
      rw [List.append_nil] at hblank
      obtain ⟨c, hc, hc_blank⟩ := (Option.any_eq_true _ _).mp hblank
      exact absurd hc_blank (by rw [hlast c hc]; decide)
    refine ⟨hlast, _, .intro hgap_ne hgap hword hblanks hcount.1 hcount.2 hrest, ?_⟩
    simp only [List.append_assoc, List.cons_append]
  · rintro ⟨hbefore, clause, ⟨hgap_ne, hgap, hword, hblanks, hcount_ne, hcount, hrest⟩, rfl⟩
    -- The clause is put back: gap, word, blanks, a space, the number, and blanks behind it.
    rename_i gap word blanks rest
    have hletters := isWordStart_of_sameIgnoringCase hword keyword_letters
    have hword_ne : word ≠ [] := by
      rintro rfl
      exact absurd (length_of_sameIgnoringCase hword) (by decide)
    -- Each step back stops at the character that ends a part.
    have hcs : trimEnd (before ++ (gap ++ (word ++ (blanks ++ ' ' :: (count ++ rest)))))
        = (before ++ gap ++ word ++ blanks) ++ ' ' :: count := by
      refine trimEnd_eq_iff.mpr ⟨?_, rest, hrest, by simp⟩
      rw [List.append_cons]
      exact getLast?_append_forall hcount_ne fun c hc => isBlank_of_isDigit (hcount c hc)
    have hhead : trimEnd (before ++ gap ++ word ++ blanks) = (before ++ gap) ++ word := by
      refine trimEnd_eq_iff.mpr ⟨?_, blanks, hblanks, rfl⟩
      exact getLast?_append_forall hword_ne fun c hc => isBlank_of_isWordStart (hletters c hc)
    have hblank : (before ++ gap).getLast?.any isBlank = true := by
      obtain ⟨front, c, rfl⟩ := (List.eq_nil_or_concat gap).resolve_left hgap_ne
      rw [List.concat_eq_append, ← List.append_assoc, List.getLast?_concat]
      exact hgap c (by simp)
    exact ⟨⟨hcount_ne, hcount⟩, _, _, word, hcs, hhead, hword, hblank,
      trimEnd_eq_iff.mpr ⟨hbefore, gap, hgap, rfl⟩⟩

/-! ### Texts without a clause -/

/-- The last word of the text, which is all that stands behind its last blank, is not made of digits
alone. -/
def EndsInWord (cs : List Char) : Prop :=
  ∃ front word, cs = front ++ word ∧ (∀ c ∈ word, isBlank c = false) ∧ ∃ c ∈ word, isDigit c = false

/-- A text ends in a given word that has no blank in it and is not all digits. -/
theorem EndsInWord.of_word (front : List Char) {word : List Char}
    (hblank : word.any isBlank = false)
    (hdigit : word.all isDigit = false) : EndsInWord (front ++ word) := by
  obtain ⟨c, hc, hsign⟩ := List.all_eq_false.mp hdigit
  refine ⟨front, word, rfl, fun d hd => ?_, c, hc, Bool.eq_false_iff.mpr hsign⟩
  exact Bool.eq_false_iff.mpr (List.any_eq_false.mp hblank d hd)

/-- How a text ends does not depend on what stands in front. -/
theorem EndsInWord.append {cs : List Char} (h : EndsInWord cs) (front : List Char) :
    EndsInWord (front ++ cs) := by
  obtain ⟨front', word, rfl, hword⟩ := h
  exact ⟨front ++ front', word, (List.append_assoc _ _ _).symm, hword⟩

/-- A text that ends in a word does not end in a blank. -/
theorem EndsInWord.getLast? {cs : List Char} (h : EndsInWord cs) :
    ∀ c ∈ cs.getLast?, isBlank c = false := by
  obtain ⟨front, word, rfl, hword, c, hc, -⟩ := h
  exact getLast?_append_forall (List.ne_nil_of_mem hc) hword

/-- **No clause** stands at the end of a text whose last word is no number. -/
theorem split?_eq_none_of_endsInWord {cs : List Char} (h : EndsInWord cs) : split? cs = none := by
  rw [Option.eq_none_iff_forall_ne_some]
  rintro ⟨before, count⟩ hsplit
  obtain ⟨front, word, rfl, hword, c, hc, hdigit⟩ := h
  obtain ⟨-, clause, ⟨-, -, -, -, -, hcount, hrest⟩, htext⟩ := split?_eq_some_iff.mp hsplit
  rename_i gap limit blanks rest
  -- The word begins behind the last space of the clause, as no blank is part of it.
  have hbehind : word ⊆ count ++ rest := by
    have hspace : front ++ word
        = (before ++ (gap ++ (limit ++ (blanks ++ [' '])))) ++ (count ++ rest) := by
      rw [htext]
      simp only [List.append_assoc, List.cons_append, List.nil_append]
    rcases List.append_eq_append_iff.mp hspace with ⟨more, hmore, hwhole⟩ | ⟨more, -, hpart⟩
    · rcases List.eq_nil_or_concat more with rfl | ⟨most, d, rfl⟩
      · exact hwhole ▸ List.Subset.refl _
      · -- The last character in front of the number would be part of the word.
        have hlast : d = ' ' := by
          have hends := congrArg List.getLast? hmore
          simpa [List.getLast?_append] using hends.symm
        have hblank : isBlank d = false := hword d (by rw [hwhole]; simp)
        exact absurd hblank (by rw [hlast]; decide)
    · rw [hpart]
      exact List.subset_append_right _ _
  rcases List.mem_append.mp (hbehind hc) with hmem | hmem
  · exact absurd (hcount c hmem) (by rw [hdigit]; decide)
  · exact absurd (hrest c hmem) (by rw [hword c hc]; decide)

end RowLimit

end StoreBridge
