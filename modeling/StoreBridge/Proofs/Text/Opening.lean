import StoreBridge.Identifier
import StoreBridge.Sql.Classify

/-!
# How a text opens

A statement is told from the word with which its text opens. `Opens word cs` says so of the text
itself: some blanks, then the word in any letter case. It looks at a beginning of the text only, so
it is kept by whatever leaves that beginning alone.

* `beginsWith_trimStart_iff`, `beginsWith_trim_iff` — testing a trimmed text asks whether the text
  opens with the word. What is trimmed at the end never reaches into the word.
* `opens_append_iff` — what follows a blank behind other characters does not matter.
* `not_opens_of_shorter` — a text that opens with a shorter word does not open with a longer one.
-/

namespace StoreBridge

/-! ### Characters dropped at the end -/

section Trim

variable {p : Char → Bool}

/-- Only characters of the class are dropped. -/
theorem exists_dropEndWhile_append (p : Char → Bool) (xs : List Char) :
    ∃ dropped, xs = dropEndWhile p xs ++ dropped ∧ ∀ c ∈ dropped, p c = true := by
  induction xs with
  | nil => exact ⟨[], rfl, by simp⟩
  | cons c cs ih =>
    obtain ⟨dropped, hcs, hdropped⟩ := ih
    unfold dropEndWhile
    split
    · next hnil =>
      -- Everything behind the first character goes, so the first one decides.
      rw [hnil, List.nil_append] at hcs
      subst hcs
      split
      · next hc => exact ⟨c :: cs, rfl, List.forall_mem_cons.mpr ⟨hc, hdropped⟩⟩
      · exact ⟨cs, rfl, hdropped⟩
    · next hrest => exact ⟨dropped, congrArg (c :: ·) hcs, hdropped⟩

/-- The last character that stays is not of the class. -/
theorem getLast?_dropEndWhile (p : Char → Bool) (xs : List Char) :
    ∀ c ∈ (dropEndWhile p xs).getLast?, p c = false := by
  induction xs with
  | nil => simp [dropEndWhile]
  | cons c cs ih =>
    -- A character stays if something behind it stays, or if it is of another class itself.
    unfold dropEndWhile
    split
    · split
      · simp
      · next hc => simpa using hc
    · next hrest =>
      intro d hd
      rw [List.getLast?_cons_of_ne_nil hrest] at hd
      exact ih d hd

/-- Characters of other classes stay, whatever is dropped behind them. -/
theorem dropEndWhile_append {xs : List Char} (hxs : ∀ c ∈ xs, p c = false) (ys : List Char) :
    dropEndWhile p (xs ++ ys) = xs ++ dropEndWhile p ys := by
  induction xs with
  | nil => rfl
  | cons c cs ih =>
    obtain ⟨hc, hcs⟩ := List.forall_mem_cons.mp hxs
    rw [List.cons_append, dropEndWhile, ih hcs, List.cons_append]
    cases hrest : cs ++ dropEndWhile p ys with
    | nil => simp [hc]
    | cons d ds => rfl

end Trim

/-! ### Letters -/

/-- A capital letter begins a word as its small letter does. -/
theorem isWordStart_asciiLower (c : Char) : isWordStart (asciiLower c) = isWordStart c := by
  unfold asciiLower
  split
  · next hupper =>
    have hlow : 65 ≤ c.toNat := hupper.1
    have hhigh : c.toNat ≤ 90 := hupper.2
    -- There are 26 capital letters, and for each of them it is computed.
    have hletters : ∀ d : Fin 26, isWordStart (Char.ofNat (65 + d.val + 32))
        = isWordStart (Char.ofNat (65 + d.val)) := by decide
    have hc := hletters ⟨c.toNat - 65, by omega⟩
    have hnat : 65 + (c.toNat - 65) = c.toNat := by omega
    rwa [hnat, Char.ofNat_toNat] at hc
  · rfl

/-- Letters and the underscore are between `A` and `z`. -/
theorem toNat_of_isWordStart {c : Char} (h : isWordStart c = true) :
    65 ≤ c.toNat ∧ c.toNat ≤ 122 := by
  simp only [isWordStart, Bool.or_eq_true, Bool.and_eq_true, decide_eq_true_eq, beq_iff_eq] at h
  rcases h with (⟨hlow, hhigh⟩ | ⟨hlow, hhigh⟩) | rfl
  · have hlow : 97 ≤ c.toNat := hlow
    exact ⟨by omega, hhigh⟩
  · have hhigh : c.toNat ≤ 90 := hhigh
    exact ⟨hlow, by omega⟩
  · decide

/-- No letter is blank. -/
theorem isBlank_of_isWordStart {c : Char} (h : isWordStart c = true) : isBlank c = false := by
  have hrange := toNat_of_isWordStart h
  simp only [isBlank, Bool.or_eq_false_iff, Bool.and_eq_false_iff, decide_eq_false_iff_not,
    beq_eq_false_iff_ne]
  omega

section SameWord

variable {head word : List Char}

/-- Words that differ in the case of their letters are of one length. -/
theorem length_of_sameIgnoringCase (h : sameIgnoringCase head word = true) :
    head.length = word.length := by
  have hmap : head.map asciiLower = word.map asciiLower := beq_iff_eq.mp h
  rw [← List.length_map (f := asciiLower), hmap, List.length_map]

/-- A spelling of a word of letters has letters only. -/
theorem isWordStart_of_sameIgnoringCase (h : sameIgnoringCase head word = true)
    (hword : ∀ c ∈ word, isWordStart c = true) : ∀ c ∈ head, isWordStart c = true := by
  intro c hc
  have hmap : head.map asciiLower = word.map asciiLower := beq_iff_eq.mp h
  have hmem : asciiLower c ∈ word.map asciiLower := hmap ▸ List.mem_map_of_mem hc
  obtain ⟨d, hd, heq⟩ := List.mem_map.mp hmem
  rw [← isWordStart_asciiLower, ← heq, isWordStart_asciiLower]
  exact hword d hd

end SameWord

/-! ### Opening words -/

/-- After any blanks the text goes on with the word, in any letter case. -/
def Opens (word cs : List Char) : Prop :=
  ∃ blanks head, blanks ++ head <+: cs ∧ (∀ c ∈ blanks, isBlank c = true) ∧
    sameIgnoringCase head word = true

section Opens

variable {word cs : List Char} (hne : word ≠ []) (hword : ∀ c ∈ word, isWordStart c = true)

/-- A text without blanks in front is what is left of it when they are dropped. -/
theorem trimStart_of_isWordStart {c : Char} (hc : isWordStart c = true) (cs : List Char) :
    trimStart (c :: cs) = c :: cs := by
  rw [trimStart, List.dropWhile_cons_of_neg]
  rw [isBlank_of_isWordStart hc]
  decide

/-- More blanks in front make no difference. -/
theorem trimStart_append {blanks : List Char} (h : ∀ c ∈ blanks, isBlank c = true)
    (cs : List Char) : trimStart (blanks ++ cs) = trimStart cs :=
  List.dropWhile_append_of_pos h

include hne hword in
/-- **Blanks in front** of a text do not matter: it begins with the word behind them exactly if it
opens with the word. -/
theorem beginsWith_trimStart_iff : beginsWith word (trimStart cs) = true ↔ Opens word cs := by
  constructor
  · intro h
    -- The blanks are those that were taken off, and the word stands behind them.
    refine ⟨cs.takeWhile isBlank, (trimStart cs).take word.length, ?_, ?_, h⟩
    · refine ⟨(trimStart cs).drop word.length, ?_⟩
      rw [List.append_assoc, List.take_append_drop]
      exact List.takeWhile_append_dropWhile
    · intro c hc
      exact List.all_eq_true.mp List.all_takeWhile c hc
  · rintro ⟨blanks, head, ⟨rest, rfl⟩, hblanks, hhead⟩
    -- The word begins with a letter, so that all the blanks and nothing else are taken off.
    have hlength := length_of_sameIgnoringCase hhead
    have hletters := isWordStart_of_sameIgnoringCase hhead hword
    have hhead_ne : head ≠ [] := by
      rintro rfl
      exact hne (List.length_eq_zero_iff.mp hlength.symm)
    obtain ⟨c, cs, rfl⟩ := List.exists_cons_of_ne_nil hhead_ne
    have hc : isWordStart c = true := hletters c List.mem_cons_self
    rw [List.append_assoc, trimStart_append hblanks, List.cons_append,
      trimStart_of_isWordStart hc, ← List.cons_append, beginsWith, ← hlength, List.take_left]
    exact hhead

include hne hword in
/-- **Blanks at both ends.** What is dropped at the end is blank, and no part of the word is. -/
theorem beginsWith_trim_iff : beginsWith word (trim cs) = true ↔ Opens word cs := by
  rw [← beginsWith_trimStart_iff hne hword, trim, trimEnd]
  constructor
  · intro h
    -- The word is in front of what is dropped at the end, so dropping it is no matter.
    obtain ⟨dropped, hdropped, -⟩ := exists_dropEndWhile_append isBlank (trimStart cs)
    have hlength := length_of_sameIgnoringCase h
    have hlong : word.length ≤ (dropEndWhile isBlank (trimStart cs)).length := by
      rw [List.length_take] at hlength
      omega
    rw [hdropped, beginsWith, List.take_append_of_le_length hlong]
    exact h
  · intro h
    -- No character of the word is blank, so none of them is dropped.
    have hletters := isWordStart_of_sameIgnoringCase h hword
    have hkept : dropEndWhile isBlank (trimStart cs)
        = (trimStart cs).take word.length
          ++ dropEndWhile isBlank ((trimStart cs).drop word.length) := by
      rw [← dropEndWhile_append fun c hc => isBlank_of_isWordStart (hletters c hc),
        List.take_append_drop]
    have hlength := length_of_sameIgnoringCase h
    rw [hkept, beginsWith, List.take_left' hlength]
    exact h

include hword in
/-- **Behind a blank.** If something other than blanks stands in front of a blank, the word with
which the text opens does as well. -/
theorem opens_append_iff {before : List Char} {b : Char} (hb : isBlank b = true)
    (hbefore : ∃ c ∈ before, isBlank c = false) (rest : List Char) :
    Opens word (before ++ b :: rest) ↔ Opens word before := by
  constructor
  · rintro ⟨blanks, head, hprefix, hblanks, hhead⟩
    refine ⟨blanks, head, ?_, hblanks, hhead⟩
    -- The blanks and the word end in front of the blank, or they reach beyond it.
    rcases List.prefix_or_prefix_of_prefix hprefix (List.prefix_append before (b :: rest)) with
      hshort | ⟨more, hmore⟩
    · exact hshort
    cases more with
    | nil =>
      rw [List.append_nil] at hmore
      exact hmore ▸ List.prefix_refl _
    | cons d more =>
      -- The blank would be part of the word, or all that stands before it would be blank.
      obtain rfl : d = b := by
        rw [← hmore, List.prefix_append_right_inj, List.cons_prefix_cons] at hprefix
        exact hprefix.1
      rcases List.append_eq_append_iff.mp hmore with ⟨as, has, -⟩ | ⟨bs, -, hbs⟩
      · obtain ⟨c, hc, hplain⟩ := hbefore
        have hblank : isBlank c = true := hblanks c (by rw [has]; exact List.mem_append_left _ hc)
        exact absurd hblank (by rw [hplain]; decide)
      · have hletter : isWordStart d = true :=
          isWordStart_of_sameIgnoringCase hhead hword d (by rw [hbs]; simp)
        exact absurd hb (by rw [isBlank_of_isWordStart hletter]; decide)
  · rintro ⟨blanks, head, hprefix, hblanks, hhead⟩
    exact ⟨blanks, head, hprefix.trans (List.prefix_append _ _), hblanks, hhead⟩

include hne hword in
/-- **Shorter words.** A text that opens with a shorter word and a blank behind it does not open
with this one. -/
theorem not_opens_of_shorter {blanks short : List Char} {b : Char}
    (hblanks : ∀ c ∈ blanks, isBlank c = true) (hshort : ∀ c ∈ short, isWordStart c = true)
    (hshort_ne : short ≠ []) (hlength : short.length < word.length) (hb : isBlank b = true)
    (rest : List Char) : ¬ Opens word (blanks ++ (short ++ b :: rest)) := by
  rw [← beginsWith_trimStart_iff hne hword, trimStart_append hblanks]
  obtain ⟨c, cs, rfl⟩ := List.exists_cons_of_ne_nil hshort_ne
  intro h
  rw [List.cons_append, trimStart_of_isWordStart (hshort c List.mem_cons_self)] at h
  -- The shorter word is over before this one is, so the blank is where a letter should be.
  have hmem : b ∈ (c :: (cs ++ b :: rest)).take word.length := by
    rw [← List.cons_append, List.take_append]
    refine List.mem_append_right _ ?_
    obtain ⟨n, hn⟩ : ∃ n, word.length - (c :: cs).length = n + 1 :=
      ⟨word.length - (c :: cs).length - 1, by omega⟩
    rw [hn, List.take_succ_cons]
    exact List.mem_cons_self
  have hletter : isWordStart b = true := isWordStart_of_sameIgnoringCase h hword b hmem
  exact absurd hb (by rw [isBlank_of_isWordStart hletter]; decide)

end Opens

end StoreBridge
