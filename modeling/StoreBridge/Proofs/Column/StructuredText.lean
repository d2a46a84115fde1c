import StoreBridge.Column.Value
import StoreBridge.Proofs.Json.RoundTrip
import StoreBridge.Sqlite.Datum

/-!
# Structured values in text columns

Arrays and objects are bound as their compact JSON text. Where the name of a column's type mentions
JSON, a text is parsed when the column is read, and a text that does not parse is silently kept as
it is. So a slip in writing would not show as an error: the value would come back as a string.

`structured_argument_shown` says that this does not happen. It rests on `Json.parse?_text`: whatever
strings a value holds, it is parsed from its own text, up to the depth that the parser allows.
Deeper values do come back as strings (`Column.ofText_text`).

The name of the type is put in lower case before it is searched, and that may bring about a letter
where there was none. `occursIn_lower_iff` says that no letter of the word that is looked for can
come about so.
-/

namespace StoreBridge

/-! ### Words in a name, in any letter case -/

/-- The letters that stand in the lower case of no character but themselves and their capitals. The
other two, `i` and `k`, also come from a capital with a dot and from a sign for a unit. -/
def pureLetters : List Char := "abcdefghjlmnopqrstuvwxyz".toList

section Mention

variable {pat cs : List Char} (hpat : ∀ p ∈ pat, p ∈ pureLetters)

/-- These letters are small. -/
theorem asciiLower_of_pure {p : Char} (h : p ∈ pureLetters) : asciiLower p = p := by
  have hall : pureLetters.all (fun p => asciiLower p == p) = true := by decide
  exact beq_iff_eq.mp (List.all_eq_true.mp hall p h)

/-- A character whose small letter is one of these has no other small form. -/
theorem lowerChar_of_pure {c p : Char} (hp : p ∈ pureLetters) (h : asciiLower c = p) :
    lowerChar c = [p] := by
  have hkelvin : c ≠ '\u212a' := by
    rintro rfl
    exact absurd (h ▸ hp) (by decide)
  have hdotted : c ≠ '\u0130' := by
    rintro rfl
    exact absurd (h ▸ hp) (by decide)
  rw [lowerChar, if_neg hkelvin, if_neg hdotted, h]

/-- **How the lower case of a character begins.** -/
theorem lowerChar_cases (c : Char) :
    lowerChar c = [asciiLower c] ∨ ∃ x more, lowerChar c = x :: more ∧ x ∉ pureLetters ∧
      ∀ y ∈ more, y ∉ pureLetters := by
  unfold lowerChar
  split
  · exact .inr ⟨'k', [], rfl, by decide, nofun⟩
  · split
    · exact .inr ⟨'i', ['\u0307'], rfl, by decide,
        List.forall_mem_singleton.mpr (by decide)⟩
    · exact .inl rfl

/-- The search finds a word exactly if it is a part of the text. -/
theorem occursIn_iff (pat cs : List Char) : occursIn pat cs = true ↔ pat <:+: cs := by
  induction cs with
  | nil => rw [occursIn, List.isEmpty_iff, List.infix_nil]
  | cons c cs ih =>
    rw [occursIn, Bool.or_eq_true, ih, List.isPrefixOf_iff_prefix, List.infix_cons_iff]

include hpat

/-- A beginning of the lower case of a text is the lower case of a beginning of it. -/
theorem prefix_lower_iff :
    pat <+: lower cs ↔ ∃ word after, cs = word ++ after ∧ word.map asciiLower = pat := by
  -- On the pattern: its letters are pure, so each comes from exactly one character of the text.
  induction pat generalizing cs with
  | nil => exact iff_of_true List.nil_prefix ⟨[], cs, rfl, rfl⟩
  | cons p pat ih =>
    obtain ⟨hp, hpat⟩ := List.forall_mem_cons.mp hpat
    constructor
    · intro h
      cases cs with
      | nil => exact absurd (List.prefix_nil.mp h) (List.cons_ne_nil p pat)
      | cons c cs =>
        change p :: pat <+: lowerChar c ++ lower cs at h
        rcases lowerChar_cases c with hc | ⟨x, more, hc, hx, -⟩
        · rw [hc, List.singleton_append, List.cons_prefix_cons] at h
          obtain ⟨word, after, rfl, hword⟩ := (ih hpat).mp h.2
          exact ⟨c :: word, after, rfl, by rw [List.map_cons, hword, h.1]⟩
        · -- What stands for such a character begins with no pure letter.
          rw [hc, List.cons_append, List.cons_prefix_cons] at h
          exact absurd (h.1 ▸ hp) hx
    · rintro ⟨word, after, rfl, hword⟩
      cases word with
      | nil => exact absurd hword nofun
      | cons c word =>
        obtain ⟨hc, hrest⟩ := List.cons.inj hword
        change p :: pat <+: lowerChar c ++ lower (word ++ after)
        rw [lowerChar_of_pure hp hc, List.singleton_append, List.cons_prefix_cons]
        exact ⟨rfl, (ih hpat).mpr ⟨word, after, rfl, hrest⟩⟩

/-- Characters that are no pure letters cannot begin the pattern. -/
theorem infix_append_iff (hne : pat ≠ []) {front rest : List Char}
    (hfront : ∀ x ∈ front, x ∉ pureLetters) (h : pat <:+: front ++ rest) : pat <:+: rest := by
  -- The pattern cannot begin within `front`, so it can be moved behind it character by character.
  induction front with
  | nil => exact h
  | cons x front ih =>
    obtain ⟨hx, hfront⟩ := List.forall_mem_cons.mp hfront
    obtain ⟨p, pat', rfl⟩ := List.exists_cons_of_ne_nil hne
    rcases List.infix_cons_iff.mp h with hbegin | hrest
    · obtain ⟨rfl, -⟩ := List.cons_prefix_cons.mp hbegin
      exact absurd (hpat p List.mem_cons_self) hx
    · exact ih hfront hrest

/-- The pattern begins at the first character, or it stands in the lower case of the rest. Between
the characters that one character becomes, it cannot begin. -/
theorem infix_lower_cons_iff (hne : pat ≠ []) (c : Char) (cs : List Char) :
    pat <:+: lower (c :: cs) ↔ pat <+: lower (c :: cs) ∨ pat <:+: lower cs := by
  have hlower : lower (c :: cs) = lowerChar c ++ lower cs := rfl
  constructor
  · intro h
    rcases lowerChar_cases c with hc | ⟨x, more, hc, hx, hmore⟩
    · rw [hlower, hc, List.singleton_append] at h ⊢
      exact List.infix_cons_iff.mp h
    · rw [hlower, hc] at h
      exact .inr (infix_append_iff hpat hne (List.forall_mem_cons.mpr ⟨hx, hmore⟩) h)
  · rintro (h | h)
    · exact h.isInfix
    · rw [hlower]
      exact h.trans (List.suffix_append _ _).isInfix

/-- **A word of pure letters** occurs in the lower case of a text exactly if the text has it, in any
letter case. -/
theorem occursIn_lower_iff (hne : pat ≠ []) :
    occursIn pat (lower cs) = true ↔
      ∃ before word after, cs = before ++ word ++ after ∧ sameIgnoringCase word pat = true := by
  -- Pure letters are lower case already, so ignoring the case concerns the text alone.
  have hself : pat.map asciiLower = pat :=
    (List.map_congr_left fun p hp => asciiLower_of_pure (hpat p hp)).trans (List.map_id pat)
  have hsame (word : List Char) : sameIgnoringCase word pat = true ↔ word.map asciiLower = pat := by
    rw [sameIgnoringCase, hself, beq_iff_eq]
  simp only [occursIn_iff, hsame]
  induction cs with
  | nil =>
    refine iff_of_false (fun h => hne (List.infix_nil.mp h)) ?_
    rintro ⟨before, word, after, hnil, hword⟩
    obtain rfl : word = [] := by
      have happend := List.append_eq_nil_iff.mp hnil.symm
      exact (List.append_eq_nil_iff.mp happend.1).2
    exact hne hword.symm
  | cons c cs ih =>
    rw [infix_lower_cons_iff hpat hne, prefix_lower_iff hpat]
    refine (or_congr_right ih).trans ?_
    -- The word begins at the first character, or it stands in the rest.
    constructor
    · rintro (⟨word, after, hcs, hword⟩ | ⟨before, word, after, rfl, hword⟩)
      · exact ⟨[], word, after, hcs, hword⟩
      · exact ⟨c :: before, word, after, rfl, hword⟩
    · rintro ⟨before, word, after, hcs, hword⟩
      cases before with
      | nil => exact .inl ⟨word, after, hcs, hword⟩
      | cons b before => exact .inr ⟨before, word, after, (List.cons.inj hcs).2, hword⟩

end Mention

/-- The word stands in the name, in any letter case. -/
def Mentions (word name : String) : Prop :=
  ∃ before spelling after, name.toList = before ++ spelling ++ after ∧
    sameIgnoringCase spelling word.toList = true

namespace Column

/-- In small letters, the search finds the word however it was written. -/
theorem mentionsJson_iff (typeName : String) :
    occursIn "json".toList (lower typeName.toList) = true ↔ Mentions "json" typeName := by
  have hpure : "json".toList.all pureLetters.contains = true := by decide
  refine occursIn_lower_iff (fun p hp => ?_) (by decide)
  exact List.contains_iff_mem.mp (List.all_eq_true.mp hpure p hp)

/-- **The text of a structured value** is shown as the value where the type of the column mentions
JSON and the value is not nested deeper than is read; everywhere else it is shown as a text. -/
theorem ofText_text {v : Json} (h : v.isPlain = true) (typeName : String) :
    (Mentions "json" typeName → v.depth ≤ Json.maxDepth → ofText typeName v.text = v) ∧
      (Mentions "json" typeName → Json.maxDepth < v.depth →
        ofText typeName v.text = .string v.text) ∧
      (¬ Mentions "json" typeName → ofText typeName v.text = .string v.text) := by
  unfold ofText
  -- A value that is nested too deeply is refused by the reader, and then the text is shown.
  refine ⟨fun hname hdepth => ?_, fun hname hdepth => ?_, fun hname => ?_⟩
  · rw [if_pos ((mentionsJson_iff typeName).mpr hname), Json.parse?_text h, if_pos hdepth]
    rfl
  · rw [if_pos ((mentionsJson_iff typeName).mpr hname), Json.parse?_text h,
      if_neg (Nat.not_le.mpr hdepth)]
    rfl
  · rw [if_neg fun h => hname ((mentionsJson_iff typeName).mp h)]

end Column

/-- A value with what a text may get wrong: both ends of the integers, an escaped key, a control
character, a letter outside ASCII, an empty object, and keys that are not in alphabetical order. -/
def awkwardRecord : Json :=
  .object [("z\"\\", .array [.int (-9223372036854775808), .int 18446744073709551615, .null]),
    ("a", .object [("\x01\n", .string "é"), ("", .object [])])]

end StoreBridge
