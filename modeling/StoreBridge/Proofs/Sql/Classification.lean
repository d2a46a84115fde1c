import StoreBridge.Sql.Dialect
import StoreBridge.Proofs.Query.Text
import StoreBridge.Proofs.Sql.LimitClause
import StoreBridge.Proofs.Sql.Rendering

/-!
# Reads and inserts in every dialect

A store answers a statement with rows if the text that it was sent opens with `select`, and with an
acknowledgement otherwise. PostgreSQL and Oracle are sent a rendered text, MySQL and SQLite the text
as it was compiled, so the answer would differ in kind if rendering changed how a text opens. It
does not:

* A numbered mark begins with a sign, which is neither blank nor a letter. So a front of blanks and
  letters is copied from the text, and no such front comes into being (`prefix_renderFrom_iff`).
* A limit clause is replaced behind the last character in front of it that is not blank, and a blank
  stands there before and after (`split?_eq_some`). If only blanks are in front of it, the text
  opens with `limit` and then with `fetch`, which are both too short to be one of the two words.

Both tests look at a text of any characters, and cut it after so many bytes. For a word of ASCII
letters this is the same as to look at so many characters (`beginsWith_iff_slice?`).
-/

namespace StoreBridge

/-! ### The first bytes -/

section FirstBytes

variable {word : List Char}

/-- Letters are one byte wide. -/
theorem utf8Len_of_isWordStart {cs : List Char} (h : ∀ c ∈ cs, isWordStart c = true) :
    String.utf8Len cs = cs.length := by
  induction cs with
  | nil => rfl
  | cons c cs ih =>
    obtain ⟨hc, hcs⟩ := List.forall_mem_cons.mp h
    -- A letter is an ASCII character.
    have hwidth : c.utf8Size = 1 := by
      rw [Char.utf8Size_eq_one_iff]
      have hascii : c.toNat ≤ 127 := (toNat_of_isWordStart hc).2.trans (by decide)
      exact hascii
    rw [String.utf8Len_cons, ih hcs, hwidth, List.length_cons]

/-- **The test by bytes.** A text begins with a word of letters exactly when its first bytes, as
many as the word has letters, can be cut off and spell the word. -/
theorem beginsWith_iff_slice? (hword : ∀ c ∈ word, isWordStart c = true) (text : String) :
    beginsWith word text.toList = true ↔
      ∃ head, Placeholder.slice? text 0 ⟨word.length⟩ = some head ∧
        sameIgnoringCase head.toList word = true := by
  constructor
  · intro h
    -- The letters of the word are as many bytes, so the slice is the front of the text.
    have hlength := length_of_sameIgnoringCase h
    have hletters := isWordStart_of_sameIgnoringCase h hword
    refine ⟨String.ofList (text.toList.take word.length), ?_, ?_⟩
    · have hslice := @Placeholder.slice?_eq text [] (text.toList.take word.length)
        (text.toList.drop word.length) (by simp)
      rwa [List.nil_append, utf8Len_of_isWordStart hletters, hlength] at hslice
    · rw [String.toList_ofList]
      exact h
  · rintro ⟨head, hslice, hhead⟩
    have hlength := length_of_sameIgnoringCase hhead
    -- The cut falls between two characters, or there would be no slice.
    have hvalid : (⟨word.length⟩ : String.Pos.Raw).IsValid text := by
      unfold Placeholder.slice? at hslice
      split at hslice
      · next h => exact h.2.2
      · exact absurd hslice nofun
    obtain ⟨front, rest, rfl, hfront⟩ := String.Pos.Raw.isValid_iff_exists_append.mp hvalid
    have hcut := @Placeholder.slice?_eq (front ++ rest) [] front.toList rest.toList (by simp)
    rw [List.nil_append, ← Placeholder.rawEndPos_of_toList rfl, String.ofList_toList,
      ← hfront] at hcut
    obtain rfl : front = head := Option.some.inj (hcut.symm.trans hslice)
    rw [beginsWith, String.toList_append, List.take_left' hlength]
    exact hhead

end FirstBytes

/-! ### The two tests -/

theorem select_letters : ∀ c ∈ "select".toList, isWordStart c = true :=
  List.all_eq_true.mp rfl

/-- A text reads if it opens with `select`. -/
theorem isRead_iff (text : String) :
    isRead text = true ↔ Opens "select".toList text.toList :=
  beginsWith_trim_iff (by decide) select_letters

/-! ### Rendered placeholders -/

/-- A blank or a letter: a character that may stand in front of the end of the opening word. -/
def IsFrontChar (c : Char) : Prop :=
  isBlank c = true ∨ isWordStart c = true

namespace Placeholder

variable {mark : Nat → List Char}

/-- **The front of a rendered text** is the front of the text. -/
theorem prefix_renderFrom_iff (hmark : ∀ n, ∃ c rest, mark n = c :: rest ∧ ¬ IsFrontChar c)
    {front : List Char} (hfront : ∀ c ∈ front, IsFrontChar c) (n : Nat) (cs : List Char) :
    front <+: renderFrom mark none n cs ↔ front <+: cs := by
  -- On the front, character by character, and each stands for itself in the rendered text.
  induction front generalizing cs with
  | nil => simp
  | cons c front ih =>
    obtain ⟨hc, hfront⟩ := List.forall_mem_cons.mp hfront
    have hc_mark : c ≠ '?' := by
      rintro rfl
      exact absurd hc (by unfold IsFrontChar; decide)
    cases cs with
    | nil => simp [renderFrom]
    | cons d cs =>
      by_cases hd : d = '?'
      · -- Neither the placeholder nor its mark is a character of the front.
        subst hd
        obtain ⟨sign, rest, hsign, hplain⟩ := hmark n
        have hrender : renderFrom mark none n ('?' :: cs)
            = sign :: (rest ++ renderFrom mark none (n + 1) cs) := by
          rw [renderFrom]
          simp [hsign]
        rw [hrender, List.cons_prefix_cons, List.cons_prefix_cons]
        constructor
        · rintro ⟨rfl, -⟩
          exact absurd hc hplain
        · rintro ⟨rfl, -⟩
          exact absurd rfl hc_mark
      · have hrender : renderFrom mark none n (d :: cs)
            = d :: renderFrom mark (nextQuote none d) n cs := by
          rw [renderFrom]
          simp [hd]
        rw [hrender, List.cons_prefix_cons, List.cons_prefix_cons]
        refine and_congr_right ?_
        rintro rfl
        -- No quote is open behind a character of the front.
        have hplain : isQuote c = false := by
          refine Bool.eq_false_iff.mpr fun hquote => ?_
          simp only [isQuote, Bool.or_eq_true, beq_iff_eq] at hquote
          rcases hquote with (rfl | rfl) | rfl <;>
            exact absurd hc (by unfold IsFrontChar; decide)
        have hquote : nextQuote none c = none := by simp [nextQuote, hplain]
        rw [hquote]
        exact ih hfront cs

/-- So both open with the same words. -/
theorem opens_renderFrom_iff {word : List Char} (hword : ∀ c ∈ word, isWordStart c = true)
    (hmark : ∀ n, ∃ c rest, mark n = c :: rest ∧ ¬ IsFrontChar c) (text : String) :
    Opens word (String.ofList (renderFrom mark none 0 text.toList)).toList
      ↔ Opens word text.toList := by
  rw [String.toList_ofList]
  unfold Opens
  refine exists_congr fun blanks => exists_congr fun head => ?_
  refine and_congr_left ?_
  rintro ⟨hblanks, hhead⟩
  refine prefix_renderFrom_iff hmark (fun c hc => ?_) 0 text.toList
  -- The front is made of blanks and of letters, which are no placeholders.
  rcases List.mem_append.mp hc with hc | hc
  · exact .inl (hblanks c hc)
  · exact .inr (isWordStart_of_sameIgnoringCase hhead hword c hc)

/-- A numbered mark begins with its sign. -/
theorem numbered_eq_cons {sign : Char} (hsign : ¬ IsFrontChar sign) (cast : Nat → Option String)
    (n : Nat) : ∃ c rest, numbered sign cast n = c :: rest ∧ ¬ IsFrontChar c :=
  ⟨sign, _, rfl, hsign⟩

end Placeholder

/-! ### Replaced limits -/

namespace RowLimit

/-- **What a limit clause stands behind.** The part in front ends in no blank, but blanks follow it,
and a blank follows the word of the clause. -/
theorem split?_eq_some {cs before count : List Char} (h : split? cs = some (before, count)) :
    (∀ c ∈ before.getLast?, isBlank c = false) ∧
      ∃ gap word b rest, cs = before ++ (gap ++ (word ++ b :: rest)) ∧ gap ≠ [] ∧
        (∀ c ∈ gap, isBlank c = true) ∧ sameIgnoringCase word keyword = true ∧
        isBlank b = true := by
  obtain ⟨hbefore, clause, ⟨hgap_ne, hgap, hword, hblanks, -, -, -⟩, rfl⟩ := split?_eq_some_iff.mp h
  rename_i gap word blanks rest
  refine ⟨hbefore, gap, word, ?_⟩
  -- Without a blank behind the word there is the one that the clause ends with.
  cases blanks with
  | nil => exact ⟨' ', _, rfl, hgap_ne, hgap, hword, rfl⟩
  | cons b blanks => exact ⟨b, _, rfl, hgap_ne, hgap, hword, hblanks b List.mem_cons_self⟩

variable {word : List Char}

/-- A text with another limit clause opens with the same words, if they are longer than the word of
the clause. -/
theorem opens_fetchFirst_iff (hne : word ≠ []) (hword : ∀ c ∈ word, isWordStart c = true)
    (hlong : keyword.length < word.length) (text : String) :
    Opens word (fetchFirst text).toList ↔ Opens word text.toList := by
  unfold fetchFirst
  split
  · next before count hsplit =>
    obtain ⟨hlast, gap, limit, b, rest, htext, hgap, hblanks, hlimit, hb⟩ := split?_eq_some hsplit
    have hletters : ∀ c ∈ limit, isWordStart c = true :=
      isWordStart_of_sameIgnoringCase hlimit (List.all_eq_true.mp rfl)
    have hlength := length_of_sameIgnoringCase hlimit
    obtain ⟨g, gap, rfl⟩ := List.exists_cons_of_ne_nil hgap
    have hfetch : before ++ " FETCH FIRST ".toList ++ count ++ " ROWS ONLY".toList
        = before ++ ' ' :: ("FETCH".toList ++ ' ' :: ("FIRST ".toList ++ (count ++
          " ROWS ONLY".toList))) := by
      rw [List.append_assoc, List.append_assoc]
      rfl
    rw [String.toList_ofList, htext, hfetch]
    by_cases hbefore : before = []
    · -- Only blanks are in front of the clause, so its own word opens the text.
      subst hbefore
      have hlimit_ne : limit ≠ [] := by
        rintro rfl
        exact absurd hlength (by decide)
      have hblank : ∀ c ∈ [' '], isBlank c = true := List.forall_mem_singleton.mpr rfl
      have hletters' : ∀ c ∈ "FETCH".toList, isWordStart c = true := List.all_eq_true.mp rfl
      have hshort : "FETCH".toList.length < word.length := by
        have hfetch_length : "FETCH".toList.length = 5 := rfl
        have hkeyword_length : keyword.length = 5 := rfl
        omega
      refine iff_of_false ?_ ?_
      · exact not_opens_of_shorter hne hword hblank hletters' (by decide) hshort (by decide) _
      · exact not_opens_of_shorter hne hword hblanks hletters hlimit_ne (hlength ▸ hlong) hb rest
    · -- Something is in front of both clauses, and it alone decides how the text opens.
      have hsome : ∃ c ∈ before, isBlank c = false :=
        ⟨before.getLast hbefore, List.getLast_mem hbefore,
          hlast _ (List.getLast?_eq_some_getLast hbefore)⟩
      have hg : isBlank g = true := hblanks g List.mem_cons_self
      rw [List.cons_append, opens_append_iff hword (by decide) hsome,
        opens_append_iff hword hg hsome]
  · rfl

end RowLimit

/-! ### Statements -/

namespace Statement

/-- Whether a statement returns rows. -/
def reads : Statement → Bool
  | .select _ _ _ => true
  | _ => false

/-- Whether a statement inserts rows. -/
def inserts : Statement → Bool
  | .insert _ _ _ => true
  | _ => false

/-- A written statement counts as a read exactly if it is a select. -/
theorem isRead_write (st : Statement) : isRead (String.ofList st.write) = st.reads := by
  -- A statement has no blanks in front, and its first characters are given.
  have hfront : isRead (String.ofList st.write) = true ↔
      beginsWith "select".toList (trimStart st.write) = true := by
    rw [isRead_iff, @String.toList_ofList st.write]
    exact (beginsWith_trimStart_iff (by decide) select_letters).symm
  rw [Bool.eq_iff_iff, hfront, ← Bool.eq_iff_iff]
  cases st <;> rfl

/-- It counts as an insert exactly if it is one. -/
theorem isInsert_write (st : Statement) : isInsert (String.ofList st.write) = st.inserts := by
  have hfront : isInsert (String.ofList st.write)
      = beginsWith "insert".toList (trimStart st.write) := by
    unfold isInsert
    rw [@String.toList_ofList st.write]
  rw [hfront]
  cases st <;> rfl

end Statement

section Chains

variable {ops : List Operation}

/-- A chain reads unless one of its steps writes. -/
theorem reads_chainStatement (table : String) :
    (chainStatement table ops).reads = true ↔ ∀ op ∈ ops, op.write? = none := by
  have hlast : (ops.filterMap Operation.write?).getLast? = none ↔ ∀ op ∈ ops, op.write? = none := by
    rw [List.getLast?_eq_none_iff, List.filterMap_eq_nil_iff]
  rw [← hlast]
  unfold chainStatement Draft.statement Draft.reading
  cases (ops.filterMap Operation.write?).getLast? with
  | none => exact iff_of_true rfl rfl
  | some write => cases write <;> exact iff_of_false nofun nofun

/-- A chain inserts if the last of its writing steps does. -/
theorem inserts_chainStatement (table : String) :
    (chainStatement table ops).inserts = true ↔
      ∃ data, (ops.filterMap Operation.write?).getLast? = some (.insert data) := by
  unfold chainStatement Draft.statement Draft.reading
  -- The last write decides the statement.
  cases (ops.filterMap Operation.write?).getLast? with
  | none => exact iff_of_false nofun nofun
  | some write =>
    cases write with
    | insert data => exact iff_of_true rfl ⟨data, rfl⟩
    | update data => exact iff_of_false nofun nofun
    | delete => exact iff_of_false nofun nofun

end Chains

/-! ### Dialects -/

/-- The signs of placeholders are no front characters. -/
theorem not_isFrontChar_sign : ¬ IsFrontChar '$' ∧ ¬ IsFrontChar ':' := by
  unfold IsFrontChar
  decide

/-- Numbering and casting placeholders does not change what a text counts as. -/
theorem isRead_renderCast (cast : Nat → Option String) (text : String) :
    isRead (Placeholder.renderCast cast text) = isRead text := by
  have hmarks := Placeholder.numbered_eq_cons not_isFrontChar_sign.1 cast
  rw [Bool.eq_iff_iff, isRead_iff, isRead_iff]
  exact Placeholder.opens_renderFrom_iff select_letters hmarks text

/-- The limit clause of Oracle does not change what a text counts as. -/
theorem isRead_oracleText (text : String) : isRead (oracleText text) = isRead text := by
  have hmarks := Placeholder.numbered_eq_cons not_isFrontChar_sign.2 fun _ => none
  have hlimit := RowLimit.opens_fetchFirst_iff (by decide) select_letters (by decide)
    (Placeholder.render .colon text)
  rw [Bool.eq_iff_iff, isRead_iff, isRead_iff, oracleText, hlimit]
  exact Placeholder.opens_renderFrom_iff select_letters hmarks text

/-- Every dialect sends a text that reads if the compiled one does. -/
theorem Dialect.isRead_render {d : Dialect} (hd : d ∈ Dialect.all) (r : SqlRequest) :
    isRead (d.render r) = isRead r.text := by
  simp only [Dialect.all, List.mem_cons, List.not_mem_nil, or_false] at hd
  rcases hd with rfl | rfl | rfl | rfl
  · exact isRead_renderCast r.cast? r.text
  · rfl
  · rfl
  · simp only [Dialect.oracle]
    exact isRead_oracleText r.text

/-- **One answer in every dialect.** Whether a text reads is not changed by numbering and casting
its placeholders, whatever the casts are, nor by numbering them and replacing its limit. So every
store answers a request with rows exactly when its text, as it was compiled, reads. A compiled text
reads exactly when no step of its chain writes, and it inserts exactly when the last writing step
does. -/
theorem classification_in_every_dialect :
    (∀ (text : String) (cast : Nat → Option String),
      isRead (Placeholder.renderCast cast text) = isRead text ∧
        isRead (oracleText text) = isRead text) ∧
    (∀ d ∈ Dialect.all, ∀ (r : SqlRequest) (reply : Reply),
      (d.output (d.render r) reply).rows?.isSome = isRead r.text) ∧
    ∀ (s : Schema) (ops : List Operation) (r : SqlRequest), compile s ops = .ok (.sql r) →
      (isRead r.text = true ↔ ∀ op ∈ ops, op.write? = none) ∧
      (isInsert r.text = true ↔
        ∃ data, (ops.filterMap Operation.write?).getLast? = some (.insert data)) := by
  refine ⟨fun text cast => ⟨isRead_renderCast cast text, isRead_oracleText text⟩, ?_, ?_⟩
  · -- What a store answers depends on the rendered text, which reads if the text does.
    intro d hd r reply
    unfold Dialect.output
    rw [Dialect.isRead_render hd r]
    cases isRead r.text <;> rfl
  · intro s ops r h
    obtain ⟨htext, -⟩ := compile_eq_ok_sql h
    -- The text is that of the statement, which says by its first word what it does.
    have hwrite : r.text = String.ofList (chainStatement s.name ops).write := by
      rw [← htext, String.ofList_toList]
    rw [hwrite, Statement.isRead_write, Statement.isInsert_write]
    exact ⟨reads_chainStatement s.name, inserts_chainStatement s.name⟩

/-- Reads guests and limits the rows, then inserts one after all. -/
def lateInsert : List Operation :=
  [.select none, .delete, .limit 3, .insert (.object [("name", .string "ann")])]

/-- A chain that deletes and then inserts is an insert. A text in mixed case with nothing in front
of its limit is a read, also as it is sent to Oracle. -/
theorem lateInsert_classification :
    (∃ r, compile ⟨"guests", .tabular, []⟩ lateInsert = .ok (.sql r) ∧ isRead r.text = false ∧
      isInsert r.text = true) ∧
    isRead "\t seLECT limit 5" = true ∧ isRead (oracleText "\t seLECT limit 5") = true := by
  obtain ⟨hrender, -, hchain⟩ := classification_in_every_dialect
  have hcompiles : ∃ r, compile ⟨"guests", .tabular, []⟩ lateInsert = .ok (.sql r) := ⟨_, rfl⟩
  obtain ⟨r, hr⟩ := hcompiles
  obtain ⟨hread, hinsert⟩ := hchain _ _ _ hr
  have hwrites : ¬ ∀ op ∈ lateInsert, op.write? = none :=
    fun h => absurd (h .delete (by simp [lateInsert])) nofun
  have hselect : isRead "\t seLECT limit 5" = true := by decide
  refine ⟨⟨r, hr, ?_, hinsert.mpr ⟨_, rfl⟩⟩, hselect, ?_⟩
  · rw [← Bool.not_eq_true, hread]
    exact hwrites
  · rw [(hrender _ fun _ => none).2]
    exact hselect

end StoreBridge
