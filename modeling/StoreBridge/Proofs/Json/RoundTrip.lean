import StoreBridge.Argument
import StoreBridge.Json.Reader
import StoreBridge.Proofs.Members
import StoreBridge.Proofs.Number.Digits
import StoreBridge.Proofs.Text.Joined

/-!
# Reading what was written

The reader undoes the writer on every value that is `Json.isPlain`: its numbers are integers of 64
bits, with a sign or without one, and no object has a key twice. Strings may be any strings.
`Json.parse?_text` says so of whole texts, and also that a value of a larger `Json.depth` than the
reader allows is refused.

A value is read from the front of a text, so the main statement, `readValue_write`, is about a text
that goes on behind the value (`Reads`). A number has to be told from what follows it, and so the
rest must not begin with a character with which a number goes on (`isNumberPart`). Behind an item or
a member stands a comma or a closing bracket, which is none.

The reader has a bound for its steps where it takes a character, an item or a member each time. The
bound is the length of the text, and what was written is never longer than its text
(`length_le_flatMap_escapeChar`, `length_le_writeItems`, `length_le_writeMembers`).

Lists of items are read by any reader of items that `Reads` them, so the induction over values
(`Json.induct`) meets each list once (`readArray_writeItems`, `readObject_writeMembers`). There is
one lemma for each kind of value (`reads_int`, `reads_array` and so on), and `readValue_write` puts
them together.
-/

namespace StoreBridge

namespace Json

/-! ### Strings -/

/-- A control character is written with four digits, which are read back. -/
theorem readHex4_control {n : Nat} (h : n < 32) (cs : List Char) :
    readHex4 ('0' :: '0' :: hexChar (n / 16) :: hexChar (n % 16) :: cs) = some (n, cs) := by
  have hzero : hexValue? '0' = some 0 := by decide
  have hhigh : hexValue? (hexChar (n / 16)) = some (n / 16) := hexValue?_hexChar (by omega)
  have hlow : hexValue? (hexChar (n % 16)) = some (n % 16) := hexValue?_hexChar (by omega)
  have hvalue : ((0 * 16 + 0) * 16 + n / 16) * 16 + n % 16 = n := by omega
  simp only [readHex4, hzero, hhigh, hlow, Option.bind_eq_bind, Option.bind_some, hvalue]
  rfl

/-- A control character is none of a pair. -/
theorem readUnicode_control {c : Char} (h : c.toNat < 32) (cs : List Char) :
    readUnicode ('0' :: '0' :: hexChar (c.toNat / 16) :: hexChar (c.toNat % 16) :: cs)
      = some (c, cs) := by
  unfold readUnicode
  rw [readHex4_control h]
  have hlow : ¬ (0xDC00 ≤ c.toNat ∧ c.toNat < 0xE000) := by omega
  have hhigh : ¬ (0xD800 ≤ c.toNat ∧ c.toNat < 0xDC00) := by omega
  simp only [Option.bind_eq_bind, Option.bind_some, if_neg hlow, if_neg hhigh, Char.ofNat_toNat]
  rfl

theorem escapeChar_ne_nil (c : Char) : escapeChar c ≠ [] := by
  unfold escapeChar
  repeat' split
  all_goals exact List.cons_ne_nil _ _

/-- Escaping makes no text shorter, which bounds the steps of reading it. -/
theorem length_le_flatMap_escapeChar (cs : List Char) :
    cs.length ≤ (cs.flatMap escapeChar).length := by
  induction cs with
  | nil => exact Nat.le_refl _
  | cons c cs ih =>
    have hchar : 0 < (escapeChar c).length := List.length_pos_iff.mpr (escapeChar_ne_nil c)
    rw [List.flatMap_cons, List.length_append, List.length_cons]
    omega

/-- **A character** is read back as it was written. -/
theorem readStringFrom_escapeChar (steps : Nat) (acc : List Char) (c : Char) (cs : List Char) :
    readStringFrom (steps + 1) acc (escapeChar c ++ cs) = readStringFrom steps (c :: acc) cs := by
  unfold escapeChar
  -- Seven characters have an escape of their own.
  iterate 7
    split
    · next h => rw [h]; rfl
  split
  · next hquote hbackslash _ _ _ _ _ hcontrol =>
    have hescape : readEscape ('u' :: '0' :: '0' :: hexChar (c.toNat / 16) ::
        hexChar (c.toNat % 16) :: cs) = some (c, cs) := readUnicode_control hcontrol cs
    change readStringFrom (steps + 1) acc ('\\' :: 'u' :: '0' :: '0' :: hexChar (c.toNat / 16) ::
        hexChar (c.toNat % 16) :: cs) = _
    rw [readStringFrom, if_neg (by decide), if_pos rfl, hescape]
  · next hquote hbackslash _ _ _ _ _ hcontrol =>
    rw [List.singleton_append, readStringFrom, if_neg hquote, if_neg hbackslash, if_neg hcontrol]

/-- The characters are gathered behind those that were read before. -/
theorem readStringFrom_flatMap {steps : Nat} {cs : List Char} (hsteps : cs.length < steps)
    (acc rest : List Char) :
    readStringFrom steps acc (cs.flatMap escapeChar ++ '"' :: rest)
      = some (acc.reverse ++ cs, rest) := by
  -- Each character costs one step and lands on the pile in front of `acc`, hence `generalizing`.
  induction cs generalizing acc steps with
  | nil =>
    obtain ⟨steps, rfl⟩ := Nat.exists_eq_succ_of_ne_zero (Nat.ne_zero_of_lt hsteps)
    change some (acc.reverse, rest) = _
    rw [List.append_nil]
  | cons c cs ih =>
    obtain ⟨steps, rfl⟩ := Nat.exists_eq_succ_of_ne_zero (Nat.ne_zero_of_lt hsteps)
    rw [List.flatMap_cons, List.append_assoc, readStringFrom_escapeChar,
      ih (Nat.lt_of_succ_lt_succ hsteps) (c :: acc), List.reverse_cons, List.append_assoc,
      List.singleton_append]

/-- **A string** is read back as it was written. -/
theorem readString_flatMap (s : String) (rest : List Char) :
    readString (s.toList.flatMap escapeChar ++ '"' :: rest) = some (s, rest) := by
  have hsteps : s.toList.length < (s.toList.flatMap escapeChar ++ '"' :: rest).length + 1 := by
    have hchars := length_le_flatMap_escapeChar s.toList
    rw [List.length_append]
    omega
  rw [readString, readStringFrom_flatMap hsteps, List.reverse_nil, List.nil_append]
  change some (String.ofList s.toList, rest) = _
  rw [String.ofList_toList]

/-! ### Integers -/

/-- The characters with which a number may go on. -/
def isNumberPart (c : Char) : Bool :=
  isDigit c || c = '.' || c = 'e' || c = 'E'

/-- The largest integer of 64 bits without a sign. -/
def maxUInt64 : Int := 18446744073709551615

/-- As long as the value fits, no digit is dropped: the digits are gathered into their value, and
the count of dropped ones stays zero. -/
theorem gatherWhole_eq {acc : Nat} {cs : List Char}
    (h : natOfDigitsFrom acc cs ≤ Literal.maxSignificand) :
    Literal.gatherWhole acc cs = (natOfDigitsFrom acc cs, 0) := by
  induction cs generalizing acc with
  | nil => rfl
  | cons c cs ih =>
    have hstep : natOfDigitsFrom acc (c :: cs) = natOfDigitsFrom (10 * acc + digitValue c) cs := rfl
    rw [hstep] at h ⊢
    -- The value never shrinks with a further digit, so the bound on the whole bounds each step.
    have hnext : 10 * acc + digitValue c ≤ Literal.maxSignificand := by
      refine Nat.le_trans ?_ h
      rw [natOfDigitsFrom_eq]
      refine Nat.le_trans (Nat.le_mul_of_pos_right _ (Nat.pow_pos (by decide)))
        (Nat.le_add_right _ _)
    unfold Literal.gatherWhole
    rw [if_neg (Nat.not_lt.mpr hnext)]
    exact ih h

/-- The reader of digits takes a run of digits and stops where no digit follows. -/
theorem readDigits_append {ds rest : List Char} (hds : IsDigits ds) (hrest : StopsAt isDigit rest) :
    readDigits (ds ++ rest) = (ds, rest) := by
  have hdrop : rest.dropWhile isDigit = rest := by
    cases rest with
    | nil => rfl
    | cons c cs => rw [List.dropWhile_cons_of_neg (by rw [hrest c rfl]; decide)]
  have htake : rest.takeWhile isDigit = [] := by
    cases rest with
    | nil => rfl
    | cons c cs => rw [List.takeWhile_cons_of_neg (by rw [hrest c rfl]; decide)]
  rw [readDigits, List.takeWhile_append_of_pos hds, List.dropWhile_append_of_pos hds, hdrop, htake,
    List.append_nil]

/-- A spelling begins with a zero only if it is the one of zero. -/
theorem readWhole_natDigits (n : Nat) {rest : List Char} (hrest : StopsAt isDigit rest) :
    readWhole (natDigits n ++ rest) = some (natDigits n, rest) := by
  unfold readWhole
  rw [readDigits_append (isDigits_natDigits n) hrest]
  -- The grammar allows a leading zero only in front of nothing else, so zero is a case of its own.
  rcases Nat.eq_zero_or_pos n with rfl | hpos
  · rw [natDigits_of_lt (by decide)]
    rfl
  · have hhead := head?_natDigits_ne hpos
    obtain ⟨c, cs, hcs⟩ := List.exists_cons_of_ne_nil (natDigits_ne_nil n)
    rw [hcs] at hhead ⊢
    split
    · next h => exact absurd (Prod.mk.inj h).1 nofun
    · next h => exact absurd (congrArg List.head? (Prod.mk.inj h).1) hhead
    · next h => exact absurd (congrArg List.head? (Prod.mk.inj h).1) hhead
    · next h =>
      obtain ⟨rfl, rfl⟩ := Prod.mk.inj h
      rfl

/-- The part of a number behind its sign. -/
def readMagnitude (negative : Bool) (cs : List Char) : Option (Json × List Char) := do
  let (whole, cs) ← readWhole cs
  let (fraction, cs) ← readFraction cs
  let (exponent, cs) ← readExponent cs
  let value ← Literal.value? ⟨negative, whole, fraction, exponent⟩
  return (value, cs)

theorem readNumber_minus (cs : List Char) : readNumber ('-' :: cs) = readMagnitude true cs := rfl

/-- Without a minus sign in front the magnitude begins at once. -/
theorem readNumber_of_ne {c : Char} (hc : c ≠ '-') (cs : List Char) :
    readNumber (c :: cs) = readMagnitude false (c :: cs) := by
  unfold readNumber
  split
  next h =>
    split at h
    · next heq => exact absurd (List.cons.inj heq).1 hc
    · obtain ⟨rfl, rfl⟩ := Prod.mk.inj h
      rfl

section Number

variable {rest : List Char} (hrest : StopsAt isNumberPart rest)

include hrest

/-- What stands behind a number is no digit. -/
theorem stopsAt_isDigit : StopsAt isDigit rest := by
  intro c hc
  have hpart := hrest c hc
  simp only [isNumberPart, Bool.or_eq_false_iff] at hpart
  exact hpart.1.1.1

/-- Without a point behind the digits there is no fraction. -/
theorem readFraction_of_stopsAt : readFraction rest = some ([], rest) := by
  unfold readFraction
  split
  · exact absurd (hrest _ rfl) (by decide)
  · rfl

/-- Without an `e` behind the digits there is no exponent. -/
theorem readExponent_of_stopsAt : readExponent rest = some (none, rest) := by
  unfold readExponent
  split
  · next c cs =>
    have hmark : ¬ (c = 'e' ∨ c = 'E') := by
      rintro (rfl | rfl) <;> exact absurd (hrest _ rfl) (by decide)
    rw [if_neg hmark]
  · rfl

/-- The digits of a number that is no larger than what a significand holds. -/
theorem readMagnitude_natDigits {negative : Bool} {n : Nat} {value : Json}
    (hvalue : Literal.value? ⟨negative, natDigits n, [], none⟩ = some value) :
    readMagnitude negative (natDigits n ++ rest) = some (value, rest) := by
  simp only [readMagnitude, readWhole_natDigits n (stopsAt_isDigit hrest),
    readFraction_of_stopsAt hrest, readExponent_of_stopsAt hrest, hvalue, Option.bind_eq_bind,
    Option.bind_some]
  rfl

/-- **An integer** is read back as it was written. -/
theorem readNumber_intDigits {i : Int} (hlo : minInt64 ≤ i) (hhi : i ≤ maxUInt64) :
    readNumber (intDigits i ++ rest) = some (.int i, rest) := by
  have hmin : minInt64 = -9223372036854775808 := rfl
  have hlargest : maxUInt64 = 18446744073709551615 := rfl
  have hmax : Literal.maxSignificand = 18446744073709551615 := by decide
  -- No digit of a 64-bit integer is dropped, whatever its sign.
  have hgather : Literal.gatherWhole 0 (natDigits i.natAbs) = (i.natAbs, 0) := by
    have hdigits : natOfDigitsFrom 0 (natDigits i.natAbs) = i.natAbs := natOfDigits_natDigits _
    rw [gatherWhole_eq (by rw [hdigits]; omega), hdigits]
  by_cases hneg : i < 0
  · have hvalue : Literal.value? ⟨true, natDigits i.natAbs, [], none⟩ = some (.int i) := by
      have hrange : 0 < i.natAbs ∧ i.natAbs ≤ pow2 63 := by
        have hpow : pow2 63 = 9223372036854775808 := by decide
        omega
      have habs : -(i.natAbs : Int) = i := by omega
      simp only [Literal.value?, hgather, Literal.isWhole, List.isEmpty_nil, Option.isNone_none,
        Bool.and_self, and_self, if_true, if_pos hrange, habs]
    rw [intDigits, if_pos hneg, List.cons_append, readNumber_minus]
    exact readMagnitude_natDigits hrest hvalue
  · have hvalue : Literal.value? ⟨false, natDigits i.natAbs, [], none⟩ = some (.int i) := by
      have habs : (i.natAbs : Int) = i := by omega
      simp only [Literal.value?, hgather, Literal.isWhole, List.isEmpty_nil, Option.isNone_none,
        Bool.and_self, and_self, if_true, habs]
      rfl
    -- The first character is a digit, so the reader does not take it for a sign.
    obtain ⟨c, cs, hcs⟩ := List.exists_cons_of_ne_nil (natDigits_ne_nil i.natAbs)
    have hc : c ≠ '-' := by
      rintro rfl
      have hdigit : isDigit '-' = true := isDigits_natDigits i.natAbs '-' (by simp [hcs])
      exact absurd hdigit (by decide)
    rw [intDigits, if_neg hneg, hcs, List.cons_append, readNumber_of_ne hc, ← List.cons_append,
      ← hcs]
    exact readMagnitude_natDigits hrest hvalue

end Number

/-! ### Depth -/

mutual

/-- How many arrays and objects are nested in each other. -/
def depth : Json → Nat
  | .array items => depthOfItems items + 1
  | .object members => depthOfMembers members + 1
  | _ => 0

/-- The largest depth of some items. -/
def depthOfItems : List Json → Nat
  | [] => 0
  | item :: rest => max (depth item) (depthOfItems rest)

/-- The largest depth of the values of some members. -/
def depthOfMembers : List (String × Json) → Nat
  | [] => 0
  | (_, value) :: rest => max (depth value) (depthOfMembers rest)

end

mutual

/-- Whether a value has a text that spells it: its numbers are integers of 64 bits, with a sign or
without one, and no object has a key twice. -/
def isPlain : Json → Bool
  | .int i => minInt64 ≤ i && i ≤ maxUInt64
  | .double _ => false
  | .array items => itemsPlain items
  | .object members => decide (Members.keys members).Nodup && membersPlain members
  | _ => true

/-- Whether all items are plain. -/
def itemsPlain : List Json → Bool
  | [] => true
  | item :: rest => isPlain item && itemsPlain rest

/-- Whether the values of all members are plain. -/
def membersPlain : List (String × Json) → Bool
  | [] => true
  | (_, value) :: rest => isPlain value && membersPlain rest

end

/-- Every value is built from those in it. -/
theorem induct {P : Json → Prop} (null : P .null) (bool : ∀ b, P (.bool b)) (int : ∀ i, P (.int i))
    (double : ∀ x, P (.double x)) (string : ∀ s, P (.string s))
    (array : ∀ items, (∀ v ∈ items, P v) → P (.array items))
    (object : ∀ members, (∀ m ∈ members, P m.2) → P (.object members)) (v : Json) : P v :=
  match v with
  | .null => null
  | .bool b => bool b
  | .int i => int i
  | .double x => double x
  | .string s => string s
  | .array items => array items fun v _ => induct null bool int double string array object v
  | .object members =>
    object members fun m _ => induct null bool int double string array object m.2
termination_by sizeOf v
decreasing_by
  · -- An item is smaller than its array, and the value of a member smaller than its object.
    have hsize := List.sizeOf_lt_of_mem ‹v ∈ items›
    simp only [Json.array.sizeOf_spec]
    omega
  · have hsize := List.sizeOf_lt_of_mem ‹m ∈ members›
    have hpair : sizeOf m = 1 + sizeOf m.1 + sizeOf m.2 := rfl
    simp only [Json.object.sizeOf_spec]
    omega

/-- An array is plain if its items are. -/
theorem itemsPlain_iff {items : List Json} :
    itemsPlain items = true ↔ ∀ v ∈ items, v.isPlain = true := by
  induction items with
  | nil => simp [itemsPlain]
  | cons v rest ih => rw [itemsPlain, Bool.and_eq_true, ih, List.forall_mem_cons]

/-- An object is plain if its values are. -/
theorem membersPlain_iff {members : Members} :
    membersPlain members = true ↔ ∀ m ∈ members, m.2.isPlain = true := by
  induction members with
  | nil => simp [membersPlain]
  | cons m rest ih => rw [membersPlain, Bool.and_eq_true, ih, List.forall_mem_cons]

/-! ### Values -/

theorem skipSpace_cons {c : Char} (h : isSpace c = false) (cs : List Char) :
    skipSpace (c :: cs) = c :: cs := by
  rw [skipSpace, List.dropWhile_cons_of_neg (by rw [h]; decide)]

/-- The first character of an integer. -/
def isNumberStart (c : Char) : Bool :=
  c = '-' || isDigit c

/-- A whole number begins with a minus sign or a digit. -/
theorem intDigits_opens (i : Int) :
    ∃ c cs, intDigits i = c :: cs ∧ isNumberStart c = true := by
  unfold intDigits
  split
  · exact ⟨'-', _, rfl, rfl⟩
  · obtain ⟨c, cs, hcs⟩ := List.exists_cons_of_ne_nil (natDigits_ne_nil i.natAbs)
    have hdigit : isDigit c = true := isDigits_natDigits i.natAbs c (by simp [hcs])
    exact ⟨c, cs, hcs, Bool.or_eq_true_iff.mpr (.inr hdigit)⟩

theorem ne_of_isNumberStart {c : Char} (h : isNumberStart c = true) {x : Char}
    (hx : isNumberStart x = false) : c ≠ x := by
  rintro rfl
  rw [h] at hx
  exact absurd hx (by decide)

/-- No blank begins a number. -/
theorem isSpace_of_isNumberStart {c : Char} (h : isNumberStart c = true) : isSpace c = false := by
  refine Bool.eq_false_iff.mpr fun hspace => ?_
  simp only [isSpace, Bool.or_eq_true, beq_iff_eq] at hspace
  rcases hspace with ((rfl | rfl) | rfl) | rfl <;> exact absurd h (by decide)

/-- The text of a plain value begins with no blank and does not close an array. -/
theorem write_opens {v : Json} (h : v.isPlain = true) :
    ∃ c cs, v.write = c :: cs ∧ isSpace c = false ∧ c ≠ ']' := by
  cases v with
  | null => exact ⟨'n', _, rfl, rfl, by decide⟩
  | bool b => cases b <;> exact ⟨_, _, rfl, by decide, by decide⟩
  | double x => exact absurd h nofun
  | string s => exact ⟨'"', _, rfl, rfl, by decide⟩
  | array items => exact ⟨'[', _, rfl, rfl, by decide⟩
  | object members => exact ⟨'\x7b', _, rfl, rfl, by decide⟩
  | int i =>
    obtain ⟨c, cs, hcs, hstart⟩ := intDigits_opens i
    exact ⟨c, cs, hcs, isSpace_of_isNumberStart hstart, ne_of_isNumberStart hstart (by decide)⟩

/-- The reader reads a value back from its text, whatever follows it, if the value is not nested too
deeply, and refuses it otherwise. -/
def Reads (item : List Char → Option (Json × List Char)) (d : Nat) (v : Json) : Prop :=
  ∀ rest, StopsAt isNumberPart rest →
    item (v.write ++ rest) = if v.depth ≤ d then some (v, rest) else none

section Containers

variable {item : List Char → Option (Json × List Char)} {d : Nat}

/-- The item in front of the closing bracket is the last one. -/
theorem readItems_last {v : Json} (hv : Reads item d v) (steps : Nat) (rest : List Char) :
    readItems item (steps + 1) (v.write ++ ']' :: rest)
      = if v.depth ≤ d then some ([v], rest) else none := by
  change (item (v.write ++ ']' :: rest) >>= _) = _
  rw [hv _ (stopsAt_cons rfl)]
  split <;> rfl

/-- An item in front of a comma comes before the items that are read behind the comma. -/
theorem readItems_comma {v : Json} (hv : Reads item d v) (steps : Nat) (cs : List Char) :
    readItems item (steps + 1) (v.write ++ ',' :: cs)
      = if v.depth ≤ d then (readItems item steps cs).map fun p => (v :: p.1, p.2) else none := by
  change (item (v.write ++ ',' :: cs) >>= _) = _
  rw [hv _ (stopsAt_cons rfl)]
  split
  · change (readItems item steps cs >>= fun p => some (v :: p.1, p.2)) = _
    cases readItems item steps cs <;> rfl
  · rfl

/-- **The items of an array** are read back from their text, one step for each of them, exactly if
none is nested too deeply. What stands behind the closing bracket is left. -/
theorem readItems_writeItems {items : List Json} (hne : items ≠ [])
    (hitems : ∀ v ∈ items, Reads item d v) {steps : Nat} (hsteps : items.length ≤ steps)
    (rest : List Char) :
    readItems item steps (writeItems items ++ ']' :: rest)
      = if depthOfItems items ≤ d then some (items, rest) else none := by
  induction items generalizing steps with
  | nil => exact absurd rfl hne
  | cons v more ih =>
    obtain ⟨steps, rfl⟩ := Nat.exists_eq_succ_of_ne_zero (Nat.ne_zero_of_lt hsteps)
    obtain ⟨hv, hmore⟩ := List.forall_mem_cons.mp hitems
    -- The bracket or a comma stands behind the item, depending on whether there is another one.
    cases more with
    | nil =>
      have hdepth : depthOfItems [v] = v.depth := Nat.max_zero _
      rw [hdepth]
      exact readItems_last hv steps rest
    | cons w more =>
      have hwrite : writeItems (v :: w :: more) ++ ']' :: rest
          = v.write ++ ',' :: (writeItems (w :: more) ++ ']' :: rest) := by
        simp only [writeItems, List.append_assoc, List.cons_append]
      have hdepth : depthOfItems (v :: w :: more) ≤ d ↔
          v.depth ≤ d ∧ depthOfItems (w :: more) ≤ d :=
        Nat.max_le
      rw [hwrite, readItems_comma hv,
        ih (List.cons_ne_nil w more) hmore (Nat.le_of_succ_le_succ hsteps)]
      -- Either depth alone makes the whole too deep.
      by_cases hfirst : v.depth ≤ d
      · simp only [hdepth, hfirst, true_and, if_true]
        split <;> rfl
      · rw [if_neg hfirst, if_neg fun h => hfirst (hdepth.mp h).1]

/-- A key is read back with its colon. -/
theorem readKey_writeString (key : String) (cs : List Char) :
    readKey (writeString key ++ ':' :: cs) = some (key, cs) := by
  have htext : writeString key ++ ':' :: cs
      = '"' :: (key.toList.flatMap escapeChar ++ '"' :: ':' :: cs) := by
    simp only [writeString, List.cons_append, List.append_assoc, List.nil_append]
  rw [htext]
  unfold readKey
  rw [skipSpace_cons (by decide)]
  change (readString _ >>= _) = _
  rw [readString_flatMap]
  rfl

/-- The member in front of the closing brace is the last one. -/
theorem readMembers_last {v : Json} (hv : Reads item d v) (key : String) (steps : Nat)
    (rest : List Char) :
    readMembers item (steps + 1) (writeString key ++ ':' :: (v.write ++ '\x7d' :: rest))
      = if v.depth ≤ d then some ([(key, v)], rest) else none := by
  unfold readMembers
  rw [readKey_writeString]
  change (item (v.write ++ '\x7d' :: rest) >>= _) = _
  rw [hv _ (stopsAt_cons rfl)]
  split <;> rfl

/-- A member in front of a comma comes before the members that are read behind the comma. -/
theorem readMembers_comma {v : Json} (hv : Reads item d v) (key : String) (steps : Nat)
    (cs : List Char) :
    readMembers item (steps + 1) (writeString key ++ ':' :: (v.write ++ ',' :: cs))
      = if v.depth ≤ d then (readMembers item steps cs).map fun p => ((key, v) :: p.1, p.2)
        else none := by
  -- The members behind the comma are read by the same function, which stays as it is.
  conv_lhs => unfold readMembers
  rw [readKey_writeString]
  change (item (v.write ++ ',' :: cs) >>= _) = _
  rw [hv _ (stopsAt_cons rfl)]
  split
  · change (readMembers item steps cs >>= fun p => some ((key, v) :: p.1, p.2)) = _
    cases readMembers item steps cs <;> rfl
  · rfl

/-- **The members of an object** are read back from their text with their keys, one step for each of
them, exactly if no value among them is nested too deeply. A key that occurs twice is read twice. -/
theorem readMembers_writeMembers {members : Members} (hne : members ≠ [])
    (hmembers : ∀ m ∈ members, Reads item d m.2) {steps : Nat} (hsteps : members.length ≤ steps)
    (rest : List Char) :
    readMembers item steps (writeMembers members ++ '\x7d' :: rest)
      = if depthOfMembers members ≤ d then some (members, rest) else none := by
  induction members generalizing steps with
  | nil => exact absurd rfl hne
  | cons m more ih =>
    obtain ⟨key, v⟩ := m
    obtain ⟨steps, rfl⟩ := Nat.exists_eq_succ_of_ne_zero (Nat.ne_zero_of_lt hsteps)
    obtain ⟨hv, hmore⟩ := List.forall_mem_cons.mp hmembers
    -- The brace or a comma stands behind the value, depending on whether there is another member.
    cases more with
    | nil =>
      have hwrite : writeMembers [(key, v)] ++ '\x7d' :: rest
          = writeString key ++ ':' :: (v.write ++ '\x7d' :: rest) := by
        simp only [writeMembers, List.append_assoc, List.cons_append]
      have hdepth : depthOfMembers [(key, v)] = v.depth := Nat.max_zero _
      rw [hwrite, hdepth]
      exact readMembers_last hv key steps rest
    | cons w more =>
      have hwrite : writeMembers ((key, v) :: w :: more) ++ '\x7d' :: rest
          = writeString key ++ ':' ::
            (v.write ++ ',' :: (writeMembers (w :: more) ++ '\x7d' :: rest)) := by
        simp only [writeMembers, List.append_assoc, List.cons_append]
      have hdepth : depthOfMembers ((key, v) :: w :: more) ≤ d
          ↔ v.depth ≤ d ∧ depthOfMembers (w :: more) ≤ d := Nat.max_le
      rw [hwrite, readMembers_comma hv,
        ih (List.cons_ne_nil w more) hmore (Nat.le_of_succ_le_succ hsteps)]
      -- Either depth alone makes the whole too deep.
      by_cases hfirst : v.depth ≤ d
      · simp only [hdepth, hfirst, true_and, if_true]
        split <;> rfl
      · rw [if_neg hfirst, if_neg fun h => hfirst (hdepth.mp h).1]

/-- A text is at least as long as it has items, so the length of the text is enough for the
steps. -/
theorem length_le_writeItems {items : List Json} (h : ∀ v ∈ items, v.isPlain = true) :
    items.length ≤ (writeItems items).length := by
  induction items with
  | nil => exact Nat.le_refl _
  | cons v more ih =>
    obtain ⟨hv, hmore⟩ := List.forall_mem_cons.mp h
    obtain ⟨c, cs, hwrite, -⟩ := write_opens hv
    -- Every item has a first character, the commas come on top.
    have hpos : 0 < v.write.length := by simp [hwrite]
    cases more with
    | nil => exact hpos
    | cons w more =>
      have hrest := ih hmore
      simp only [writeItems, List.length_append, List.length_cons] at hrest ⊢
      omega

/-- A text is at least as long as it has members: each one has at least its colon. -/
theorem length_le_writeMembers (members : Members) :
    members.length ≤ (writeMembers members).length := by
  induction members with
  | nil => exact Nat.le_refl _
  | cons m more ih =>
    obtain ⟨key, v⟩ := m
    cases more with
    | nil =>
      simp only [writeMembers, List.length_append, List.length_cons, List.length_nil]
      omega
    | cons w more =>
      simp only [writeMembers, List.length_append, List.length_cons] at ih ⊢
      omega

/-- **An array** is read one level deeper. -/
theorem readArray_writeItems {items : List Json} (hplain : ∀ v ∈ items, v.isPlain = true)
    (hitems : ∀ v ∈ items, Reads item d v) (rest : List Char) :
    readArray item (writeItems items ++ ']' :: rest)
      = if depthOfItems items ≤ d then some (.array items, rest) else none := by
  cases items with
  | nil =>
    rw [if_pos (show depthOfItems [] ≤ d from Nat.zero_le d)]
    rfl
  | cons v more =>
    have hlength : (v :: more).length ≤ (writeItems (v :: more) ++ ']' :: rest).length := by
      rw [List.length_append]
      exact Nat.le_trans (length_le_writeItems hplain) (Nat.le_add_right _ _)
    have hread := readItems_writeItems (List.cons_ne_nil v more) hitems hlength rest
    -- The first item begins with neither a blank nor the closing bracket.
    obtain ⟨c, cs, hc, hspace, hclose⟩ : ∃ c cs, writeItems (v :: more) ++ ']' :: rest = c :: cs ∧
        isSpace c = false ∧ c ≠ ']' := by
      obtain ⟨c, cs, hwrite, hspace, hclose⟩ := write_opens (hplain v List.mem_cons_self)
      cases more with
      | nil => exact ⟨c, _, by rw [writeItems, hwrite]; rfl, hspace, hclose⟩
      | cons w more =>
        refine ⟨c, cs ++ ',' :: writeItems (w :: more) ++ ']' :: rest, ?_, hspace, hclose⟩
        change v.write ++ ',' :: writeItems (w :: more) ++ ']' :: rest = _
        rw [hwrite]
        rfl
    rw [hc] at hread ⊢
    unfold readArray
    rw [skipSpace_cons hspace]
    split
    · next h => exact absurd (List.cons.inj h).1 hclose
    · rw [hread]
      split <;> rfl

/-- **An object** is read one level deeper. -/
theorem readObject_writeMembers {members : Members} (hkeys : members.keys.Nodup)
    (hmembers : ∀ m ∈ members, Reads item d m.2) (rest : List Char) :
    readObject item (writeMembers members ++ '\x7d' :: rest)
      = if depthOfMembers members ≤ d then some (.object members, rest) else none := by
  cases members with
  | nil =>
    rw [if_pos (show depthOfMembers [] ≤ d from Nat.zero_le d)]
    rfl
  | cons m more =>
    have hlength : (m :: more).length ≤ (writeMembers (m :: more) ++ '\x7d' :: rest).length := by
      rw [List.length_append]
      exact Nat.le_trans (length_le_writeMembers _) (Nat.le_add_right _ _)
    have hread := readMembers_writeMembers (List.cons_ne_nil m more) hmembers hlength rest
    -- The first key begins with a quote.
    obtain ⟨cs, hcs⟩ : ∃ cs, writeMembers (m :: more) ++ '\x7d' :: rest = '"' :: cs := by
      obtain ⟨key, v⟩ := m
      cases more <;> exact ⟨_, rfl⟩
    rw [hcs] at hread ⊢
    unfold readObject
    rw [skipSpace_cons (by decide)]
    change (readMembers item ('"' :: cs).length ('"' :: cs)).map _ = _
    rw [hread]
    split
    · rw [Option.map_some]
      change some (Json.object (Members.ofPairs (m :: more)), rest) = _
      rw [Members.ofPairs_of_nodup hkeys]
    · rfl

end Containers

/-- A value that opens no container is read by its first character. -/
theorem readValue_scalar {c : Char} (hspace : isSpace c = false) (harray : c ≠ '[')
    (hobject : c ≠ '\x7b') (d : Nat) (cs : List Char) :
    readValue d (c :: cs) = readScalar (c :: cs) := by
  -- Depth matters to a reader only once a bracket or a brace is open.
  cases d with
  | zero =>
    unfold readValue
    rw [skipSpace_cons hspace]
    split
    · next h => exact absurd (List.cons.inj h).1 harray
    · next h => exact absurd (List.cons.inj h).1 hobject
    · rfl
  | succ d =>
    unfold readValue
    rw [skipSpace_cons hspace]
    split
    · next h => exact absurd (List.cons.inj h).1 harray
    · next h => exact absurd (List.cons.inj h).1 hobject
    · rfl

/-- A number is told from the other scalars by its first character. -/
theorem readScalar_number {c : Char} (h : isNumberStart c = true) (cs : List Char) :
    readScalar (c :: cs) = readNumber (c :: cs) := by
  unfold readScalar
  split
  iterate 4
    · next heq => exact absurd (List.cons.inj heq).1 (ne_of_isNumberStart h (by decide))
  · rfl

/-- A null is read back. -/
theorem reads_null (d : Nat) : Reads (readValue d) d .null := by
  intro rest _
  change readValue d ('n' :: 'u' :: 'l' :: 'l' :: rest) = _
  rw [readValue_scalar (by decide) (by decide) (by decide),
    if_pos (show depth .null ≤ d from Nat.zero_le d)]
  rfl

/-- Each of the two words is read back. -/
theorem reads_bool (b : Bool) (d : Nat) : Reads (readValue d) d (.bool b) := by
  intro rest _
  rw [if_pos (show depth (.bool b) ≤ d from Nat.zero_le d)]
  cases b with
  | true =>
    change readValue d ('t' :: 'r' :: 'u' :: 'e' :: rest) = _
    rw [readValue_scalar (by decide) (by decide) (by decide)]
    rfl
  | false =>
    change readValue d ('f' :: 'a' :: 'l' :: 's' :: 'e' :: rest) = _
    rw [readValue_scalar (by decide) (by decide) (by decide)]
    rfl

/-- A whole number is read back, if it fits one of the two kinds of 64 bits. -/
theorem reads_int {i : Int} (hlo : minInt64 ≤ i) (hhi : i ≤ maxUInt64) (d : Nat) :
    Reads (readValue d) d (.int i) := by
  intro rest hrest
  have hread := readNumber_intDigits hrest hlo hhi
  rw [if_pos (show depth (.int i) ≤ d from Nat.zero_le d)]
  change readValue d (intDigits i ++ rest) = _
  obtain ⟨c, cs, hcs, hstart⟩ := intDigits_opens i
  rw [hcs, List.cons_append] at hread ⊢
  rw [readValue_scalar (isSpace_of_isNumberStart hstart) (ne_of_isNumberStart hstart (by decide))
    (ne_of_isNumberStart hstart (by decide)), readScalar_number hstart, hread]

/-- A text is read back, with its escapes undone. -/
theorem reads_string (s : String) (d : Nat) : Reads (readValue d) d (.string s) := by
  intro rest _
  have htext : (Json.string s).write ++ rest
      = '"' :: (s.toList.flatMap escapeChar ++ '"' :: rest) := by
    simp only [write, writeString, List.cons_append, List.append_assoc, List.nil_append]
  rw [if_pos (show depth (.string s) ≤ d from Nat.zero_le d), htext,
    readValue_scalar (by decide) (by decide) (by decide)]
  change (readString (s.toList.flatMap escapeChar ++ '"' :: rest)).map _ = _
  rw [readString_flatMap]
  rfl

/-- Each array and each object takes one of the levels that are left. -/
theorem reads_array {items : List Json} (hplain : ∀ v ∈ items, v.isPlain = true)
    (hitems : ∀ v ∈ items, ∀ d, Reads (readValue d) d v) (d : Nat) :
    Reads (readValue d) d (.array items) := by
  intro rest _
  have htext : (Json.array items).write ++ rest = '[' :: (writeItems items ++ ']' :: rest) := by
    simp only [write, List.cons_append, List.append_assoc, List.nil_append]
  rw [htext]
  -- With no level left the bracket alone is refused, and an array is at least one level deep.
  cases d with
  | zero =>
    rw [if_neg (show ¬ depth (.array items) ≤ 0 from Nat.not_succ_le_zero _)]
    rfl
  | succ d =>
    change readArray (readValue d) (writeItems items ++ ']' :: rest) = _
    rw [readArray_writeItems hplain fun v hv => hitems v hv d]
    simp only [depth, Nat.add_le_add_iff_right]

/-- The members take the level that the brace opens. Their keys differ, so collecting them into an
object changes nothing. -/
theorem reads_object {members : Members} (hkeys : members.keys.Nodup)
    (hmembers : ∀ m ∈ members, ∀ d, Reads (readValue d) d m.2) (d : Nat) :
    Reads (readValue d) d (.object members) := by
  intro rest _
  have htext : (Json.object members).write ++ rest
      = '\x7b' :: (writeMembers members ++ '\x7d' :: rest) := by
    simp only [write, List.cons_append, List.append_assoc, List.nil_append]
  rw [htext]
  -- With no level left the brace alone is refused, and an object is at least one level deep.
  cases d with
  | zero =>
    rw [if_neg (show ¬ depth (.object members) ≤ 0 from Nat.not_succ_le_zero _)]
    rfl
  | succ d =>
    change readObject (readValue d) (writeMembers members ++ '\x7d' :: rest) = _
    rw [readObject_writeMembers hkeys fun m hm => hmembers m hm d]
    simp only [depth, Nat.add_le_add_iff_right]

/-- **Reading a value** undoes writing it, at any depth that is left. By induction on the value,
with one lemma above for each of its forms. -/
theorem readValue_write {v : Json} (h : v.isPlain = true) (d : Nat) : Reads (readValue d) d v := by
  -- The depth is generalized: the parts of a container are read with one level less.
  induction v using induct generalizing d with
  | null => exact reads_null d
  | bool b => exact reads_bool b d
  | int i =>
    have hrange := Bool.and_eq_true_iff.mp h
    exact reads_int (of_decide_eq_true hrange.1) (of_decide_eq_true hrange.2) d
  | double x => exact absurd h nofun
  | string s => exact reads_string s d
  | array items ih =>
    have hitems := itemsPlain_iff.mp h
    exact reads_array hitems (fun v hv => ih v hv (hitems v hv)) d
  | object members ih =>
    have hparts := Bool.and_eq_true_iff.mp h
    have hmembers := membersPlain_iff.mp hparts.2
    exact reads_object (of_decide_eq_true hparts.1) (fun m hm => ih m hm (hmembers m hm)) d

/-- **Parsing undoes writing** for the values that are nested no deeper than is read. -/
theorem parse?_text {v : Json} (h : v.isPlain = true) :
    parse? v.text = if v.depth ≤ maxDepth then some v else none := by
  have hread := readValue_write h maxDepth [] (stopsAt_nil _)
  rw [List.append_nil] at hread
  rw [parse?, text, String.toList_ofList, parseWithin?, hread]
  by_cases hdepth : v.depth ≤ maxDepth
  · rw [if_pos hdepth, if_pos hdepth]
    rfl
  · rw [if_neg hdepth, if_neg hdepth]

end Json

end StoreBridge
