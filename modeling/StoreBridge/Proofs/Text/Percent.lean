import StoreBridge.Text.Percent

/-!
# Percent encoding and back

A text is encoded character by character and decoded byte by byte, so both are brought to the bytes
of characters first (`Bytes.ofText_ofList`). A byte beyond ASCII never stands for an ASCII character
(`toNat_eq_of_mem_utf8EncodeChar`), which is why an ASCII character can be looked for in the bytes
of a text.

Decoding undoes encoding whatever characters are kept, provided the percent sign is not
(`percentDecode_percentEncode`). Encoding leaves a text as it is only if all of its characters are
kept (`percentEncode_eq_self_iff`): any other character becomes three at least. What decoding must
leave as it is are the characters that are no part of an escape (`mem_percentDecode`).
-/

namespace StoreBridge

/-! ### The bytes of a text -/

/-- The list of an array of bytes is that of its data. -/
theorem byteArray_toList_eq (bytes : ByteArray) : bytes.toList = bytes.data.toList := by
  -- The loop that makes the list goes on from any index with what it has done so far.
  have hloop : ∀ (i : Nat) (done : List UInt8),
      ByteArray.toList.loop bytes i done = done.reverse ++ bytes.data.toList.drop i := by
    intro i done
    fun_induction ByteArray.toList.loop bytes i done with
    | case1 i done hi ih =>
      have hlength : i < bytes.data.toList.length := by simpa using hi
      rw [ih, List.drop_eq_getElem_cons hlength]
      simp [ByteArray.get!, hi]
    | case2 i done hi =>
      rw [List.drop_eq_nil_of_le (by simpa using Nat.le_of_not_lt hi), List.append_nil]
  rw [ByteArray.toList, hloop]
  rfl

namespace Bytes

/-- **The bytes of a text** are those of its characters, one after another. -/
theorem ofText_ofList (cs : List Char) :
    ofText (String.ofList cs) = cs.flatMap String.utf8EncodeChar := by
  rw [ofText, byteArray_toList_eq, String.toUTF8_eq_toByteArray, String.toByteArray_ofList,
    List.utf8Encode, List.toList_data_toByteArray]

theorem ofText_singleton (c : Char) : ofText (String.singleton c) = String.utf8EncodeChar c := by
  have hsingle : String.singleton c = String.ofList [c] := by
    rw [← String.toList_inj, String.toList_ofList, String.toList_singleton]
  rw [hsingle, ofText_ofList, List.flatMap_singleton]

/-- The bytes of a text are read back, and nothing else is read as that text. -/
theorem toText?_eq_some_iff {bytes : Bytes} {text : String} :
    toText? bytes = some text ↔ ofText text = bytes := by
  rw [toText?, ofText, byteArray_toList_eq, String.toUTF8_eq_toByteArray, String.fromUTF8?]
  constructor
  · intro h
    obtain ⟨hvalid, htext⟩ := Option.dite_none_right_eq_some.mp h
    rw [← Option.some.inj htext]
    rfl
  · rintro rfl
    exact dif_pos text.isValidUTF8

end Bytes

/-- Every byte of a character beyond ASCII is beyond ASCII. -/
theorem toNat_eq_of_mem_utf8EncodeChar {c : Char} {b : UInt8} (hb : b.toNat < 0x80)
    (h : b ∈ String.utf8EncodeChar c) : c.toNat = b.toNat := by
  -- A first byte is 192 at least, and every further one is 128 at least.
  have hbeyond : ∀ n : Nat, 128 ≤ n → n < 256 → (UInt8.ofNat n).toNat = b.toNat →
      c.toNat = b.toNat := by
    intro n hlow hhigh hn
    rw [UInt8.toNat_ofNat', Nat.mod_eq_of_lt hhigh] at hn
    omega
  have hn : c.val.toNat = c.toNat := rfl
  simp only [String.utf8EncodeChar, hn] at h
  -- A character has one to four bytes, and only a single one is below 128.
  split at h
  · next hascii =>
    rw [List.mem_singleton.mp h, UInt8.toNat_ofNat']
    omega
  · split at h
    · simp only [List.mem_cons, List.not_mem_nil, or_false] at h
      rcases h with rfl | rfl <;> exact hbeyond _ (by omega) (by omega) rfl
    · split at h
      · simp only [List.mem_cons, List.not_mem_nil, or_false] at h
        rcases h with rfl | rfl | rfl <;> exact hbeyond _ (by omega) (by omega) rfl
      · simp only [List.mem_cons, List.not_mem_nil, or_false] at h
        rcases h with rfl | rfl | rfl | rfl <;> exact hbeyond _ (by omega) (by omega) rfl

/-- An ASCII character is one byte. -/
theorem utf8EncodeChar_of_ascii {c : Char} (h : c.toNat < 0x80) :
    String.utf8EncodeChar c = [UInt8.ofNat c.toNat] :=
  if_pos (show c.toNat ≤ 127 by omega)

/-- **An ASCII character stands in a text** where its byte stands among the bytes of the text. -/
theorem Bytes.mem_toList_of_mem_ofText {c : Char} (hc : c.toNat < 0x80) {text : String}
    (h : UInt8.ofNat c.toNat ∈ ofText text) : c ∈ text.toList := by
  rw [← String.ofList_toList (s := text), ofText_ofList, List.mem_flatMap] at h
  -- The byte belongs to some character of the text, which is ASCII as its byte is.
  obtain ⟨d, hd, hbyte⟩ := h
  have hb : (UInt8.ofNat c.toNat).toNat = c.toNat := by
    rw [UInt8.toNat_ofNat']
    omega
  have hsame : d.toNat = c.toNat := by
    rw [toNat_eq_of_mem_utf8EncodeChar (by omega) hbyte, hb]
  rw [← Char.toNat_inj.mp hsame]
  exact hd

/-! ### Decoding -/

/-- A character that begins no escape stands for itself. -/
theorem percentDecode_cons {c : Char} (hc : c ≠ '%') (cs : List Char) :
    percentDecode (c :: cs) = String.utf8EncodeChar c ++ percentDecode cs := by
  rw [percentDecode.eq_def]
  show (if c = '%' then _ else _) = _
  rw [if_neg hc, Bytes.ofText_singleton]

/-- **A byte that is written out** is read back. -/
theorem percentDecode_percentByte (b : UInt8) (cs : List Char) :
    percentDecode (percentByte b ++ cs) = b :: percentDecode cs := by
  have hvalue : ∀ d : Fin 16, hexValue? (hexChar d.val).toUpper = some d.val := by decide
  -- A byte is two digits of base sixteen.
  have hhigh : b.toNat / 16 < 16 := by
    have := b.toNat_lt
    omega
  have hlow : b.toNat % 16 < 16 := by omega
  have hwhole : 16 * (b.toNat / 16) + b.toNat % 16 = b.toNat := by omega
  -- Behind the percent sign there are these two digits, and they are read back.
  show percentDecode ('%' :: (hexChar (b.toNat / 16)).toUpper
    :: (hexChar (b.toNat % 16)).toUpper :: cs) = _
  rw [percentDecode, if_pos rfl, hvalue ⟨_, hhigh⟩, hvalue ⟨_, hlow⟩]
  show UInt8.ofNat (16 * (b.toNat / 16) + b.toNat % 16) :: _ = _
  rw [hwhole, UInt8.ofNat_toNat]

/-- Bytes that are written out are read back. -/
theorem percentDecode_percentBytes (bytes : Bytes) (cs : List Char) :
    percentDecode (bytes.flatMap percentByte ++ cs) = bytes ++ percentDecode cs := by
  induction bytes with
  | nil => rfl
  | cons b bytes ih =>
    rw [List.flatMap_cons, List.append_assoc, percentDecode_percentByte, ih, List.cons_append]

/-- **Decoding undoes encoding**, whatever characters are kept, if the percent sign is none of
them. -/
theorem percentDecode_percentEncode {keep : Char → Bool} (hkeep : keep '%' = false)
    (cs : List Char) :
    percentDecode (percentEncode keep cs) = Bytes.ofText (String.ofList cs) := by
  rw [Bytes.ofText_ofList]
  induction cs with
  | nil => rw [percentEncode, List.flatMap_nil, percentDecode, List.flatMap_nil]
  | cons c cs ih =>
    rw [percentEncode] at ih ⊢
    rw [List.flatMap_cons, List.flatMap_cons, percentChar]
    -- A character that is kept is no percent sign, and so it stands for itself.
    split
    · next hkept =>
      have hc : c ≠ '%' := by
        rintro rfl
        rw [hkeep] at hkept
        exact absurd hkept.2 (by decide)
      rw [List.singleton_append, percentDecode_cons hc, ih]
    · rw [Bytes.ofText_singleton, percentDecode_percentBytes, ih]

/-- **A character that is no part of an escape** is there after decoding. -/
theorem mem_percentDecode {c : Char} (hascii : c.toNat < 0x80) (hsign : c ≠ '%')
    (hdigit : hexValue? c = none) {cs : List Char} (h : c ∈ cs) :
    UInt8.ofNat c.toNat ∈ percentDecode cs := by
  have hown : UInt8.ofNat c.toNat ∈ String.utf8EncodeChar c := by
    rw [utf8EncodeChar_of_ascii hascii]
    exact List.mem_singleton_self _
  -- Along the decoding: an escape takes three characters, everything else is its own bytes.
  fun_induction percentDecode cs with
  | case1 => exact absurd h List.not_mem_nil
  | case2 a b rest high low hb ha ih =>
    -- The two characters of an escape are digits.
    rcases List.mem_cons.mp h with rfl | h
    · exact absurd rfl hsign
    rcases List.mem_cons.mp h with rfl | h
    · rw [hdigit] at ha
      exact absurd ha nofun
    rcases List.mem_cons.mp h with rfl | h
    · rw [hdigit] at hb
      exact absurd hb nofun
    exact List.mem_cons_of_mem _ (ih h)
  | case3 a b rest own hnone ih =>
    rcases List.mem_cons.mp h with rfl | h
    · exact absurd rfl hsign
    exact List.mem_append_right _ (ih h)
  | case4 rest own hshort ih =>
    rcases List.mem_cons.mp h with rfl | h
    · exact absurd rfl hsign
    exact List.mem_append_right _ (ih h)
  | case5 d cs own hd ih =>
    show _ ∈ Bytes.ofText (String.singleton d) ++ percentDecode cs
    rw [Bytes.ofText_singleton]
    rcases List.mem_cons.mp h with rfl | h
    · exact List.mem_append_left _ hown
    · exact List.mem_append_right _ (ih h)

/-! ### Encoding -/

section Encode

variable {keep : Char → Bool} {c : Char} {cs : List Char}

/-- An encoded text consists of characters that are kept as they are, of percent signs and of
hexadecimal digits. -/
theorem of_mem_percentEncode (h : c ∈ percentEncode keep cs) :
    (c.toNat < 0x80 ∧ keep c = true) ∨ c ∈ "%0123456789ABCDEF".toList := by
  obtain ⟨d, -, hchar⟩ := List.mem_flatMap.mp h
  rw [percentChar] at hchar
  split at hchar
  · next hkept =>
    rw [List.mem_singleton.mp hchar]
    exact .inl hkept
  · refine .inr ?_
    -- What is not kept is written byte by byte, a percent sign and two digits each.
    obtain ⟨b, -, hbyte⟩ := List.mem_flatMap.mp hchar
    have hupper : ∀ d : Fin 16, (hexChar d.val).toUpper ∈ "%0123456789ABCDEF".toList := by decide
    have hhigh : b.toNat / 16 < 16 := by
      have := b.toNat_lt
      omega
    have hlow : b.toNat % 16 < 16 := by omega
    rcases List.mem_cons.mp hbyte with rfl | hbyte
    · decide
    · simp only [Bytes.hexOfByte, List.map_cons, List.map_nil, List.mem_cons, List.not_mem_nil,
        or_false] at hbyte
      rcases hbyte with rfl | rfl
      · exact hupper ⟨_, hhigh⟩
      · exact hupper ⟨_, hlow⟩

theorem percentEncode_cons (keep : Char → Bool) (c : Char) (cs : List Char) :
    percentEncode keep (c :: cs) = percentChar keep c ++ percentEncode keep cs := rfl

/-- A text of characters that are kept is encoded as itself. -/
theorem percentEncode_of_kept (h : ∀ c ∈ cs, c.toNat < 0x80 ∧ keep c = true) :
    percentEncode keep cs = cs := by
  induction cs with
  | nil => rfl
  | cons c cs ih =>
    rw [percentEncode_cons, percentChar, if_pos (h c List.mem_cons_self),
      ih fun d hd => h d (List.mem_cons_of_mem _ hd)]
    rfl

/-- A character that is not kept becomes three at least. -/
theorem length_percentChar (h : ¬ (c.toNat < 0x80 ∧ keep c = true)) :
    3 ≤ (percentChar keep c).length := by
  rw [percentChar, if_neg h, Bytes.ofText_singleton]
  obtain ⟨b, rest, hbytes⟩ := List.exists_cons_of_ne_nil (String.utf8EncodeChar_ne_nil (c := c))
  rw [hbytes, List.flatMap_cons, List.length_append]
  exact Nat.le_add_right 3 _

/-- No text gets shorter by being encoded. -/
theorem length_le_percentEncode (keep : Char → Bool) (cs : List Char) :
    cs.length ≤ (percentEncode keep cs).length := by
  induction cs with
  | nil => exact Nat.le_refl 0
  | cons c cs ih =>
    -- A character is kept, or it becomes three characters at least.
    have hchar : 1 ≤ (percentChar keep c).length := by
      by_cases hkept : c.toNat < 0x80 ∧ keep c = true
      · rw [percentChar, if_pos hkept]
        exact Nat.le_refl 1
      · exact Nat.le_of_lt (Nat.lt_of_lt_of_le (by decide) (length_percentChar hkept))
    rw [percentEncode_cons, List.length_append, List.length_cons]
    omega

/-- **Only a text of kept characters** is its own encoding. -/
theorem percentEncode_eq_self_iff :
    percentEncode keep cs = cs ↔ ∀ c ∈ cs, c.toNat < 0x80 ∧ keep c = true := by
  refine ⟨fun h => ?_, percentEncode_of_kept⟩
  induction cs with
  | nil => exact List.forall_mem_nil _
  | cons c cs ih =>
    rw [percentEncode_cons] at h
    by_cases hkept : c.toNat < 0x80 ∧ keep c = true
    · rw [percentChar, if_pos hkept, List.singleton_append] at h
      exact List.forall_mem_cons.mpr ⟨hkept, ih (List.cons.inj h).2⟩
    · -- The encoding is longer than the text.
      have hlength := congrArg List.length h
      rw [List.length_append, List.length_cons] at hlength
      have hchar := length_percentChar hkept
      have hrest := length_le_percentEncode keep cs
      omega

end Encode

end StoreBridge
