/-!
# Decimal digits of natural numbers

`natDigits n` is the usual decimal spelling of `n`, most significant digit first and without
superfluous zeros; `natOfDigits` reads a run of digits back. The main fact is
`natOfDigits_natDigits`: reading undoes spelling.
-/

namespace StoreBridge

/-- An ASCII decimal digit. -/
def isDigit (c : Char) : Bool :=
  '0' ≤ c && c ≤ '9'

/-- The digit character of a value below ten. -/
def digitChar (d : Nat) : Char :=
  Char.ofNat (48 + d)

/-- The value of a digit character. -/
def digitValue (c : Char) : Nat :=
  c.toNat - 48

/-- The decimal spelling of a natural number. -/
def natDigits (n : Nat) : List Char :=
  if n < 10 then [digitChar n] else natDigits (n / 10) ++ [digitChar (n % 10)]
termination_by n

/-- The value of a run of digits, continuing from a value already read. -/
def natOfDigitsFrom (acc : Nat) (cs : List Char) : Nat :=
  cs.foldl (fun n c => 10 * n + digitValue c) acc

/-- The value of a run of digits. -/
def natOfDigits (cs : List Char) : Nat :=
  natOfDigitsFrom 0 cs

/-- The decimal spelling of a natural number, as text. -/
def natText (n : Nat) : String :=
  String.ofList (natDigits n)

/-- The decimal spelling of an integer: a minus sign in front of negative ones. -/
def intDigits (i : Int) : List Char :=
  if i < 0 then '-' :: natDigits i.natAbs else natDigits i.natAbs

/-- The decimal spelling of an integer, as text. -/
def intText (i : Int) : String :=
  String.ofList (intDigits i)

/-- The decimal spelling filled up with zeros on the left to at least `width` characters. -/
def natDigitsPadded (width n : Nat) : List Char :=
  let ds := natDigits n
  List.replicate (width - ds.length) '0' ++ ds

@[simp]
theorem digitValue_digitChar {d : Nat} (h : d < 10) : digitValue (digitChar d) = d := by
  have : ∀ d : Fin 10, digitValue (digitChar d.val) = d.val := by decide
  exact this ⟨d, h⟩

theorem isDigit_digitChar {d : Nat} (h : d < 10) : isDigit (digitChar d) = true := by
  have : ∀ d : Fin 10, isDigit (digitChar d.val) = true := by decide
  exact this ⟨d, h⟩

/-- Reading digits may be interrupted anywhere and continued with what has been read. -/
theorem natOfDigitsFrom_append (acc : Nat) (xs ys : List Char) :
    natOfDigitsFrom acc (xs ++ ys) = natOfDigitsFrom (natOfDigitsFrom acc xs) ys := by
  simp [natOfDigitsFrom]

/-- Every character of a spelling is a digit. -/
theorem isDigit_of_mem_natDigits {n : Nat} {c : Char} (h : c ∈ natDigits n) :
    isDigit c = true := by
  induction n using Nat.strongRecOn with
  | ind n ih =>
    unfold natDigits at h
    split at h
    next hn =>
      have : c = digitChar n := by simpa using h
      exact this ▸ isDigit_digitChar hn
    next hn =>
      rcases List.mem_append.1 h with h | h
      · exact ih _ (by omega) h
      · have : c = digitChar (n % 10) := by simpa using h
        exact this ▸ isDigit_digitChar (Nat.mod_lt _ (by decide))

theorem natDigits_ne_nil (n : Nat) : natDigits n ≠ [] := by
  unfold natDigits
  split <;> simp

/-- Reading a spelling gives the number back. -/
theorem natOfDigits_natDigits (n : Nat) : natOfDigits (natDigits n) = n := by
  induction n using Nat.strongRecOn with
  | ind n ih =>
    unfold natDigits
    split
    next hn => simp [natOfDigits, natOfDigitsFrom, digitValue_digitChar hn]
    next hn =>
      have h := ih (n / 10) (by omega)
      unfold natOfDigits at h ⊢
      rw [natOfDigitsFrom_append, h]
      simp only [natOfDigitsFrom, List.foldl_cons, List.foldl_nil,
        digitValue_digitChar (Nat.mod_lt n (by decide : 0 < 10))]
      omega

/-- A number is known by its digits, since reading them gives it back. -/
theorem natDigits_injective {m n : Nat} (h : natDigits m = natDigits n) : m = n := by
  rw [← natOfDigits_natDigits m, h, natOfDigits_natDigits]

end StoreBridge
