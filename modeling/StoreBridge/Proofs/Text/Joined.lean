import StoreBridge.Text.Fold

/-!
# Joined texts

What can be read back from a text that `joinWith` put together.

* `joinWith_append_cons` — singles out one of the joined items, with all that stands before and
  after it;
* `splitOnChar_joinWith` — splitting at a character gives back the items that were joined by it, if
  none of them contains it;
* `append_inj_of_run` — a run of characters of one class is the same in two equal texts, provided
  neither of the texts goes on with such a character;
* `joinWith_append_inj` — the same for a joined list: if single items can be told from what follows
  them, so can the whole list, provided the text behind it does not begin with the separator.

The last one carries all unambiguity arguments about statement texts. Its hypothesis speaks of the
text behind an item (`Ends`) because an item alone is never decodable: nothing tells where a name
stops except the character after it.
-/

namespace StoreBridge

/-- A property of all characters below a bound can be checked one by one. -/
theorem forall_char_lt {n : Nat} {P : Char → Prop} (h : ∀ k : Fin n, P (Char.ofNat k.val)) :
    ∀ c : Char, c.toNat < n → P c := by
  intro c hc
  have hchar := h ⟨c.toNat, hc⟩
  rwa [Char.ofNat_toNat] at hchar

/-- The text does not begin with a character of the class `p`. -/
def StopsAt (p : Char → Bool) (rest : List Char) : Prop :=
  ∀ c ∈ rest.head?, p c = false

theorem stopsAt_nil (p : Char → Bool) : StopsAt p [] := by
  intro c hc
  simp at hc

/-- A text that begins with a character of another class stops the class. -/
theorem stopsAt_cons {p : Char → Bool} {c : Char} {rest : List Char} (h : p c = false) :
    StopsAt p (c :: rest) := by
  intro d hd
  obtain rfl : c = d := by simpa using hd
  exact h

/-- A run of one class can be told from a text that stops that class. The induction takes the runs
apart one character at a time; where one of them is shorter, the text behind it would have to go on
with the class. -/
theorem append_inj_of_run {p : Char → Bool} {xs ys rest rest' : List Char}
    (hx : ∀ c ∈ xs, p c = true) (hy : ∀ c ∈ ys, p c = true)
    (hr : StopsAt p rest) (hr' : StopsAt p rest') (h : xs ++ rest = ys ++ rest') :
    xs = ys ∧ rest = rest' := by
  induction xs generalizing ys with
  | nil =>
    cases ys with
    | nil => exact ⟨rfl, h⟩
    | cons y ys =>
      -- The text behind the shorter run would begin with a character of the class.
      have hc := hr y (by rw [List.nil_append] at h; rw [h]; simp)
      rw [hy y (by simp)] at hc
      exact absurd hc (by decide)
  | cons x xs ih =>
    cases ys with
    | nil =>
      have hc := hr' x (by rw [List.nil_append] at h; rw [← h]; simp)
      rw [hx x (by simp)] at hc
      exact absurd hc (by decide)
    | cons y ys =>
      rw [List.cons_append, List.cons_append, List.cons.injEq] at h
      obtain ⟨rfl, htail⟩ := h
      obtain ⟨rfl, hrest⟩ := ih (fun c hc => hx c (List.mem_cons_of_mem _ hc))
        (fun c hc => hy c (List.mem_cons_of_mem _ hc)) htail
      exact ⟨rfl, hrest⟩

section Join

variable {sep : List Char}

/-- The first item, and every further one behind a separator. -/
theorem joinWith_cons (x : List Char) (xs : List (List Char)) :
    joinWith sep (x :: xs) = x ++ xs.flatMap (sep ++ ·) := by
  induction xs generalizing x with
  | nil => simp [joinWith]
  | cons y ys ih =>
    rw [joinWith, ih y, List.flatMap_cons, List.append_assoc, List.append_assoc]
    simp

/-- One item among the others. -/
theorem joinWith_append_cons (before after : List (List Char)) (x : List Char) :
    joinWith sep (before ++ x :: after)
      = before.flatMap (· ++ sep) ++ (x ++ after.flatMap (sep ++ ·)) := by
  -- Behind the first item there is another one, so that it has a separator behind it.
  induction before with
  | nil => rw [List.nil_append, joinWith_cons, List.flatMap_nil, List.nil_append]
  | cons y ys ih =>
    obtain ⟨z, zs, hz⟩ : ∃ z zs, ys ++ x :: after = z :: zs := by
      cases ys <;> simp
    have hstep : joinWith sep (y :: z :: zs) = y ++ sep ++ joinWith sep (z :: zs) := rfl
    rw [List.cons_append, hz, hstep, ← hz, ih, List.flatMap_cons, List.append_assoc,
      List.append_assoc, List.append_assoc]

/-- A character of a joined text belongs to the separator or to an item. -/
theorem mem_joinWith {c : Char} {xs : List (List Char)} (h : c ∈ joinWith sep xs) :
    c ∈ sep ∨ ∃ x ∈ xs, c ∈ x := by
  cases xs with
  | nil => simp [joinWith] at h
  | cons x xs =>
    -- The first item has no separator in front, every other one has.
    rw [joinWith_cons, List.mem_append, List.mem_flatMap] at h
    rcases h with h | ⟨y, hy, h⟩
    · exact Or.inr ⟨x, by simp, h⟩
    · rcases List.mem_append.mp h with h | h
      · exact Or.inl h
      · exact Or.inr ⟨y, by simp [hy], h⟩

/-! ### Splitting a joined text -/

/-- A text without the separator is one piece. -/
theorem splitOnChar_of_not_mem {sep : Char} {cs : List Char} (h : sep ∉ cs) :
    splitOnChar sep cs = [cs] := by
  induction cs with
  | nil => rfl
  | cons c cs ih =>
    rw [List.mem_cons, not_or] at h
    rw [splitOnChar, if_neg fun heq => h.1 heq.symm, ih h.2]

/-- **A separator anywhere in a text** parts its pieces: those in front of it, and those behind. -/
theorem splitOnChar_append_cons (sep : Char) (xs ys : List Char) :
    splitOnChar sep (xs ++ sep :: ys) = splitOnChar sep xs ++ splitOnChar sep ys := by
  induction xs with
  | nil =>
    have hstep : splitOnChar sep (sep :: ys) = [] :: splitOnChar sep ys := if_pos rfl
    exact hstep
  | cons x xs ih =>
    rw [List.cons_append, splitOnChar, splitOnChar, ih]
    by_cases hx : x = sep
    · rw [if_pos hx, if_pos hx, List.cons_append]
    · -- The character goes to the front of the first piece, which is one of `xs`.
      obtain ⟨piece, pieces, hxs⟩ := List.exists_cons_of_ne_nil (splitOnChar_ne_nil sep xs)
      rw [if_neg hx, if_neg hx, hxs]
      rfl

/-- **Splitting undoes joining**, if no item contains the separator. -/
theorem splitOnChar_joinWith {sep : Char} {items : List (List Char)} (hitems : items ≠ [])
    (h : ∀ item ∈ items, sep ∉ item) : splitOnChar sep (joinWith [sep] items) = items := by
  induction items with
  | nil => exact absurd rfl hitems
  | cons item items ih =>
    -- An item is split off at the separator behind it, unless it is the last.
    obtain ⟨hitem, hrest⟩ := List.forall_mem_cons.mp h
    cases items with
    | nil => exact splitOnChar_of_not_mem hitem
    | cons next items =>
      have hjoin : joinWith [sep] (item :: next :: items)
          = item ++ [sep] ++ joinWith [sep] (next :: items) := rfl
      rw [hjoin, List.append_assoc, List.singleton_append, splitOnChar_append_cons,
        splitOnChar_of_not_mem hitem, ih (List.cons_ne_nil _ _) hrest, List.singleton_append]

/-! ### Cancelling a joined list

`f` writes an item and `Valid` says which items there are; a text satisfies `Ends` when it may
follow an item. -/

variable {α : Type} {f : α → List Char} {Valid : α → Prop} {Ends : List Char → Prop}
  {rest rest' : List Char}

/-- What follows an item is the next separator, or `rest` behind the last item. -/
private theorem ends_separated (hsep : ∀ r, Ends (sep ++ r)) (hr : Ends rest) (zs : List α) :
    Ends (zs.flatMap (fun z => sep ++ f z) ++ rest) := by
  cases zs with
  | nil => exact hr
  | cons z zs =>
    rw [List.flatMap_cons, List.append_assoc, List.append_assoc]
    exact hsep _

/-- The items behind the first one, each after a separator, can be told from what follows. The
induction is on the first list: if one list is shorter, a separator begins what follows it, and it
must not. -/
private theorem separated_append_inj
    (hf : ∀ x y r r', Valid x → Valid y → Ends r → Ends r' → f x ++ r = f y ++ r' → x = y ∧ r = r')
    (hsep : ∀ r, Ends (sep ++ r)) (hr : Ends rest) (hr' : Ends rest')
    (hn : ¬ sep <+: rest) (hn' : ¬ sep <+: rest') {xs ys : List α}
    (hx : ∀ x ∈ xs, Valid x) (hy : ∀ y ∈ ys, Valid y)
    (h : xs.flatMap (fun x => sep ++ f x) ++ rest = ys.flatMap (fun y => sep ++ f y) ++ rest') :
    xs = ys ∧ rest = rest' := by
  induction xs generalizing ys with
  | nil =>
    cases ys with
    | nil => exact ⟨rfl, h⟩
    | cons y ys =>
      refine absurd ?_ hn
      rw [List.flatMap_nil, List.nil_append, List.flatMap_cons, List.append_assoc,
        List.append_assoc] at h
      exact ⟨_, h.symm⟩
  | cons x xs ih =>
    cases ys with
    | nil =>
      refine absurd ?_ hn'
      rw [List.flatMap_nil, List.nil_append, List.flatMap_cons, List.append_assoc,
        List.append_assoc] at h
      exact ⟨_, h⟩
    | cons y ys =>
      rw [List.flatMap_cons, List.flatMap_cons, List.append_assoc, List.append_assoc,
        List.append_assoc, List.append_assoc] at h
      -- Both begin with a separator and an item, and the rest of either ends the item.
      obtain ⟨rfl, htail⟩ := hf x y _ _ (hx x (by simp)) (hy y (by simp))
        (ends_separated hsep hr xs) (ends_separated hsep hr' ys) (List.append_cancel_left h)
      obtain ⟨rfl, hrest⟩ := ih (fun z hz => hx z (List.mem_cons_of_mem _ hz))
        (fun z hz => hy z (List.mem_cons_of_mem _ hz)) htail
      exact ⟨rfl, hrest⟩

/-- **A joined list can be told from what follows it**, if every item can be told from what may end
it, which is a separator or the text behind the list, and that text does not begin with a
separator. -/
theorem joinWith_append_inj (Valid : α → Prop) (Ends : List Char → Prop)
    (hf : ∀ x y r r', Valid x → Valid y → Ends r → Ends r' → f x ++ r = f y ++ r' → x = y ∧ r = r')
    (hsep : ∀ r, Ends (sep ++ r)) (hr : Ends rest) (hr' : Ends rest')
    (hn : ¬ sep <+: rest) (hn' : ¬ sep <+: rest') {xs ys : List α}
    (hxs : xs ≠ []) (hys : ys ≠ []) (hx : ∀ x ∈ xs, Valid x) (hy : ∀ y ∈ ys, Valid y)
    (h : joinWith sep (xs.map f) ++ rest = joinWith sep (ys.map f) ++ rest') :
    xs = ys ∧ rest = rest' := by
  obtain ⟨x, xs, rfl⟩ := List.exists_cons_of_ne_nil hxs
  obtain ⟨y, ys, rfl⟩ := List.exists_cons_of_ne_nil hys
  rw [List.map_cons, List.map_cons, joinWith_cons, joinWith_cons, List.flatMap_map,
    List.flatMap_map, List.append_assoc, List.append_assoc] at h
  -- First items have no separator in front, so they are compared on their own.
  obtain ⟨rfl, htail⟩ := hf x y _ _ (hx x (by simp)) (hy y (by simp))
    (ends_separated hsep hr xs) (ends_separated hsep hr' ys) h
  obtain ⟨rfl, hrest⟩ := separated_append_inj hf hsep hr hr' hn hn'
    (fun z hz => hx z (List.mem_cons_of_mem _ hz)) (fun z hz => hy z (List.mem_cons_of_mem _ hz))
    htail
  exact ⟨rfl, hrest⟩

end Join

end StoreBridge
