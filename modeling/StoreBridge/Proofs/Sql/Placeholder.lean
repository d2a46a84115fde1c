import StoreBridge.Sql.Placeholder

/-!
# Placeholders of a text without quotes

A reader of placeholders has to skip quoted parts. In a text without quotes there is nothing to
skip: the placeholders are the question marks (`length_positions`), and a question mark with `n`
others before it is the placeholder with that number (`positions_getElem?`).
-/

namespace StoreBridge

namespace Placeholder

/-- The text contains no quote of any kind. -/
def Unquoted (cs : List Char) : Prop :=
  ∀ c ∈ cs, isQuote c = false

/-- Outside quotes, one further character either is a placeholder or is passed over. -/
theorem positionsFrom_cons {c : Char} (hc : isQuote c = false) (start : Nat) (cs : List Char) :
    positionsFrom none start (c :: cs)
      = if c = '?' then start :: positionsFrom none (start + 1) cs
        else positionsFrom none (start + 1) cs := by
  rw [positionsFrom]
  by_cases hmark : c = '?'
  · simp [hmark]
  · simp [hmark, nextQuote, hc]

/-- The placeholders before a quote-free cut and those after it. -/
theorem positionsFrom_append {xs : List Char} (hx : Unquoted xs) (start : Nat) (ys : List Char) :
    positionsFrom none start (xs ++ ys)
      = positionsFrom none start xs ++ positionsFrom none (start + xs.length) ys := by
  -- No quote is open behind a quote-free text, so reading goes on as at the beginning.
  induction xs generalizing start with
  | nil => simp [positionsFrom]
  | cons c cs ih =>
    have hc : isQuote c = false := hx c List.mem_cons_self
    have hcs : Unquoted cs := fun d hd => hx d (List.mem_cons_of_mem _ hd)
    rw [List.cons_append, positionsFrom_cons hc, positionsFrom_cons hc, ih hcs,
      List.length_cons, show start + (cs.length + 1) = start + 1 + cs.length by omega]
    split
    · rw [List.cons_append]
    · rfl

/-- In a text without quotes every question mark is a placeholder. -/
theorem length_positionsFrom {cs : List Char} (h : Unquoted cs) (start : Nat) :
    (positionsFrom none start cs).length = cs.count '?' := by
  induction cs generalizing start with
  | nil => rfl
  | cons c cs ih =>
    have hc : isQuote c = false := h c List.mem_cons_self
    have hcs : Unquoted cs := fun d hd => h d (List.mem_cons_of_mem _ hd)
    rw [positionsFrom_cons hc, List.count_cons]
    -- Both sides count this character if it is a question mark, and neither does otherwise.
    by_cases hmark : c = '?'
    · rw [if_pos hmark, List.length_cons, ih hcs, if_pos (by simp [hmark])]
    · rw [if_neg hmark, ih hcs, if_neg (by simp [hmark]), Nat.add_zero]

/-- There are as many placeholders as question marks. -/
theorem length_positions {cs : List Char} (h : Unquoted cs) :
    (positions cs).length = cs.count '?' :=
  length_positionsFrom h 0

/-- **The number of a placeholder.** A question mark is the placeholder that has as many others
before it as there are question marks before it. -/
theorem positions_getElem? {before : List Char} (h : Unquoted before) (after : List Char) :
    (positions (before ++ '?' :: after))[before.count '?']? = some before.length := by
  have hmark : positionsFrom none before.length ('?' :: after)
      = before.length :: positionsFrom none (before.length + 1) after := by
    rw [positionsFrom_cons (by decide), if_pos rfl]
  rw [positions, positionsFrom_append h, Nat.zero_add, hmark,
    List.getElem?_append_right (Nat.le_of_eq (length_positionsFrom h 0)), length_positionsFrom h,
    Nat.sub_self, List.getElem?_cons_zero]

end Placeholder

end StoreBridge
