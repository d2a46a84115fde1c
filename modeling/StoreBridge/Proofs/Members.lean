import StoreBridge.Json.Basic

/-!
# Members written one after another

`Members.setAll` writes pairs into an object from left to right, so of several values for one key
the last one stays. `Members.lastValue?` is that value, read off the pairs, and `get?_setAll` says
that the object has it.

A document meets conditions, `Members.Meets`, if it has the value that each of them asks for. An
object that was written from pairs asks for less than the pairs do: one value for each key. It asks
for the same exactly when the pairs never ask for two values of one key (`Members.Consistent`,
`meets_ofPairs_iff_forall`).
-/

namespace StoreBridge

namespace Members

variable {m conditions document : Members} {key : String} {value : Json}

/-- The last value that is given for a key. -/
def lastValue? (pairs : List (String × Json)) (key : String) : Option Json :=
  match pairs with
  | [] => none
  | (k, v) :: rest => (lastValue? rest key).or (if k = key then some v else none)

/-- The document has the value that each condition asks for. -/
def Meets (document conditions : Members) : Prop :=
  ∀ p ∈ conditions, document.get? p.1 = some p.2

/-- No key is asked to have two values. -/
def Consistent (conditions : Members) : Prop :=
  ∀ p ∈ conditions, ∀ q ∈ conditions, p.1 = q.1 → p.2 = q.2

/-- **The last value stays.** The induction is for any object that the pairs are written into, since
the first of them is in it when the others are written. -/
theorem get?_setAll (m : Members) (pairs : List (String × Json)) (key : String) :
    (m.setAll pairs).get? key = (lastValue? pairs key).or (m.get? key) := by
  induction pairs generalizing m with
  | nil => rfl
  | cons p rest ih =>
    obtain ⟨k, v⟩ := p
    change ((m.set k v).setAll rest).get? key = _
    rw [ih, lastValue?, Option.or_assoc]
    congr 1
    -- The first pair counts if its key does not come again.
    by_cases hk : k = key
    · subst hk
      rw [get?_set_self, if_pos rfl, Option.some_or]
    · rw [get?_set_of_ne v (Ne.symm hk), if_neg hk, Option.none_or]

/-- An object that was written from pairs has the last value of each key. -/
theorem get?_ofPairs (pairs : List (String × Json)) (key : String) :
    (ofPairs pairs).get? key = lastValue? pairs key := by
  rw [ofPairs, get?_setAll, get?, Option.or_none]

/-- Writing may be interrupted anywhere. -/
theorem ofPairs_append (pairs more : List (String × Json)) :
    ofPairs (pairs ++ more) = (ofPairs pairs).setAll more := by
  rw [ofPairs, setAll, List.foldl_append]
  rfl

/-- A value whose key does not come again is the last one. -/
theorem lastValue?_append_cons {before after : List (String × Json)}
    (h : ∀ p ∈ after, p.1 ≠ key) :
    lastValue? (before ++ (key, value) :: after) key = some value := by
  -- Behind the value its key does not come, and what stands before it does not matter.
  have hafter : lastValue? after key = none := by
    induction after with
    | nil => rfl
    | cons p rest ih =>
      rw [lastValue?, ih fun q hq => h q (List.mem_cons_of_mem _ hq),
        if_neg (h p List.mem_cons_self), Option.or_none]
  induction before with
  | nil => rw [List.nil_append, lastValue?, hafter, if_pos rfl, Option.none_or]
  | cons p rest ih => rw [List.cons_append, lastValue?, ih, Option.some_or]

/-- The last value is one of those that are given. -/
theorem mem_of_lastValue? {pairs : List (String × Json)} (h : lastValue? pairs key = some value) :
    (key, value) ∈ pairs := by
  induction pairs with
  | nil => exact absurd h (by simp [lastValue?])
  | cons p rest ih =>
    obtain ⟨k, v⟩ := p
    rw [lastValue?, Option.or_eq_some_iff] at h
    -- It is the last of the others, or it is the first one itself.
    rcases h with h | ⟨-, h⟩
    · exact List.mem_cons_of_mem _ (ih h)
    · obtain ⟨rfl, hv⟩ := Option.ite_none_right_eq_some.mp h
      obtain rfl := Option.some.inj hv
      exact List.mem_cons_self

/-- A key for which a value is given has a last one. -/
theorem exists_lastValue? {pairs : List (String × Json)} (h : (key, value) ∈ pairs) :
    ∃ last, lastValue? pairs key = some last := by
  induction pairs with
  | nil => exact absurd h (by simp)
  | cons p rest ih =>
    obtain ⟨k, v⟩ := p
    rcases List.mem_cons.mp h with heq | h
    · obtain ⟨rfl, rfl⟩ := Prod.mk.inj heq
      rw [lastValue?, if_pos rfl]
      -- The first value is the last one, unless the others have one as well.
      cases lastValue? rest key with
      | none => exact ⟨value, rfl⟩
      | some last => exact ⟨last, rfl⟩
    · obtain ⟨last, hlast⟩ := ih h
      exact ⟨last, by rw [lastValue?, hlast, Option.some_or]⟩

/-! ### Keys that occur once -/

/-- Writing a member does not repeat a key. -/
theorem nodup_keys_set (h : m.keys.Nodup) (key : String) (value : Json) :
    (m.set key value).keys.Nodup := by
  -- A key that is there keeps its place, and a new one goes behind.
  by_cases hmem : key ∈ m.keys
  · rw [keys_set_of_mem value hmem]
    exact h
  · rw [keys_set_of_not_mem value hmem]
    refine List.nodup_append.mpr ⟨h, List.nodup_cons.mpr ⟨by simp, List.nodup_nil⟩, ?_⟩
    intro k hk l hl
    rw [List.mem_singleton.mp hl]
    exact fun heq => hmem (heq ▸ hk)

/-- Writing members does not repeat a key, however many. -/
theorem nodup_keys_setAll (h : m.keys.Nodup) (pairs : List (String × Json)) :
    (m.setAll pairs).keys.Nodup := by
  induction pairs generalizing m with
  | nil => exact h
  | cons p rest ih => exact ih (nodup_keys_set h p.1 p.2)

theorem nodup_keys_ofPairs (pairs : List (String × Json)) : (ofPairs pairs).keys.Nodup :=
  nodup_keys_setAll (m := []) List.nodup_nil pairs

/-- A member with a new key is written behind the others. -/
theorem set_of_not_mem (h : key ∉ m.keys) (value : Json) :
    m.set key value = m ++ [(key, value)] := by
  induction m with
  | nil => rfl
  | cons p m ih =>
    obtain ⟨k, v⟩ := p
    have hk : key ≠ k := List.ne_of_not_mem_cons h
    have hm : key ∉ keys m := List.not_mem_of_not_mem_cons h
    rw [set, if_neg (Ne.symm hk), ih hm, List.cons_append]

/-- Members with different keys are written one behind the other. -/
theorem setAll_of_nodup {pairs : List (String × Json)} (h : keys (m ++ pairs) |>.Nodup) :
    m.setAll pairs = m ++ pairs := by
  induction pairs generalizing m with
  | nil => exact (List.append_nil m).symm
  | cons p rest ih =>
    obtain ⟨k, v⟩ := p
    -- The key of the first pair is new, so its member goes behind the others.
    have hk : k ∉ m.keys := by
      rw [keys, List.map_append, List.nodup_append] at h
      exact fun hmem => h.2.2 k hmem k List.mem_cons_self rfl
    have happend : m ++ (k, v) :: rest = (m ++ [(k, v)]) ++ rest := by
      rw [List.append_assoc, List.singleton_append]
    change (m.set k v).setAll rest = _
    rw [set_of_not_mem hk, happend, ih (happend ▸ h)]

/-- Pairs with different keys are written as they are. -/
theorem ofPairs_of_nodup {pairs : List (String × Json)} (h : (keys pairs).Nodup) :
    ofPairs pairs = pairs :=
  setAll_of_nodup (m := []) h

/-- What is found for a key is a member. -/
theorem mem_of_get? (h : m.get? key = some value) : (key, value) ∈ m := by
  induction m with
  | nil => exact absurd h (by simp [get?])
  | cons p m ih =>
    obtain ⟨k, v⟩ := p
    rw [get?] at h
    split at h
    · next hk =>
      obtain rfl := hk
      obtain rfl := Option.some.inj h
      exact List.mem_cons_self
    · exact List.mem_cons_of_mem _ (ih h)

/-- A member is found by its key. -/
theorem get?_of_mem (hnodup : m.keys.Nodup) (h : (key, value) ∈ m) : m.get? key = some value := by
  induction m with
  | nil => exact absurd h (by simp)
  | cons p m ih =>
    obtain ⟨k, v⟩ := p
    have hsplit : k ∉ keys m ∧ (keys m).Nodup := List.nodup_cons.mp hnodup
    rw [get?]
    rcases List.mem_cons.mp h with heq | h
    · obtain ⟨rfl, rfl⟩ := Prod.mk.inj heq
      rw [if_pos rfl]
    · have hkey : key ∈ keys m := List.mem_map.mpr ⟨_, h, rfl⟩
      -- A member further behind has another key than the first one.
      have hne : k ≠ key := by
        intro heq
        exact hsplit.1 (heq ▸ hkey)
      rw [if_neg hne]
      exact ih hsplit.2 h

/-! ### Conditions -/

/-- An object with one value for each key meets itself. -/
theorem meets_self (h : m.keys.Nodup) : m.Meets m :=
  fun _ hp => get?_of_mem h hp

/-- An object that was written from pairs asks for the last value of each key. -/
theorem meets_ofPairs_iff (document : Members) (pairs : List (String × Json)) :
    document.Meets (ofPairs pairs) ↔
      ∀ key value, lastValue? pairs key = some value → document.get? key = some value := by
  constructor
  · intro h key value hlast
    rw [← get?_ofPairs] at hlast
    exact h (key, value) (mem_of_get? hlast)
  · intro h p hp
    refine h p.1 p.2 ?_
    rw [← get?_ofPairs]
    exact get?_of_mem (nodup_keys_ofPairs pairs) hp

/-- It asks for no more than the pairs do. -/
theorem Meets.ofPairs (h : document.Meets conditions) : document.Meets (ofPairs conditions) := by
  rw [meets_ofPairs_iff]
  intro key value hlast
  exact h (key, value) (mem_of_lastValue? hlast)

/-- It asks for all that the pairs do if they ask for one value of each key. -/
theorem Consistent.meets (h : conditions.Consistent)
    (hmeets : document.Meets (ofPairs conditions)) :
    document.Meets conditions := by
  intro p hp
  -- The value that is asked for is the last one, since there is only one.
  obtain ⟨last, hlast⟩ := exists_lastValue? hp
  have heq : p.2 = last := h p hp (p.1, last) (mem_of_lastValue? hlast) rfl
  rw [heq]
  exact (meets_ofPairs_iff document conditions).mp hmeets p.1 last hlast

/-- **Where the order of writing does not matter.** An object that was written from pairs asks of
every document what the pairs ask for exactly when no key is asked to have two values. -/
theorem meets_ofPairs_iff_forall (conditions : Members) :
    (∀ document : Members, document.Meets (ofPairs conditions) ↔ document.Meets conditions) ↔
      conditions.Consistent := by
  constructor
  · intro h p hp q hq hkey
    -- The object is a document that meets itself.
    have hself : (Members.ofPairs conditions).Meets conditions :=
      (h _).mp (meets_self (nodup_keys_ofPairs conditions))
    have hvalues : some p.2 = some q.2 := by
      rw [← hself p hp, ← hself q hq, hkey]
    exact Option.some.inj hvalues
  · intro h document
    exact ⟨h.meets, Meets.ofPairs⟩

end Members

end StoreBridge
