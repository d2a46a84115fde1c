import StoreBridge.Config.PoolOptions

/-!
# Settings of validated pool options

Validation looks at the options as they are written (`PoolOptions.validate_eq_ok_iff`): the
connections that are kept open are held against the largest number only if the options set this
number. The settings in effect come from elsewhere too. SQLite runs on one connection whatever is
set, and where nothing is set a default holds. `PoolOptions.impliedMax?` is the largest number that
comes about in one of these two ways, and nothing has compared it with the connections that are kept
open.

So options that pass may ask for more open connections than the pool may ever hold.
`validated_settings` says that this is the only way in which they can be at odds with each other,
and `keptAboveLargest` that both ways occur.
-/

namespace StoreBridge

namespace PoolOptions

variable {o : PoolOptions}

/-- The largest number of connections, where the options do not set it. -/
def impliedMax? (o : PoolOptions) (b : Backend) : Option Nat :=
  if b = .sqlite then some 1
  else if o.maxConnections = none then some 10
  else none

/-- **What validation asks for.** A largest number that is set is positive and not below the
connections that are kept open, and a statement cache that is set holds something. -/
theorem validate_eq_ok_iff :
    o.validate = .ok () ↔
      (∀ largest ∈ o.maxConnections, 1 ≤ largest ∧ o.effectiveMin ≤ largest) ∧
        o.statementCacheCapacity ≠ some 0 := by
  have hok : o.validate = .ok () ↔ o.fault? = none := by
    unfold validate
    cases o.fault? with
    | none => exact iff_of_true rfl rfl
    | some fault => exact iff_of_false nofun nofun
  rw [hok]
  unfold fault? effectiveMin
  -- The two options of connections are looked at first, and then the cache.
  rw [Option.or_eq_none_iff]
  refine and_congr ?_ ?_
  · cases o.maxConnections with
    | none => exact iff_of_true rfl nofun
    | some largest =>
      -- Zero is refused before the two numbers are compared.
      cases largest with
      | zero => exact iff_of_false nofun fun h => absurd (h 0 rfl).1 (by decide)
      | succ k =>
        cases o.minConnections with
        | none => simp
        | some least => simp
  · rw [ite_eq_right_iff]
    exact ⟨fun h hzero => absurd (h hzero) nofun, fun h hzero => absurd hzero h⟩

/-- The largest number in effect is the implied one, or it is set by the options. -/
theorem effectiveMax_eq (o : PoolOptions) (b : Backend) :
    some (o.effectiveMax b) = (o.impliedMax? b).or o.maxConnections := by
  unfold effectiveMax impliedMax?
  by_cases hb : b = .sqlite
  · rw [if_pos hb, if_pos hb, Option.some_or]
  · rw [if_neg hb, if_neg hb]
    cases o.maxConnections <;> rfl

/-- **The settings of validated options.** On every backend the pool has room for a connection and
the cache for a statement. The connections that are kept open fit into the pool exactly if they are
not more than the largest number that comes from elsewhere than the options. -/
theorem validated_settings (h : o.validate = .ok ()) (b : Backend) :
    1 ≤ o.effectiveMax b ∧ 1 ≤ o.effectiveCacheCapacity ∧
      (o.effectiveMin ≤ o.effectiveMax b ↔
        ∀ largest ∈ o.impliedMax? b, o.effectiveMin ≤ largest) := by
  obtain ⟨hset, hcache⟩ := validate_eq_ok_iff.mp h
  have heffective := o.effectiveMax_eq b
  refine ⟨?_, ?_, ?_⟩
  · -- A number that is implied elsewhere is one at least; one that is set has been checked, and the
    -- default is ten.
    unfold effectiveMax
    split
    · exact Nat.le_refl 1
    · cases hmax : o.maxConnections with
      | none => decide
      | some largest => exact (hset largest hmax).1
  · unfold effectiveCacheCapacity
    cases hcapacity : o.statementCacheCapacity with
    | none => decide
    | some capacity =>
      rw [hcapacity, Ne, Option.some_inj] at hcache
      exact Nat.one_le_iff_ne_zero.mpr hcache
  · cases himplied : o.impliedMax? b with
    | none =>
      -- What the options set has been compared.
      rw [himplied, Option.none_or] at heffective
      exact iff_of_true (hset _ heffective.symm).2 nofun
    | some largest =>
      rw [himplied, Option.some_or, Option.some_inj] at heffective
      -- What is implied takes the place of what is set, and nothing has compared it.
      simp [heffective]

/-- Fifty connections kept open, with no largest number set. -/
def fiftyKept : PoolOptions := { minConnections := some 50 }

/-- Five connections kept open out of eight. -/
def fiveOfEight : PoolOptions := { maxConnections := some 8, minConnections := some 5 }

/-- Five out of eight are consistent on MySQL. -/
theorem fiveOfEight_settings :
    fiveOfEight.validate = .ok () ∧ 1 ≤ fiveOfEight.effectiveMax .mysql ∧
      fiveOfEight.effectiveMin ≤ fiveOfEight.effectiveMax .mysql := by
  have hok : fiveOfEight.validate = .ok () := rfl
  obtain ⟨hroom, -, hkept⟩ := validated_settings hok .mysql
  exact ⟨hok, hroom, hkept.mpr nofun⟩

/-- **More connections kept open than the pool may hold.** The options pass in both cases: with the
default of ten on MySQL, and with the one connection of SQLite. -/
theorem keptAboveLargest :
    (fiftyKept.validate = .ok () ∧ ¬ fiftyKept.effectiveMin ≤ fiftyKept.effectiveMax .mysql) ∧
      fiveOfEight.validate = .ok () ∧
        ¬ fiveOfEight.effectiveMin ≤ fiveOfEight.effectiveMax .sqlite := by
  refine ⟨⟨rfl, ?_⟩, rfl, ?_⟩
  · decide
  · decide

end PoolOptions

end StoreBridge
