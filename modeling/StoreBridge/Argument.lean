import StoreBridge.Json.Writer

/-!
# Bound values

How a value is handed to a driver: integers of 64 bits stay integers, every other number is bound as
a double, and arrays and objects are bound as their JSON text.
-/

namespace StoreBridge

/-- The smallest integer of 64 bits. -/
def minInt64 : Int := -9223372036854775808

/-- The largest integer of 64 bits. -/
def maxInt64 : Int := 9223372036854775807

/-- The integers of 64 bits with a sign. -/
def isInt64 (i : Int) : Bool :=
  minInt64 ≤ i && i ≤ maxInt64

theorem isInt64_iff {i : Int} : isInt64 i = true ↔ minInt64 ≤ i ∧ i ≤ maxInt64 := by
  rw [isInt64, Bool.and_eq_true, decide_eq_true_eq, decide_eq_true_eq]

/-- A value bound to a placeholder. -/
inductive Argument where
  | null
  | bool (b : Bool)
  | int (i : Int)
  | float (x : Binary64)
  | text (s : String)
  | json (value : Json)
  deriving DecidableEq, Repr, Inhabited

/-- How a value is bound. -/
def Argument.ofJson : Json → Argument
  | .null => .null
  | .bool b => .bool b
  | .int i => if isInt64 i then .int i else .float (Binary64.ofInt i)
  | .double x => .float x
  | .string s => .text s
  | .array items => .json (.array items)
  | .object members => .json (.object members)

end StoreBridge
