import StoreBridge.Sqlite.Affinity
import StoreBridge.Sqlite.Syntax

/-!
# Functions of rows

The functions that make one value of the rows of a group. Null does not count. A sum of integers is
exact and fails when it leaves the range of integers; a sum with a double is computed with a running
correction, which keeps what single additions lose.
-/

namespace StoreBridge

namespace Sqlite

/-- A function of rows. -/
inductive AggregateFunction where
  | avg
  | count
  | groupConcat
  | max
  | min
  | sum
  | total
  deriving DecidableEq, Repr, Inhabited

/-- A sum of doubles with its correction. -/
structure RunningSum where
  sum : Binary64
  correction : Binary64
  deriving DecidableEq, Repr

namespace RunningSum

/-- Integers up to this size are doubles. -/
def exactLimit : Int := pow2 52

/-- An integer as two doubles whose sum it is. -/
def parts (i : Int) : Binary64 × Binary64 :=
  if -exactLimit < i ∧ i < exactLimit then (Binary64.ofInt i, Binary64.zero false)
  else
    let small := Int.tmod i 16384
    (Binary64.ofInt (i - small), Binary64.ofInt small)

/-- The sum that starts with an integer. -/
def ofInt (i : Int) : RunningSum :=
  ⟨(parts i).1, (parts i).2⟩

/-- Adds a double; what the addition loses goes into the correction. -/
def add (s : RunningSum) (x : Binary64) : RunningSum :=
  let t := s.sum.add x
  let bigger := s.sum.abs.compare? x.abs == some .gt
  let lost := if bigger then (s.sum.sub t).add x else (x.sub t).add s.sum
  ⟨t, s.correction.add lost⟩

/-- Adds an integer. -/
def addInt (s : RunningSum) (i : Int) : RunningSum :=
  if -exactLimit < i ∧ i < exactLimit then s.add (Binary64.ofInt i)
  else (s.add (parts i).1).add (parts i).2

/-- The sum with its correction. -/
def value (s : RunningSum) : Binary64 :=
  if s.sum.isFinite then s.sum.add s.correction else s.sum

end RunningSum

/-- What has been added up: an exact integer as long as there are only integers in range. -/
inductive Total where
  | exact (i : Int)
  /-- A running sum; `overflowed` says that integers left their range and no double came since. -/
  | running (s : RunningSum) (overflowed : Bool)
  deriving DecidableEq, Repr

namespace Total

/-- A value as a number for a sum: text that is a number counts as that number. -/
def numeric : Datum → Datum
  | .text s => Affinity.toNumbers (.text s)
  | d => d

/-- Adds a value. -/
def add (t : Total) (d : Datum) : Total :=
  match t, numeric d with
  | t, .null => t
  | .exact i, .int j =>
    if isInt64 (i + j) then .exact (i + j) else .running ((RunningSum.ofInt i).addInt j) true
  | .exact i, d => .running ((RunningSum.ofInt i).add d.toReal) false
  | .running s overflowed, .int j => .running (s.addInt j) overflowed
  | .running s _, d => .running (s.add d.toReal) false

/-- The total as a double. -/
def toReal : Total → Binary64
  | .exact i => Binary64.ofInt i
  | .running s _ => s.value

/-- The total as a value. -/
def toDatum : Total → Except String Datum
  | .exact i => .ok (.int i)
  | .running _ true => .error "integer overflow"
  | .running s false => .ok (Datum.ofReal s.value)

end Total

namespace AggregateFunction

/-- The function with a name, with the least and the largest number of arguments. -/
def find? (name : String) : Option (AggregateFunction × Nat × Nat) :=
  match String.ofList (name.toList.map asciiLower) with
  | "avg" => some (.avg, 1, 1)
  | "count" => some (.count, 0, 1)
  | "group_concat" => some (.groupConcat, 1, 2)
  | "string_agg" => some (.groupConcat, 2, 2)
  | "max" => some (.max, 1, 1)
  | "min" => some (.min, 1, 1)
  | "sum" => some (.sum, 1, 1)
  | "total" => some (.total, 1, 1)
  | _ => none

/-- Keeps the first of equal values. -/
def distinct (c : Collation) (rows : List (List Datum)) : List (List Datum) :=
  rows.foldl (fun kept row =>
    if kept.any fun k => Datum.same c (k.headD .null) (row.headD .null) then kept
    else kept ++ [row]) []

/-- The texts of the rows with separators between them. -/
def join (rows : List (List Datum)) : String :=
  match rows with
  | [] => ""
  | first :: rest =>
    rest.foldl (fun s row => s ++ ((row[1]?).elim "," Datum.toText) ++ (row.headD .null).toText)
      (first.headD .null).toText

/-- The extreme value that stands in an order before the others. -/
def extreme (c : Collation) (wanted : Ordering) : List Datum → Datum
  | [] => .null
  | d :: rest => rest.foldl (fun best d => if Datum.order c d best == wanted then d else best) d

/-- The value of a function for the arguments in each row. -/
def apply (f : AggregateFunction) (c : Collation) (rows : List (List Datum)) :
    Except String Datum :=
  -- Rows without a value are left out, except where only rows are counted.
  let known := rows.filter fun row => row.headD (.int 0) ≠ .null
  let values := known.map fun row => row.headD .null
  let total := values.foldl Total.add (.exact 0)
  match f with
  | .count => .ok (.int known.length)
  | .sum => if values.isEmpty then .ok .null else total.toDatum
  | .total => .ok (Datum.ofReal total.toReal)
  | .avg =>
    .ok (if values.isEmpty then .null
      else Datum.ofReal (total.toReal.div (Binary64.ofInt values.length)))
  | .min => .ok (extreme c .lt values)
  | .max => .ok (extreme c .gt values)
  | .groupConcat => .ok (if known.isEmpty then .null else .text (join known))

end AggregateFunction

end Sqlite

end StoreBridge
