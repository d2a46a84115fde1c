import StoreBridge.Sqlite.Function
import StoreBridge.Sqlite.Pattern

/-!
# Prepared expressions

A term is an expression whose names have been looked up: columns are places in a row, functions are
known, and each comparison knows how its sides are converted. What is left to do is to compute its
value for a row. Truth has three values, null being the unknown one.
-/

namespace StoreBridge

namespace Sqlite

/-- A prepared expression. -/
inductive Term where
  | value (d : Datum)
  /-- A column of the row. -/
  | cell (index : Nat)
  /-- A function of the rows of the group. -/
  | aggregate (index : Nat)
  | unary (op : UnaryOp) (e : Term)
  | binary (op : BinaryOp) (a b : Term)
  | compare (op : Comparison) (conversion : Affinity.Conversion) (collation : Collation)
      (a b : Term)
  | oneOf (conversion : Affinity.Conversion) (collation : Collation) (e : Term) (items : List Term)
  | pattern (kind : PatternKind) (e pattern : Term) (escape : Option Term)
  | caseOf (branches : List (Term × Term)) (otherwise : Term)
  | call (f : ScalarFunction) (arguments : List Term)
  | cast (affinity : Affinity) (e : Term)
  deriving Repr

instance : Inhabited Term := ⟨.value .null⟩

/-- What a term is computed for: a row, and the values of the functions of its group. -/
structure Cells where
  row : List Datum
  aggregates : List Datum := []

/-- A truth value of three. -/
def truthDatum : Option Bool → Datum
  | none => .null
  | some b => Datum.ofBool b

namespace UnaryOp

/-- The value of an operator with one operand. -/
def apply : UnaryOp → Datum → Datum
  | .plus, d => d
  | _, .null => .null
  | .minus, d =>
    match d.toNumber with
    | .int i => if isInt64 (-i) then .int (-i) else .real (Binary64.ofInt (-i))
    | n => .real n.toReal.neg
  | .complement, d => .int (-d.toInt - 1)
  | .not, d => truthDatum (d.truth?.map (!·))

end UnaryOp

namespace BinaryOp

/-- Whether one of three-valued truths is false, or else one unknown. -/
def both : Option Bool → Option Bool → Option Bool
  | some false, _ => some false
  | _, some false => some false
  | some true, some true => some true
  | _, _ => none

/-- Arithmetic on two numbers: on integers while the result fits, on doubles otherwise. -/
def arithmetic (onInts : Int → Int → Int) (onReals : Binary64 → Binary64 → Binary64)
    (a b : Datum) : Datum :=
  match a.toNumber, b.toNumber with
  | .int i, .int j =>
    if isInt64 (onInts i j) then .int (onInts i j)
    else Datum.ofReal (onReals (Binary64.ofInt i) (Binary64.ofInt j))
  | x, y => Datum.ofReal (onReals x.toReal y.toReal)

/-- The quotient; of integers the whole part, and null for a divisor of zero. -/
def quotient (a b : Datum) : Datum :=
  match a.toNumber, b.toNumber with
  | .int i, .int j =>
    if j = 0 then .null
    else if isInt64 (Int.tdiv i j) then .int (Int.tdiv i j)
    else .real ((Binary64.ofInt i).div (Binary64.ofInt j))
  | x, y => if y.toReal.units = 0 ∧ y.toReal.isFinite then .null
    else Datum.ofReal (x.toReal.div y.toReal)

/-- The remainder of the whole parts, and null for a divisor of zero. The whole part of a text is
the integer at its beginning. -/
def remainder (a b : Datum) : Datum :=
  match a.toNumber, b.toNumber with
  | .int i, .int j => if j = 0 then .null else .int (Int.tmod i j)
  | _, _ => if b.toInt = 0 then .null else .real (Binary64.ofInt (Int.tmod a.toInt b.toInt))

/-- An integer shifted to the left, or to the right if the distance is negative. -/
def shift (i distance : Int) : Int :=
  if 64 ≤ distance then 0
  else if distance ≤ -64 then (if i < 0 then -1 else 0)
  else if 0 ≤ distance then Bytes.signed 64 ((i * pow2 distance.toNat) % pow2 64).toNat
  else Int.fdiv i (pow2 (-distance).toNat)

/-- The 64 bits of an integer. -/
def bitsOf (i : Int) : Nat := (i % pow2 64).toNat

/-- The value of an operator with two operands. -/
def apply (op : BinaryOp) (a b : Datum) : Datum :=
  match op with
  -- The truth operators can have a value although an operand is unknown.
  | .and => truthDatum (both a.truth? b.truth?)
  | .or => truthDatum ((both (a.truth?.map (!·)) (b.truth?.map (!·))).map (!·))
  | _ =>
    if a = .null ∨ b = .null then .null
    else
      match op with
      | .add => arithmetic (· + ·) Binary64.add a b
      | .sub => arithmetic (· - ·) Binary64.sub a b
      | .mul => arithmetic (· * ·) Binary64.mul a b
      | .div => quotient a b
      | .rem => remainder a b
      | .concat => .text (a.toText ++ b.toText)
      | .bitAnd => .int (Bytes.signed 64 (bitsOf a.toInt &&& bitsOf b.toInt))
      | .bitOr => .int (Bytes.signed 64 (bitsOf a.toInt ||| bitsOf b.toInt))
      | .shiftLeft => .int (shift a.toInt b.toInt)
      | .shiftRight => .int (shift a.toInt (-b.toInt))
      | _ => .null

end BinaryOp

namespace Comparison

/-- Whether an order satisfies a comparison. -/
def holds : Comparison → Ordering → Bool
  | .eq, o => o == .eq
  | .is, o => o == .eq
  | .ne, o => o != .eq
  | .isNot, o => o != .eq
  | .lt, o => o == .lt
  | .le, o => o != .gt
  | .gt, o => o == .gt
  | .ge, o => o != .lt

/-- Whether null is compared like a value. -/
def seesNull : Comparison → Bool
  | .is => true
  | .isNot => true
  | _ => false

/-- The value of a comparison. -/
def apply (op : Comparison) (conversion : Affinity.Conversion) (c : Collation) (a b : Datum) :
    Datum :=
  if !op.seesNull && (a = .null || b = .null) then .null
  else
    let (a, b) := conversion.apply a b
    Datum.ofBool (op.holds (Datum.order c a b))

end Comparison

/-- Whether a value is one of several: true if it equals one, unknown if it is null or one of them
is null, false otherwise. -/
def oneOfValues (conversion : Affinity.Conversion) (c : Collation) (d : Datum)
    (items : List Datum) : Datum :=
  if items.isEmpty then Datum.ofBool false
  else if d = .null then .null
  else
    let results := items.map fun item => Comparison.eq.apply conversion c d item
    if results.contains (.int 1) then .int 1
    else if results.contains .null then .null
    else .int 0

/-- The value of a pattern test. The escape is a single character. -/
def patternValue (kind : PatternKind) (d pattern : Datum) (escape : Option Datum) :
    Except String Datum :=
  match escape with
  | some .null => .ok .null
  | some e =>
    match e.toText.toList with
    | [c] => .ok (test (some c))
    | _ => .error "ESCAPE expression must be a single character"
  | none => .ok (test none)
where
  /-- The value of the test with an escape character. -/
  test (escape : Option Char) : Datum :=
    if d = .null ∨ pattern = .null then .null
    else Datum.ofBool (kind.test escape pattern.toText.toList d.toText.toList)

namespace Term

mutual

/-- The value of a term. -/
def eval (cells : Cells) : Term → Except String Datum
  | .value d => .ok d
  | .cell i => .ok (cells.row.getD i .null)
  | .aggregate i => .ok (cells.aggregates.getD i .null)
  | .unary op e => do return op.apply (← eval cells e)
  | .binary op a b => do
    let x ← eval cells a
    return op.apply x (← eval cells b)
  | .compare op conversion c a b => do
    let x ← eval cells a
    return op.apply conversion c x (← eval cells b)
  | .oneOf conversion c e items => do
    let d ← eval cells e
    return oneOfValues conversion c d (← evalAll cells items)
  | .pattern kind e wanted escape => do
    let d ← eval cells e
    let p ← eval cells wanted
    match escape with
    | none => patternValue kind d p none
    | some escape => patternValue kind d p (some (← eval cells escape))
  -- Only the branch that is taken is computed.
  | .caseOf branches otherwise => evalBranches cells (eval cells otherwise) branches
  | .call f arguments => do f.apply (← evalAll cells arguments)
  | .cast affinity e => do return affinity.cast (← eval cells e)

/-- The values of several terms. -/
def evalAll (cells : Cells) : List Term → Except String (List Datum)
  | [] => .ok []
  | e :: rest => do
    let d ← eval cells e
    return d :: (← evalAll cells rest)

/-- The value of the first branch whose test is true. -/
def evalBranches (cells : Cells) (otherwise : Except String Datum) :
    List (Term × Term) → Except String Datum
  | [] => otherwise
  | (test, result) :: rest => do
    if (← eval cells test).truth? = some true then eval cells result
    else evalBranches cells otherwise rest

end

/-- Whether a condition is true for a row; unknown is not true. -/
def isTrue (cells : Cells) (t : Term) : Except String Bool := do
  return (← t.eval cells).truth? = some true

end Term

end Sqlite

end StoreBridge
