import PipeQuery.Table.Basic
import PipeQuery.Value.Arith
import PipeQuery.Value.Basic
import PipeQuery.Table.Infer

/-!
# Arithmetic on columns

`+ - * /` between a column and a single value or two columns, and the signs `- + ~`. Columns of
numbers compute as arrays of machine numbers: doubles when a double is on either side, else
integers in the wider type, wrapping around (booleans alone as "or"/"and"); `/` gives doubles and
divides by zero without failing. A column of mixed values computes value by value, retrying once
without its missing values.
-/

namespace PipeQuery

/-- One side of an arithmetic operation: a column, or one value for every row. -/
inductive Side
  | column (c : Column)
  | scalar (v : Value)
  deriving Inhabited

namespace Side

def cell (s : Side) (i : Nat) : Value :=
  match s with
  | .column c => c.cell i
  | .scalar v => v

def isLoose : Side → Bool
  | .column c => c.dtype == .object
  | .scalar _ => false

def kindName : Side → String
  | .column c => s!"dtype('{c.dtype.name}')"
  | .scalar (.str s) => s!"dtype('<U{s.length}')"
  | .scalar (.int _) => "dtype('int64')"
  | .scalar (.float _) => "dtype('float64')"
  | .scalar (.bool _) => "dtype('bool')"
  | .scalar _ => "dtype('O')"

end Side

def ArithOp.ufuncName : ArithOp → String
  | .add => "add" | .sub => "subtract" | .mul => "multiply" | .div => "divide"
  | .floorDiv => "floor_divide" | .mod => "remainder" | .pow => "power"

def wrap64 (n : Int) : Int :=
  let m := n % Seen.wordRange
  if m > Seen.int64Max then m - Seen.wordRange else m

/-- An integer wrapped to the integer element type `d` (64 signed bits for other types). -/
def DType.wrapInt (d : DType) (n : Int) : Int :=
  match d.intWidth? with
  | some (true, bits) =>
    let m := n % Nat.pow 2 bits
    if m ≥ Nat.pow 2 (bits - 1) then m - Nat.pow 2 bits else m
  | some (false, bits) => n % Nat.pow 2 bits
  | none => wrap64 n

def DType.holdsInt (d : DType) (n : Int) : Bool :=
  match d.intWidth? with
  | some (true, bits) => -(Nat.pow 2 (bits - 1) : Int) ≤ n && n < (Nat.pow 2 (bits - 1) : Int)
  | some (false, bits) => 0 ≤ n && n < (Nat.pow 2 bits : Int)
  | none => Seen.int64Min ≤ n && n ≤ Seen.int64Max

def powMod (base e m : Nat) : Nat :=
  let rec go : Nat → Nat → Nat → Nat → Nat
    | 0, _, _, acc => acc
    | fuel + 1, b, e, acc =>
      if e == 0 then acc
      else go fuel (b * b % m) (e / 2) (if e % 2 == 1 then acc * b % m else acc)
  go (e.log2 + 2) (base % m) e (1 % m)

/-- `a ^ b` on integers of the element type `d`, wrapping around. -/
def wrapPow (d : DType) (a : Int) (b : Nat) : Int :=
  d.wrapInt (powMod (a % Seen.wordRange).toNat b Seen.wordRange.toNat)

def negativePower : Fault :=
  Fault.inner .valueError "Integers to negative integer powers are not allowed."

def boolSubtract : Fault :=
  Fault.inner .typeError
    "numpy boolean subtract, the `-` operator, is not supported, use the bitwise_xor, the `^` operator, or the logical_xor function instead."

inductive NumKind
  | bool | int | float
  deriving DecidableEq

def Side.numKind? : Side → Option NumKind
  | .column c =>
    match c.dtype with
    | .bool => some .bool
    | .int64 | .int32 | .int16 | .int8 | .uint64 | .uint32 | .uint16 | .uint8 => some .int
    | .float64 => some .float
    | _ => none
  | .scalar (.bool _) => some .bool
  | .scalar (.int _) => some .int
  | .scalar (.float _) => some .float
  | .scalar _ => none

def Value.toDouble : Value → Float
  | .int n => Num.intToFloat n
  | .float x => x
  | .bool b => if b then 1.0 else 0.0
  | _ => 0.0 / 0.0

def Value.toInteger : Value → Int
  | .int n => n
  | .bool b => if b then 1 else 0
  | _ => 0

/-- `a op b` on doubles as arrays compute it: division by zero gives an infinity or NaN, as `//`
does; `%` by zero NaN. -/
def floatOp (op : ArithOp) (a b : Float) : Float :=
  match op with
  | .add => a + b
  | .sub => a - b
  | .mul => a * b
  | .div => a / b
  | .floorDiv => (Num.floatDivMod a b).1
  | .mod => (Num.floatDivMod a b).2
  | .pow => Float.pow a b

/-- An integer `//` by zero as a double: an infinity of the dividend's sign, or NaN for a zero
dividend. -/
def zeroDivision (a : Int) : Float :=
  if a > 0 then 1.0 / 0.0 else if a < 0 then -1.0 / 0.0 else 0.0 / 0.0

/-- `a op b` on integers of type `d`, wrapping; `none` for `//` or `%` by zero. Negative powers are
refused before. -/
def intOp (d : DType) (op : ArithOp) (a b : Int) : Option Int :=
  match op with
  | .add => some (d.wrapInt (a + b))
  | .sub => some (d.wrapInt (a - b))
  | .mul => some (d.wrapInt (a * b))
  | .floorDiv => if b == 0 then none else some (d.wrapInt (Int.fdiv a b))
  | .mod => if b == 0 then none else some (d.wrapInt (Int.fmod a b))
  | .pow => some (wrapPow d a b.toNat)
  | .div => none

/-- The type two integer or boolean column types compute in; none (doubles) for unsigned 64-bit with
signed. -/
def promoteInts (a b : DType) : Option DType :=
  match a, b with
  | .bool, d | d, .bool => some d
  | _, _ =>
    match a.intWidth?, b.intWidth? with
    | some (sa, wa), some (sb, wb) =>
      if sa == sb then some (DType.ofIntWidth sa (max wa wb))
      else
        -- one signed, one unsigned: a signed type wider than the unsigned one
        let (ws, wu) := if sa then (wa, wb) else (wb, wa)
        if ws > wu then some (DType.ofIntWidth true ws)
        else if wu == 64 then none
        else some (DType.ofIntWidth true (max ws (2 * wu)))
    | _, _ => some .int64

/-- The element type an integer column computes in with a single integer or boolean. -/
def scalarInts (d : DType) (v : Value) : DType :=
  match d, v with
  | .bool, .int _ => .int64
  | d, _ => d

def numericArith (op : ArithOp) (n : Nat) (l r : Side) (lk rk : NumKind) : Outcome Column := do
  let label : Value := match l, r with
    | .column c, _ => c.label
    | _, .column c => c.label
    | _, _ => .none
  let rows := Array.range n
  -- the integer type the two sides compute in, when neither holds doubles
  let intType : Option DType := match l, r with
    | .column a, .column b => promoteInts a.dtype b.dtype
    | .column a, .scalar v | .scalar v, .column a => some (scalarInts a.dtype v)
    | _, _ => some .int64
  if lk != .float && rk != .float then
    match l, r, intType with
    | .scalar (.int k), .column _, some d | .column _, .scalar (.int k), some d =>
      if !d.holdsInt k then
        throw (Fault.inner .overflowError s!"Python integer {k} out of bounds for {d.name}")
    | _, _, _ => pure ()
  if op == .pow && lk != .float && rk != .float &&
      (Array.range n).any fun i => (r.cell i).toInteger < 0 then
    throw negativePower
  if op == .div || lk == .float || rk == .float || intType.isNone then
    if op == .div && lk == .bool && rk == .bool then
      throw (Fault.inner .typeError "operator 'truediv' not implemented for bool dtypes")
    let cells := rows.map fun i => Value.float (floatOp op (l.cell i).toDouble (r.cell i).toDouble)
    return { label, dtype := .float64, cells }
  if lk == .bool && rk == .bool && (op == .add || op == .sub || op == .mul) then
    match op with
    | .add =>
      let cells := rows.map fun i => Value.bool ((l.cell i).truthy || (r.cell i).truthy)
      return { label, dtype := .bool, cells }
    | .mul =>
      let cells := rows.map fun i => Value.bool ((l.cell i).truthy && (r.cell i).truthy)
      return { label, dtype := .bool, cells }
    | _ => throw boolSubtract
  let dtype : DType := match intType.getD .int64 with
    | .bool => .int64
    | d => d
  let results := rows.map fun i => intOp dtype op (l.cell i).toInteger (r.cell i).toInteger
  if results.all Option.isSome then
    return { label, dtype, cells := results.map fun v => Value.int (v.getD 0) }
  -- a zero divisor of `//` or `%` turns the whole column into doubles
  let cells := rows.map fun i =>
    match results[i]? with
    | some (some v) => Value.float (Num.intToFloat v)
    | _ => Value.float (if op == .mod then 0.0 / 0.0 else zeroDivision (l.cell i).toInteger)
  return { label, dtype := .float64, cells }

/-- An operation on a column of mixed values, value by value; on a failure of kinds, again without
missing values (NaN). -/
def looseArith (op : ArithOp) (n : Nat) (l r : Side) : Outcome Column := do
  let label : Value := match l, r with
    | .column c, _ => c.label
    | _, .column c => c.label
    | _, _ => .none
  let rows := (Array.range n).toList
  match rows.mapM fun i => Value.arith op (l.cell i) (r.cell i) with
  | .ok cells => return { label, dtype := .object, cells := cells.toArray }
  | .error e =>
    if e.kind != .typeError then throw e
    let present := fun (s : Side) (i : Nat) => match s with
      | .column _ => !(s.cell i).isMissing
      | .scalar _ => true
    let cells ← rows.mapM fun i =>
      if present l i && present r i then Value.arith op (l.cell i) (r.cell i) else pure Value.nan
    return { label, dtype := .object, cells := cells.toArray }

inductive TimeKind
  | instant | span | number | other
  deriving DecidableEq

def Side.timeKind : Side → TimeKind
  | .column c =>
    match c.dtype with
    | .datetime | .instantsIn _ => .instant
    | .duration | .spansIn _ => .span
    | .int64 | .int32 | .int16 | .int8 | .uint64 | .uint32 | .uint16 | .uint8 | .float64 => .number
    | _ => .other
  | .scalar (.time _) => .instant
  | .scalar (.span _) => .span
  | .scalar (.int _) | .scalar (.float _) => .number
  | .scalar _ => .other

def Side.nanosAt (s : Side) (i : Nat) : Option Value :=
  match s.cell i with
  | .time ns | .span ns => some (.int ns)
  | .int k => some (.int k)
  | .float x => if x.isNaN then none else some (.float x)
  | _ => none

/-- The digits of a side's time unit: its column's for a time column, nine for a single time, none
otherwise. -/
def Side.timeDigits (s : Side) : Nat :=
  match s.timeKind, s with
  | .instant, .column c | .span, .column c => c.dtype.unitDigits
  | .instant, .scalar _ | .span, .scalar _ => 9
  | _, _ => 0

/-- Arithmetic on instants and durations in the finer unit; a missing side gives a missing result,
`none` for other pairs. -/
def timeArith? (op : ArithOp) (n : Nat) (l r : Side) : Option (Outcome Column) :=
  let label : Value := match l, r with
    | .column c, _ => c.label
    | _, .column c => c.label
    | _, _ => .none
  let build (dtype : DType) (f : Value → Value → Value) : Option (Outcome Column) :=
    let blank : Value := match dtype with
      | .float64 => Value.nan
      | _ => .nat
    let cells := (Array.range n).map fun i =>
      match l.nanosAt i, r.nanosAt i with
      | some a, some b => f a b
      | _, _ => blank
    some (pure { label, dtype, cells })
  let whole (v : Value) : Int := match v with
    | .int k => k
    | .float x => Num.truncate x
    | _ => 0
  let digits := max l.timeDigits r.timeDigits
  let instants := DType.instantsAt digits
  let spans := DType.spansAt digits
  let size := DType.unitSize digits
  let units (v : Value) : Float := Num.intToFloat (whole v / size)
  let scaled (x : Float) : Value := .span (whole (.float x) * size)
  match l.timeKind, r.timeKind, op with
  | .instant, .instant, .sub => build spans fun a b => .span (whole a - whole b)
  | .instant, .span, .add | .span, .instant, .add =>
    build instants fun a b => .time (whole a + whole b)
  | .instant, .span, .sub => build instants fun a b => .time (whole a - whole b)
  | .span, .span, .add => build spans fun a b => .span (whole a + whole b)
  | .span, .span, .sub => build spans fun a b => .span (whole a - whole b)
  | .span, .span, .div => build .float64 fun a b => .float (Num.intToFloat (whole a) / Num.intToFloat (whole b))
  | .span, .number, .mul => build spans fun a b => scaled (units a * b.toDouble)
  | .number, .span, .mul => build spans fun a b => scaled (a.toDouble * units b)
  | .span, .number, .div => build spans fun a b => scaled (units a / b.toDouble)
  | _, _, _ => none

def Side.masked : Side → Bool
  | .column c => (c.dtype matches .nullable _)
  | .scalar .na => true
  | .scalar _ => false

def Side.innerKind : Side → Option DType
  | .column c =>
    (match c.dtype with
    | .nullable inner => some inner
    | d => if d.isNumeric then some d else none)
  | .scalar (.int _) => some .int64
  | .scalar (.float _) => some .float64
  | .scalar (.bool _) => some .bool
  | .scalar .na => some .int64
  | .scalar _ => none

/-- Arithmetic where a side carries `NA`, computed as arrays do; a row with `NA` on a side is `NA`.
-/
def maskedArith (op : ArithOp) (n : Nat) (l r : Side) : Option (Outcome Column) := do
  let lk ← l.innerKind
  let rk ← r.innerKind
  let label : Value := match l, r with
    | .column c, _ => c.label
    | _, .column c => c.label
    | _, _ => .none
  let missing (s : Side) (i : Nat) : Bool :=
    match s.cell i with
    | .na => true
    | v => v.isMissing && s.masked
  let floats := op == .div || lk.isFloat || rk.isFloat
  let rows := Array.range n
  if floats then
    let cells := rows.map fun i =>
      if missing l i || missing r i then Value.na
      else Value.float (floatOp op (l.cell i).toDouble (r.cell i).toDouble)
    return pure { label, dtype := .nullable .float64, cells }
  let kind := (promoteInts lk rk).getD .int64
  let kind := if kind == .bool then DType.int64 else kind
  let step (a b : Int) : Outcome Value :=
    match op with
    | .floorDiv => pure (.int (if b == 0 then 0 else kind.wrapInt (Int.fdiv a b)))
    | .mod => pure (.int (if b == 0 then 0 else kind.wrapInt (Int.fmod a b)))
    | .pow => if b < 0 then throw negativePower else pure (.int (wrapPow kind a b.toNat))
    | _ => pure (.int ((intOp kind op a b).getD 0))
  some do
    let cells ← rows.mapM fun i =>
      if missing l i || missing r i then pure Value.na
      else step (l.cell i).toInteger (r.cell i).toInteger
    pure { label, dtype := .nullable kind, cells }

def sideArith (op : ArithOp) (n : Nat) (l r : Side) : Outcome Column :=
  match timeArith? op n l r with
  | some result => result
  | none =>
  match (if l.masked || r.masked then maskedArith op n l r else none) with
  | some result => result
  | none =>
  if l.isLoose || r.isLoose then looseArith op n l r
  else
    match l.numKind?, r.numKind? with
    | some lk, some rk => numericArith op n l r lk rk
    | _, _ =>
      match l, r with
      | .scalar (.str _), .column _ | .column _, .scalar (.str _) =>
        throw (Fault.inner .ufuncTypeError
          s!"ufunc '{op.ufuncName}' did not contain a loop with signature matching types ({l.kindName}, {r.kindName}) -> None")
      | _, _ => looseArith op n l r

namespace Column

def negate (c : Column) : Outcome Column :=
  match c.dtype with
  | .bool => pure { c with cells := c.cells.map fun v => .bool !v.truthy }
  | .int64 | .int32 | .int16 | .int8 | .uint64 | .uint32 | .uint16 | .uint8 =>
    pure { c with cells := c.cells.map fun v => .int (c.dtype.wrapInt (-v.toInteger)) }
  | .float64 => pure { c with cells := c.cells.map fun v => .float (-v.toDouble) }
  | _ => do
    let cells ← c.cells.mapM fun v => match v with
      | .int k => pure (Value.int (-k))
      | .float x => pure (.float (-x))
      | .bool b => pure (.int (if b then -1 else 0))
      | v => throw (Fault.inner .typeError s!"bad operand type for unary -: '{v.typeName}'")
    return { c with cells }

def invert (c : Column) : Outcome Column :=
  match c.dtype with
  | .bool => pure { c with cells := c.cells.map fun v => .bool !v.truthy }
  | .int64 | .int32 | .int16 | .int8 | .uint64 | .uint32 | .uint16 | .uint8 =>
    pure { c with cells := c.cells.map fun v => .int (c.dtype.wrapInt (-v.toInteger - 1)) }
  | .object => do
    let cells ← c.cells.mapM fun v => match v with
      | .int k => pure (Value.int (-k - 1))
      | .bool b => pure (.int (if b then -2 else -1))
      | v => throw (Fault.inner .typeError s!"bad operand type for unary ~: '{v.typeName}'")
    return { c with cells }
  | _ => throw (Fault.inner .typeError
      "ufunc 'invert' not supported for the input types, and the inputs could not be safely coerced to any supported types according to the casting rule ''safe''")

end Column

end PipeQuery
