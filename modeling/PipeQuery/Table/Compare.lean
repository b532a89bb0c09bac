import PipeQuery.Table.Basic
import PipeQuery.Value.Order
import PipeQuery.Time.Instant

/-!
# Comparing columns

A column is compared with a value, or with another column row by row, giving one truth per row:
instants with instants (and texts that read as such), numbers by value, other cells as values do.
A missing cell compares false (unequal: true); numbers against a text are unequal and have no
order.
-/

namespace PipeQuery

def DType.isNumber : DType → Bool
  | .int64 | .int32 | .int16 | .int8 | .uint64 | .uint32 | .uint16 | .uint8 | .float64 | .bool => true
  | _ => false

/-- Two numbers in table order: a double on either side makes both doubles; `none` when a NaN is
involved. -/
def Num.tableOrder? (a b : Num) : Option Ordering :=
  match a, b with
  | .int m, .int n => some (compare m n)
  | x, y => Num.cmpFloat x.toFloat y.toFloat

/-- The truth of `op` on two numbers; false with a NaN, except for inequality. -/
def numHolds (op : CmpOp) (a b : Num) : Bool :=
  match Num.tableOrder? a b with
  | some o => op.holds o
  | none => op == .ne

/-- The failure, or constant answer, of comparing a column with something it cannot compare with, of
kind `other`. -/
def invalidComparison (op : CmpOp) (dtype : DType) (other : String) (n : Nat) : Outcome (Array Bool) :=
  match op with
  | .eq => pure (Array.replicate n false)
  | .ne => pure (Array.replicate n true)
  | _ => throw (Fault.inner .typeError s!"Invalid comparison between dtype={dtype.name} and {other}")

/-- A comparison of two cells as tables make it: a missing side gives false (unequal: true), else
the values compare. -/
def cellHolds (op : CmpOp) (a b : Value) : Outcome Bool :=
  if a.isMissing || b.isMissing then pure (op == .ne)
  else Value.compareBy op a b

def Value.instant? : Value → Option Int
  | .time ns => some ns
  | .str s => (Time.readInstant s).toOption.bind Time.TextInstant.utc?
  | _ => Option.none

/-- The instant a value stands for beside instants of no zone; a text naming a zone stands for none,
as the two do not compare. -/
def Value.wallInstant? : Value → Option Int
  | .time ns => some ns
  | .str s =>
    match Time.readInstant s with
    | .ok (.stamp wall Option.none _) => some wall
    | _ => Option.none
  | _ => Option.none

def Column.compareValue (op : CmpOp) (c : Column) (v : Value) : Outcome (Array Bool) :=
  let n := c.size
  match c.dtype with
  | .datetime =>
    match v with
    | .nat | .none => pure (Array.replicate n (op == .ne))
    | _ =>
      match v.wallInstant? with
      | some t => pure (c.cells.map fun x => match x with
        | .time s => op.holds (compare s t)
        | _ => op == .ne)
      | none => invalidComparison op c.dtype v.typeName n
  | d =>
    if v.isMissing then pure (Array.replicate n (op == .ne))
    else if d.isNumber then
      match v.num? with
      | some y => pure (c.cells.map fun x => match x.num? with
        | some a => numHolds op a y
        | none => op == .ne)
      | none =>
        match v with
        | .str _ => invalidComparison op d "str" n
        | _ => c.cells.mapM fun x => cellHolds op x v
    else c.cells.mapM fun x => cellHolds op x v

def Column.compareColumn (op : CmpOp) (a b : Column) : Outcome (Array Bool) :=
  let n := a.size
  let pairs := (Array.range n).map fun i => (a.cell i, b.cell i)
  if a.dtype == .datetime && b.dtype != .datetime && b.dtype != .object then
    invalidComparison op a.dtype "ndarray" n
  else if a.dtype.isNumber && b.dtype.isNumber then
    pure (pairs.map fun (x, y) =>
      match x.num?, y.num? with
      | some p, some q => numHolds op p q
      | _, _ => op == .ne)
  else if a.dtype.isNumber then
    pairs.mapM fun (x, y) =>
      match x.num?, y.num? with
      | some p, some q => pure (numHolds op p q)
      | _, _ => Value.compareBy op x y
  else pairs.mapM fun (x, y) => cellHolds op x y

end PipeQuery
