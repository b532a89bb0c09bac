import PipeQuery.Table.Infer

/-!
# Stacking tables

`Table.stack` puts tables one under another over every column label of the parts, in order of
first appearance, a part without a column giving missing cells. A column's type is the common type
(`DType.common`) of the parts that have present cells in it; the rows are labelled `0, 1, …`.
-/

namespace PipeQuery

namespace DType

/-- The type two number columns meet in when joined; other pairs meet in `object`. -/
def promote (a b : DType) : DType :=
  if a == b then a
  else
    match a, b with
    | .bool, .int64 | .int64, .bool => .int64
    | .bool, .int32 | .int32, .bool => .int32
    | .bool, .uint64 | .uint64, .bool => .uint64
    | .bool, .float64 | .float64, .bool => .float64
    | .int64, .int32 | .int32, .int64 => .int64
    | .uint64, .int32 | .int32, .uint64 => .int64
    | .int64, .float64 | .float64, .int64 | .int32, .float64 | .float64, .int32
    | .uint64, .float64 | .float64, .uint64 | .uint64, .int64 | .int64, .uint64 => .float64
    | _, _ => .object

/-- The type of a column stacked from two types: as `promote`, but booleans and other types meet in
`object`. -/
def common (a b : DType) : DType :=
  if a != b && (a == .bool || b == .bool) then .object else promote a b

def holdsMissing : DType → Bool
  | .float64 | .object | .datetime | .duration => true
  | _ => false

/-- The cell standing in for rows of a part with only missing cells; `none` when they keep their
own. -/
def standIn : DType → Option Value
  | .float64 | .object => some Value.nan
  | .datetime | .duration => some .nat
  | _ => none

end DType

def Value.storedAs (d : DType) (v : Value) : Value :=
  match d, v with
  | .float64, _ => v.asFloat
  | .int64, .bool b | .int32, .bool b | .uint64, .bool b => .int (if b then 1 else 0)
  | .datetime, _ | .duration, _ => if v.isMissing then .nat else v
  | _, _ => v

namespace Column

def missingOf (label : Value) (n : Nat) : Column :=
  { label, dtype := .float64, cells := Array.replicate n Value.nan }

def allMissing (c : Column) : Bool :=
  c.dtype.holdsMissing && c.cells.all Value.isMissing

/-- Joins the cells of columns in their shared or promoted type. -/
def join (label : Value) (parts : List Column) : Column :=
  let dtypes := parts.map (·.dtype)
  let first := dtypes.headD .object
  let cells := (parts.map (·.cells)).foldl (· ++ ·) #[]
  if dtypes.all (· == first) then { label, dtype := first, cells }
  else
    let target := dtypes.foldl DType.promote first
    let stored := (parts.map fun (c : Column) => c.cells.map (Value.storedAs target)).foldl (· ++ ·) #[]
    if dtypes.any (· == .bool) && target.isNumeric then { label, dtype := .object, cells := stored }
    else { label, dtype := target, cells := stored }

/-- Columns stacked under one label, typed by the parts with a present cell. -/
def stack (label : Value) (parts : List Column) : Column :=
  let dtypes := parts.map (·.dtype)
  let first := dtypes.headD .object
  if dtypes.all (· == first) then join label parts
  else
    let telling := parts.filter fun (c : Column) => !c.allMissing
    let chosen := match telling with
      | c :: rest => rest.foldl (fun (d : DType) (x : Column) => d.common x.dtype) c.dtype
      | [] => dtypes.foldl DType.common first
    match chosen.standIn with
    | none => join label parts
    | some fill =>
      join label (parts.map fun (c : Column) =>
        if c.allMissing then
          let f := if c.dtype == .object && c.cells[0]? matches some Value.none then Value.none else fill
          { c with dtype := chosen, cells := c.cells.map fun _ => f }
        else c)

end Column

namespace Table

def unionLabels (ts : List Table) : List Value :=
  ts.foldl (fun acc t => t.labels.foldl
    (fun acc l => if acc.any (Value.same l) then acc else acc ++ [l]) acc) []

def columnOr (t : Table) (label : Value) : Column :=
  (t.columns.find? fun c => Value.same c.label label).getD (Column.missingOf label t.rowCount)

def stack (ts : List Table) : Table :=
  let labels := unionLabels ts
  let columns := labels.map fun l => Column.stack l (ts.map (·.columnOr l))
  let n := (ts.map Table.rowCount).foldl (· + ·) 0
  { columns := columns.toArray, index := rangeIndex n }

end Table

end PipeQuery
