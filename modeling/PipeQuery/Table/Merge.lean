import PipeQuery.Table.Concat

/-!
# Joining tables on a key

`Table.leftJoin left right lk rk suffix` puts beside each row of `left` the rows of `right` whose
key equals the row's key, in the right table's order, or missing cells when none matches (missing
keys match each other). Right columns whose labels the left has get `suffix`; keys of kinds that
cannot meet fail.
-/

namespace PipeQuery

namespace Column

/-- The cells at the given rows, a gap where there is none. -/
def takeOr (c : Column) (rows : Array (Option Nat)) : Column :=
  if rows.all Option.isSome then c.pick (rows.map (·.getD 0))
  else
    let dtype : DType := match c.dtype with
      | .int64 | .int32 | .int16 | .int8 | .uint64 | .uint32 | .uint16 | .uint8 | .float64
      | .float32 => .float64
      | .datetime => .datetime
      | .duration => .duration
      | _ => .object
    let gap := if dtype == .datetime || dtype == .duration then Value.nat else Value.nan
    { c with dtype, cells := rows.map fun r => match r with
      | some i => (c.cell i).storedAs dtype
      | none => gap }

/-- What a column holds, for joins: `empty`, `string`, `integer`, `boolean`, `floating`,
`mixed-integer` or `mixed`. -/
def valueKind (c : Column) : String :=
  match c.dtype with
  | .int64 | .int32 | .int16 | .int8 | .uint64 | .uint32 | .uint16 | .uint8 => "integer"
  | .float64 | .float32 | .float16 => "floating"
  | .bool => "boolean"
  | .datetime | .zoned _ | .zone _ | .instantsIn _ => "datetime64"
  | .duration | .spansIn _ => "timedelta64"
  | .complex128 | .complex64 => "complex"
  | .swapped inner => if inner.isFloat then "floating" else "integer"
  | .object | .category | .nullable _ | .text | .bytes _ | .period _ =>
    let cells := c.cells.toList
    if cells.isEmpty then "empty"
    else if cells.all (· matches .str _) then "string"
    else if cells.all (· matches .int _) then "integer"
    else if cells.all (· matches .bool _) then "boolean"
    else if cells.all (· matches .float _) then "floating"
    else if cells.any (· matches .int _) then "mixed-integer"
    else "mixed"

end Column

def keysClash (a b : Column) : Bool :=
  if a.dtype == b.dtype || (a.cells.isEmpty != b.cells.isEmpty) then false
  else
    let timed (d : DType) : Bool := d == .datetime || d == .duration
    let numeric (d : DType) : Bool := d.isInteger || d == .float64 || d == .bool
    if timed a.dtype || timed b.dtype then true
    else if numeric a.dtype && numeric b.dtype then false
    else if a.dtype == .bool || b.dtype == .bool then false
    else if a.dtype == .object && b.dtype == .object then false
    else
      let small := ["integer", "mixed-integer", "boolean", "empty"]
      let texts := ["string", "mixed", "empty"]
      let ka := a.valueKind
      let kb := b.valueKind
      if small.contains ka && small.contains kb then false
      else texts.contains ka != texts.contains kb

/-- Whether two key columns of different types both become mixed values before joining. -/
def keysToObject (a b : Column) : Bool :=
  if a.dtype == b.dtype then false
  else
    let kind (d : DType) : Nat :=
      if d.isInteger then 0 else if d.isFloat then 1 else if d == .bool then 2 else 3
    let inner (d : DType) : DType := match d with
      | .nullable i => i
      | d => d
    let (da, db) := (inner a.dtype, inner b.dtype)
    if da.isNumeric && db.isNumeric then
      !(kind da == kind db || (kind da < 2 && kind db < 2) || a.valueKind == b.valueKind)
    else if da == .object && db == .object then false
    else if (da == .datetime || da matches .zoned _) && (db == .datetime || db matches .zoned _) then false
    else true

def keysMatch (a b : Value) : Bool :=
  if a.isMissing || b.isMissing then a.isMissing && b.isMissing else a.same b

/-- The row pairs of a left join: each left row with each matching right row in order, or with none.
-/
def joinRows (left right : Column) : Array (Nat × Option Nat) :=
  (Array.range left.cells.size).flatMap fun i =>
    let k := left.cell i
    let hits := (Array.range right.cells.size).filter fun j => keysMatch k (right.cell j)
    if hits.isEmpty then #[(i, none)] else hits.map fun j => (i, some j)

def joinedLabel (others : Array Value) (suffix : String) (label : Value) : Value :=
  if others.any (Value.same label) then .str (label.text ++ suffix) else label

namespace Table

/-- Whether the suffix would make two right columns of one name. -/
def suffixClash (rights renamed : Array Value) : Bool :=
  let repeated (xs : Array Value) (i : Nat) : Bool :=
    (List.range i).any fun j => (xs.getD j .none).same (xs.getD i .none)
  (List.range renamed.size).any fun i => repeated renamed i && !repeated rights i

def leftJoin (left right : Table) (lk rk suffix : String) : Outcome Table := do
  let some lkey := left.find? lk | throw (Fault.inner .keyError (Text.quote lk))
  let some rkey := right.find? rk | throw (Fault.inner .keyError (Text.quote rk))
  for (t, k) in [(left, lk), (right, rk)] do
    if (t.columns.filter (·.named k)).size > 1 then
      throw (Fault.inner .valueError s!"The column label '{k}' is not unique.")
  if keysClash lkey rkey then
    throw (Fault.inner .valueError
      s!"You are trying to merge on {lkey.dtype.name} and {rkey.dtype.name} columns for key '{lk}'")
  let pairs := joinRows lkey rkey
  let rightColumns := if lk == rk then right.columns.filter (!·.named rk) else right.columns
  let leftLabels := left.labels
  let rightLabels := rightColumns.map (·.label)
  let renamed := rightLabels.map (joinedLabel leftLabels suffix)
  if rightLabels.any (fun r => leftLabels.any (·.same r)) && suffixClash rightLabels renamed then
    throw (Fault.inner .mergeError "Passing 'suffixes' which cause duplicate columns is not allowed.")
  let toObject := keysToObject lkey rkey
  let left := if toObject then
      { left with columns := left.columns.map fun c => if c.named lk then { c with dtype := .object } else c }
    else left
  let lefts := left.columns.map fun c => c.pick (pairs.map (·.1))
  let rights := rightColumns.map fun c =>
    { c.takeOr (pairs.map (·.2)) with label := joinedLabel leftLabels suffix c.label }
  let lefts := lefts.map fun c => { c with label := joinedLabel rightLabels "" c.label }
  return { columns := lefts ++ rights, index := rangeIndex pairs.size }

end Table

end PipeQuery
