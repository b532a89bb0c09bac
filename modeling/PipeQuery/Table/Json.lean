import PipeQuery.Table.Convert
import PipeQuery.Json

/-!
# Tables in the interchange format

`Value.ofJson?` reads the tagged forms `Value.toJson` writes, and no other object. A table is read
from `{"columns": [[label, [cells…], type?], …]}`, types inferred, or instants read for
`"datetime"`; a label given twice keeps its first place and its last cells.
-/

namespace PipeQuery

namespace Value

mutual

/-- The value a cell's JSON stands for; an object that is none of the tagged forms stands for
nothing, and the request that holds it fails. -/
def ofJson? : Json → Option Value
  | .null => some none
  | .bool b => some (bool b)
  | .int n => some (int n)
  | .float x => some (float x)
  | .str s => some (str s)
  | .arr items => (ofJsonItems? items).map (list · 0)
  | .obj [("$float", .str "nan")] => some (float (0.0 / 0.0))
  | .obj [("$float", .str "inf")] => some (float (1.0 / 0.0))
  | .obj [("$float", .str "-inf")] => some (float (-1.0 / 0.0))
  | .obj [("$ts", .str s)] =>
    match Time.readInstant s with
    | .ok (.stamp wall (some offset) _) => some (zoned (wall - offset * Time.nsPerSecond) offset)
    | .ok (.stamp wall Option.none _) => some (time wall)
    | _ => some nat
  | .obj [("$nat", _)] => some nat
  | .obj [("$na", _)] => some na
  | .obj [("$td_ns", .int n)] => some (span n)
  | .obj [("$dict", .arr pairs)] => (ofJsonPairs? pairs).map dict
  | .obj _ => Option.none

def ofJsonItems? : List Json → Option (List Value)
  | [] => some []
  | j :: js => do pure ((← ofJson? j) :: (← ofJsonItems? js))

def ofJsonPairs? : List Json → Option (List (String × Value))
  | [] => some []
  | .arr [.str k, v] :: js => do pure ((k, ← ofJson? v) :: (← ofJsonPairs? js))
  | _ :: _ => Option.none

end

end Value

namespace Column

/-- A column's label and cells, or a `ValueError` when one of them is an untagged object. -/
def readCells (label : Json) (cells : List Json) : Outcome (Value × Array Value) :=
  match Value.ofJson? label, Value.ofJsonItems? cells with
  | some l, some vals => pure (l, vals.toArray)
  | _, _ => throw (Fault.inner .valueError "unknown tagged value")

/-- A column from its interchange form `[label, [cells…]]` or `[label, [cells…], type]`. -/
def ofJson? : Json → Option (Outcome Column)
  | .arr [label, .arr cells] => some do
    let (l, vals) ← readCells label cells
    pure (infer l vals)
  | .arr [label, .arr cells, .str kind] => some do
    let (l, vals) ← readCells label cells
    if kind == "datetime" then Column.toInstants false Option.none { label := l, dtype := .object, cells := vals }
    else if kind == "float64" then pure { label := l, dtype := .float64, cells := vals.map Value.asFloat }
    else if kind == "object" then pure { label := l, dtype := .object, cells := vals }
    else pure (infer l vals)
  | _ => none

end Column

namespace Table

/-- Adds a column as a dictionary takes a key: one whose label is there takes that column's place,
under the first label. -/
def addColumn (cols : Array Column) (c : Column) : Array Column :=
  match cols.findIdx? (fun d => Value.same d.label c.label) with
  | some i => cols.set! i { c with label := (cols.getD i c).label }
  | none => cols.push c

def ofJson? (j : Json) : Option (Outcome Table) := do
  let cols ← (j.get? "columns").bind Json.arr?
  let columns ← cols.mapM Column.ofJson?
  pure do
    let columns ← columns.mapM id
    let columns := columns.foldl addColumn #[]
    let n := (columns.map Column.size).foldl max 0
    pure { columns := columns, index := rangeIndex n }

def toJson (t : Table) : Json :=
  let rows := (Array.range t.rowCount).toList.map fun i =>
    Json.arr (t.columns.toList.map fun c => (c.cell i).toJson)
  .obj [("columns", .arr (t.columns.toList.map (·.label.toJson))),
    ("dtypes", .arr (t.columns.toList.map fun c => .str c.dtype.name)),
    ("index", .arr (t.index.toList.map Value.toJson)),
    ("rows", .arr rows)]

end Table

end PipeQuery
