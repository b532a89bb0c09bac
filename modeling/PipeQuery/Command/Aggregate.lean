import PipeQuery.Table.Summary
import PipeQuery.Command.Args
import PipeQuery.Text.Numeral

/-!
# `stats`

`stats f(x) as a, g(y), … by k1, k2` summarises a table. An aggregation writes column `a` when
given, else `f_x`, or `f` alone; `count` without a column counts the present values of the first
column. Without `by` the result is one row; with `by`, one row per group of key values in the
keys' order (rows with a missing key are left out). A table without rows or columns stays as it
is.
-/

namespace PipeQuery

/-- One aggregation as written: the function's name in lower case, the column it reads and the name
it writes, if given. -/
structure Aggregate where
  function : String
  field : Option String
  asName : Option String
  deriving Inhabited

namespace Aggregate

/-- The column an aggregation writes when not renamed: `f_x`, or `f` without a column. -/
def defaultName (fn : String) (field : Option String) : String :=
  match field with
  | some f => fn ++ "_" ++ f
  | none => fn

/-- An aggregation of a parsed stage: the function before a `:`, the new name after; a column
argument names the column, a literal its text. -/
def ofQuery (a : Query.Aggregation) : Aggregate :=
  let field := match a.args with
    | .ident n _ :: _ => some n
    | .lit v _ _ :: _ => some v.word
    | _ => none
  let parts := (a.fn ++ (a.asName.map (":" ++ ·)).getD "").splitOn ":"
  { function := Text.lower (parts.headD ""), field, asName := parts[1]? }

/-- An aggregation written as one word: `f(x)`, or `f` alone; trailing commas are dropped. -/
def ofWord (w : String) : Aggregate :=
  let w := Command.stripCommas w
  let parts := Text.splitText (Text.lower w) " as "
  let (w, asName) :=
    if parts.length > 1 then (Text.trimBlanks (parts.headD ""), some (Text.trimBlanks (parts.getD 1 "")))
    else (w, none)
  match w.toList.findIdx? (· == '(') with
  | some i =>
    let fn := Text.lower (String.ofList (w.toList.take i))
    let field :=
      if w.endsWith ")" then
        let inner := Text.trimBlanks (String.ofList ((w.toList.drop (i + 1)).dropLast))
        if inner.isEmpty then none else some inner
      else none
    { function := fn, field, asName }
  | none => { function := Text.lower w, field := none, asName }

end Aggregate

structure StatsRequest where
  aggregates : List Aggregate
  keys : List String
  deriving Inhabited

namespace StatsRequest

def ofStage (st : Query.Stage) : StatsRequest :=
  { aggregates := st.aggs.map Aggregate.ofQuery, keys := st.byFields }

def ofWords (ws : List String) : StatsRequest :=
  let before := ws.takeWhile fun w => Text.lower w != "by"
  let after := (ws.dropWhile fun w => Text.lower w != "by").drop 1
  { aggregates := before.map Aggregate.ofWord, keys := after.map Command.stripCommas }

end StatsRequest

namespace Command

def columnNamed (t : Table) (name : String) : Outcome Column :=
  match t.find? name with
  | some c => pure c
  | none => throw (Fault.inner .keyError (Text.quote name))

def stats (req : StatsRequest) (t : Table) : Outcome Table := do
  if t.isEmpty then return t
  let specs ← req.aggregates.mapM fun a => do
    let name := a.asName.getD (Aggregate.defaultName a.function a.field)
    match Summary.ofName? a.function with
    | some s => pure (name, s, a.field)
    | none => throw (Fault.invalid s!"Unknown aggregation function: {a.function}")
  let source (s : Summary) (field : Option String) : Outcome Column :=
    match field with
    | some f => columnNamed t f
    | none =>
      if s == .count then pure (t.columns.getD 0 default)
      else throw (Fault.inner .keyError "None")
  if req.keys.isEmpty then
    let row ← specs.foldlM (fun (row : List (String × Column)) (name, s, field) => do
      let c ← source s field
      let v ← s.whole c
      -- an unsigned column's sums and extremes stay unsigned; counts are plain integers
      let unsigned := c.dtype == .uint64 && s != .count && s != .distinct
      let col := match v with
        | .int _ => if unsigned then { label := .str name, dtype := .uint64, cells := #[v] }
          else Column.infer (.str name) #[v]
        | _ => Column.infer (.str name) #[v]
      return match row.findIdx? (·.1 == name) with
        | some i => row.set i (name, col)
        | none => row ++ [(name, col)]) []
    return { columns := row.toArray.map (·.2), index := #[.int 0] }
  else
    let keys ← req.keys.mapM (columnNamed t)
    -- a list or a mapping cannot be the key of a group
    for c in keys do
      match c.cells.find? (fun v => v matches .list .. || v matches .dict _) with
      | some v => throw (Fault.inner .typeError s!"unhashable type: '{v.typeName}'")
      | none => pure ()
    let groups := groupRows t.rowCount keys
    let rows := groups.map (·.2)
    let keyColumns := keys.map fun c =>
      { c with cells := (rows.map fun rs => c.cell (rs.headD 0)).toArray }
    let start : Table := { columns := keyColumns.toArray, index := Table.rangeIndex groups.length }
    specs.foldlM (fun (out : Table) (name, s, field) => do
      let c ← s.groups (← source s field) rows
      return out.put { c with label := .str name }) start

end Command

end PipeQuery
