import PipeQuery.Command.Args
import PipeQuery.Command.Order
import PipeQuery.Table.Merge
import PipeQuery.Table.Fill
import PipeQuery.Text.Numeral

/-!
# Columns and rows from other tables

`lookup` takes columns from a stored table; `join` and `append` take rows from a subquery.
-/

/-!
## `lookup`: columns from a stored table

`lookup table="t" field=f output="a, b" default=v` adds to each row the columns `a` and `b` of
the first row of the stored table `t` whose key (`lookup_field`, else `f`) matches the row's `f`.
Without `output` every other column is added; labels the table has already get `_lookup`
appended. `default` fills the missing cells of the output columns. The checks come in a fixed
order, each with its own message.
-/

namespace PipeQuery

/-- What `lookup` does: the stored table, key columns, columns added and the value filling their
gaps. -/
structure Lookup where
  table : String := ""
  field : String := ""
  lookupField : String := ""
  output : List String := []
  default : Option Value := none
  deriving Inhabited

namespace Lookup

open Query Command

def outputNames (s : String) : List String :=
  (Text.splitText s ",").map Text.trimBlanks

def litValue : LitValue → Value
  | .text s => .str s
  | .int n => .int n
  | .float x => .float x

def withKey (l : Lookup) : Lookup :=
  if l.lookupField.isEmpty then { l with lookupField := l.field } else l

/-- The request of a parsed stage: literal settings, and `field` and `lookup_field` with names too.
-/
def ofStage (st : Stage) : Lookup :=
  withKey (st.args.foldl (fun (l : Lookup) (a : Arg) =>
    match a with
    | .keyword k (.lit v _ _) _ =>
      match k with
      | "table" => { l with table := v.word }
      | "field" => { l with field := v.word }
      | "lookup_field" => { l with lookupField := v.word }
      | "output" => { l with output := outputNames v.word }
      | "default" => { l with default := some (litValue v) }
      | _ => l
    | .keyword k (.ident n _) _ =>
      if k == "field" then { l with field := n }
      else if k == "lookup_field" then { l with lookupField := n }
      else l
    | _ => l) {})

def ofWords (ws : List String) : Lookup :=
  withKey (ws.foldl (fun (l : Lookup) (w : String) =>
    if let some v := afterPrefix? "table=" w then { l with table := stripQuotes v }
    else if let some v := afterPrefix? "field=" w then { l with field := stripQuotes v }
    else if let some v := afterPrefix? "lookup_field=" w then { l with lookupField := stripQuotes v }
    else if let some v := afterPrefix? "output=" w then { l with output := outputNames (stripQuotes v) }
    else if let some v := afterPrefix? "default=" w then { l with default := some (.str (stripQuotes v)) }
    else l) {})

end Lookup

namespace Command

/-- Adds columns of a stored table, found by `stored` (see the module's description). -/
def lookup (l : Lookup) (stored : String → Option Table) (t : Table) : Outcome Table := do
  if t.isEmpty then return t
  if l.table.isEmpty then throw (Fault.invalid "Lookup table not specified")
  if l.field.isEmpty then throw (Fault.invalid "Lookup field not specified")
  let some other := stored l.table
    | throw (Fault.invalid s!"Lookup table not found in cache: {l.table}")
  if !t.has l.field then throw (Fault.invalid s!"Field not found in source: {l.field}")
  if !other.has l.lookupField then
    throw (Fault.invalid s!"Field not found in lookup table: {l.lookupField}")
  let outputs ←
    if l.output.isEmpty then
      pure ((other.columns.map (·.label)).toList.filter fun label => !label.same (.str l.lookupField))
    else
      let missing := absent other l.output
      if !missing.isEmpty then
        throw (Fault.invalid s!"Output fields not found in lookup table: {Query.quotedList missing}")
      pure (l.output.map Value.str)
  let columns := (Value.str l.lookupField :: outputs).filterMap fun label =>
    other.columns.find? (·.label.same label)
  let subset : Table := { columns := columns.toArray, index := other.index }
  let key := (subset.find? l.lookupField).getD default
  let firsts := (Array.range subset.rowCount).map fun i =>
    !(List.range i).any fun j => cellsAgree (key.cell i) (key.cell j)
  let subset := subset.keep firsts
  let joined ← Table.leftJoin t subset l.field l.lookupField "_lookup"
  let joined :=
    if l.lookupField != l.field then
      { joined with columns := joined.columns.filter (!·.named l.lookupField) }
    else joined
  match l.default with
  | none => return joined
  | some v =>
    return outputs.foldl (fun (acc : Table) (label : Value) =>
      match acc.columns.find? (·.label.same label) with
      | some c => acc.put (c.fillWith v)
      | none => acc) joined

end Command

/-!
## `join` and `append`: a table with the result of a subquery

`join f [subquery]` left-joins the rows to the subquery's rows with the same `f`, its clashing
labels getting `_right`; `append [subquery]` puts the subquery's rows under the table's. An empty
subquery result changes nothing; `append` to an empty table gives the subquery's result.
-/

namespace Command

open Query

/-- The key column of a parsed `join` stage: its last name. -/
def joinFieldOfStage (st : Stage) : String :=
  st.args.foldl (fun f (a : Arg) =>
    match a with
    | .positional (.ident n _) _ => n
    | _ => f) ""

def firstSubquery (st : Stage) : Option Pipeline :=
  st.subqueries.head?.map (·.query)

def joinWith (field : String) (t right : Table) : Outcome Table :=
  if right.isEmpty then pure t else Table.leftJoin t right field field "_right"

def appendWith (t below : Table) : Table :=
  if below.isEmpty then t
  else if t.isEmpty then below
  else Table.stack [t, below]

end Command

end PipeQuery
