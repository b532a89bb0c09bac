import PipeQuery.Command.Bucket
import PipeQuery.Table.Sort
import PipeQuery.Table.Infer

/-!
# `transaction`: events grouped into sessions

`transaction f maxspan=5m` orders the rows by `f` and then by instant (the time column), and cuts
the rows of each value of `f` into sessions where the next event comes more than `maxspan` after
the one before, or has no instant. Rows without a value of `f` belong to no session. Each
session gives one row: `f`, `_time`, `_end_time`, `duration` in seconds, `event_count`, and the
other columns of its first row.
-/

namespace PipeQuery

/-- What `transaction` does: the owner column, the longest gap within a session as written, and the
time column. -/
structure Sessions where
  field : String := ""
  maxspan : String := "5m"
  timeField : String := "_time"
  deriving Inhabited

namespace Sessions

open Query Command

def ofStage (st : Stage) : Sessions :=
  st.args.foldl (fun (x : Sessions) (a : Arg) =>
    match a with
    | .positional (.ident n _) _ => { x with field := n }
    | .positional (.lit v _ _) _ => { x with field := v.word }
    | .keyword k e _ =>
      let v := e.wordOrRender
      match k with
      | "maxspan" => { x with maxspan := v }
      | "field" | "group_field" => { x with field := v }
      | "time_field" => { x with timeField := v }
      | _ => x
    | _ => x) {}

def ofWords (ws : List String) : Sessions :=
  ws.foldl (fun (x : Sessions) (w : String) =>
    if let some v := afterPrefix? "maxspan=" w then { x with maxspan := stripQuotes v }
    else if let some v := afterPrefix? "time_field=" w then { x with timeField := stripQuotes v }
    else if w.startsWith "field=" || w.startsWith "group_field=" then
      { x with field := stripQuotes (String.ofList ((w.toList.dropWhile (· != '=')).drop 1)) }
    else if !w.contains '=' then { x with field := stripQuotes w }
    else x) {}

end Sessions

/-- The rows of one owner cut into sessions where an instant is missing or the gap exceeds `span`.
-/
def cutSessions (span : Int) (instant : Nat → Option Int) : List Nat → List (List Nat)
  | [] => []
  | i :: rest =>
    let (sessions, _) := rest.foldl (fun (acc : List (List Nat) × Nat) j =>
      let (sessions, prev) := acc
      let fresh : Bool := match instant prev, instant j with
        | some a, some b => decide (b - a > span)
        | _, _ => true
      match sessions with
      | cur :: done => if fresh then ([j] :: cur :: done, j) else ((j :: cur) :: done, j)
      | [] => ([[j]], j)) ([[i]], i)
    (sessions.map List.reverse).reverse

def putField (record : List (String × Value)) (name : String) (v : Value) : List (String × Value) :=
  match record.findIdx? (·.1 == name) with
  | some i => record.set i (name, v)
  | none => record ++ [(name, v)]

/-- The seconds of a span of nanoseconds as a duration counts them: whole seconds plus whole
microseconds. -/
def spanSeconds (ns : Int) : Float :=
  Float.ofInt (Int.fdiv ns 1000000000) + Float.ofInt (Int.fmod (Int.fdiv ns 1000) 1000000) / 1000000.0

def Column.instantAt (c : Column) (i : Nat) : Option Int :=
  match c.cell i with
  | .time ns => some ns
  | _ => none

/-- One session's record: owner, first and last instants, their gap and the count, then the first
event's fields. -/
def sessionRecord (x : Sessions) (columns : Array Column) (instant : Nat → Option Int)
    (owner : Value) (session : List Nat) : List (String × Value) :=
  let stamps := session.filterMap instant
  let first := stamps.foldl min (stamps.headD 0)
  let last := stamps.foldl max (stamps.headD 0)
  let (start, stop, duration) :=
    if stamps.isEmpty then (Value.nat, Value.nat, Value.nan)
    else (Value.time first, Value.time last, Value.float (spanSeconds (last - first)))
  let lead := session.headD 0
  let record := [(x.field, owner)]
  let record := putField record x.timeField start
  let record := putField record "_end_time" stop
  let record := putField record "duration" duration
  let record := putField record "event_count" (.int session.length)
  -- the lead event's other fields, but for the names of the columns the grouping works in
  columns.foldl (fun (r : List (String × Value)) (c : Column) =>
    let name := c.label.text
    if r.any (·.1 == name) || ["_time_diff", "_new_transaction", "_transaction_id"].contains name
    then r else r ++ [(name, c.cell lead)]) record

/-- The table of sessions' records: the five leading names, then the first record's other names. -/
def sessionTable (x : Sessions) : List (List (String × Value)) → Table
  | [] => { columns := #[], index := #[] }
  | records@(r :: _) =>
    let fixed := [x.field, x.timeField, "_end_time", "duration", "event_count"]
    let names := fixed ++ ((r.map (·.1)).filter fun n => !fixed.contains n)
    let columns := names.map fun n =>
      Column.infer (.str n) (records.map fun r => (r.lookup n).getD .none).toArray
    { columns := columns.toArray, index := Table.rangeIndex records.length }

namespace Command

def sessions (x : Sessions) (t : Table) : Outcome Table := do
  if t.isEmpty then return t
  if x.field.isEmpty then throw (Fault.invalid "Group field not specified for transaction command")
  let some owner := t.find? x.field | throw (Fault.invalid s!"Group field not found: {x.field}")
  if !t.has x.timeField then throw (Fault.invalid s!"Time field not found: {x.timeField}")
  let times ← ((t.find? x.timeField).getD default).toInstants false none
  let t := t.put times
  if !owner.orderable then throw owner.disorder
  let sorted ← t.sortBy [(x.field, true), (x.timeField, true)]
  let span ← spanNanos
    (Fault.invalid s!"Invalid maxspan format: {x.maxspan}. Use formats like 30s, 5m, 1h, 1d") x.maxspan
  let owner := (sorted.find? x.field).getD default
  let times := (sorted.find? x.timeField).getD default
  let groups := groupRows sorted.rowCount [owner]
  return sessionTable x (groups.flatMap fun (key, rows) =>
    (cutSessions span times.instantAt rows).map
      (sessionRecord x sorted.columns times.instantAt (key.headD .none)))

end Command

end PipeQuery
