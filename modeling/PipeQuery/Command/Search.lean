import PipeQuery.Command.Args
import PipeQuery.Table.Convert
import PipeQuery.Time.Strptime

/-!
# `search`: a stored table, or the rows of a time range

`search index=n` gives the table stored under `n`. `earliest=e` and `latest=l` keep the rows
whose instant in the time column is within the bounds; a table without the time column stays as
it is. A relative time such as `-5m` counts from the current instant, to the microsecond, and
fails when that is not known.
-/

namespace PipeQuery

/-- What `search` does: the stored table it reads, the bounds of the range and the time column. -/
structure SearchRange where
  index : String := ""
  latest : Option String := none
  earliest : Option String := none
  timeField : String := "_time"
  deriving Inhabited

namespace SearchRange

open Query Command

/-- The settings of a parsed stage: `index`, `latest`, `earliest` and `time_field`, each a value's
text. -/
def ofStage (st : Stage) : SearchRange :=
  st.args.foldl (fun (r : SearchRange) (a : Arg) =>
    match a with
    | .keyword k e _ =>
      let v := e.wordOrRender
      match k with
      | "index" => { r with index := v }
      | "latest" => { r with latest := some v }
      | "earliest" => { r with earliest := some v }
      | "time_field" => { r with timeField := v }
      | _ => r
    | _ => r) {}

def unquotePair (s : String) : String :=
  let cs := s.toList
  match cs.head?, cs.getLast? with
  | some '"', some '"' | some '\'', some '\'' => String.ofList (cs.drop 1).dropLast
  | _, _ => s

/-- The settings of a command's words; values lose one pair of enclosing quotes. -/
def ofWords (ws : List String) : SearchRange :=
  ws.foldl (fun (r : SearchRange) (w : String) =>
    if let some v := afterPrefix? "index=" w then { r with index := unquotePair v }
    else if let some v := afterPrefix? "latest=" w then { r with latest := some (unquotePair v) }
    else if let some v := afterPrefix? "earliest=" w then { r with earliest := some (unquotePair v) }
    else if let some v := afterPrefix? "time_field=" w then { r with timeField := unquotePair v }
    else r) {}

end SearchRange

/-- The nanoseconds a relative bound adds to the current time: a sign, digits and a unit `s`, `m`,
`h`, `d` or `w` in any case, maybe one line feed after. -/
def relativeTime? (spec : String) : Option Int :=
  let cs := (Text.lower spec).toList
  let cs := if cs.getLast? == some '\n' then cs.dropLast else cs
  let (back, cs) := match cs with
    | '+' :: rest => (false, rest)
    | '-' :: rest => (true, rest)
    | _ => (true, cs)
  match cs.getLast? with
  | some u =>
    let ds := cs.dropLast
    let unit : Option Int := match u with
      | 's' => some 1
      | 'm' => some 60
      | 'h' => some 3600
      | 'd' => some 86400
      | 'w' => some 604800
      | _ => none
    match unit with
    | some secs =>
      if ds.isEmpty || !ds.all Text.isDecimalDigit then none
      else
        let n : Int := ds.foldl (fun acc c => acc * 10 + Text.decimalValue c) 0
        let span := n * secs * 1000000000
        some (if back then -span else span)
    | none => none
  | none => none

def boundPatterns : List String :=
  ["%Y-%m-%d %H:%M:%S", "%Y-%m-%d %H:%M", "%Y-%m-%d", "%Y/%m/%d %H:%M:%S", "%Y/%m/%d %H:%M",
    "%Y/%m/%d"]

def readBound? (fmt s : String) : Option Int :=
  match Time.strptime .stdlib fmt s with
  | .ok f => some (Time.ReadFields.toNanos f)
  | .error _ => none

def boundInstant (now : Option Int) (spec : String) : Outcome Int :=
  match relativeTime? spec with
  | some span =>
    match now with
    | some t => pure (t - t % 1000 + span)
    | none => throw (Fault.inner .valueError "the current time is not known")
  | none =>
    match boundPatterns.findSome? (readBound? · spec) with
    | some ns => pure ns
    | none => throw (Fault.invalid s!"Cannot parse time specification: {spec}")

namespace Command

/-- The rows of a table within a range; `stored` finds stored tables, `now` is the current instant
when known. -/
def search (r : SearchRange) (stored : String → Option Table) (now : Option Int) (t : Table) :
    Outcome Table := do
  let t ←
    if r.index.isEmpty then pure t
    else
      match stored r.index with
      | some u => pure u
      | none => throw (Fault.invalid s!"Index/cache not found: {r.index}")
  if t.isEmpty then return t
  if r.earliest.isNone && r.latest.isNone then return t.resetIndex
  let some c := t.find? r.timeField | return t
  let c ← c.toInstants false none
  let t := t.put c
  let within (keep : Int → Bool) (t : Table) : Table :=
    let c := (t.find? r.timeField).getD c
    t.keep (c.cells.map fun v => match v with
      | .time ns => keep ns
      | _ => false)
  let t ← match r.earliest with
    | some e => do
      let lo ← boundInstant now e
      pure (within (· ≥ lo) t)
    | none => pure t
  let t ← match r.latest with
    | some l => do
      let bound ← boundInstant now l
      pure (if l.startsWith "-" then within (· ≥ bound) t else within (· ≤ bound) t)
    | none => pure t
  return t.resetIndex

end Command

end PipeQuery
