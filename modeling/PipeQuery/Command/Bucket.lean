import PipeQuery.Command.Args
import PipeQuery.Table.Convert
import PipeQuery.Table.Arith

/-!
# `bucket`: instants rounded down to a span

`bucket f span=5m` replaces each instant of `f` by the start of its span, rounding the count of
nanoseconds since 1970 down on 64-bit counts. "Not a time" is the smallest count, so a missing
instant is rounded like any other, a product past the range wraps, and a span of zero gives
"not a time" everywhere.
-/

namespace PipeQuery

structure Bucketing where
  field : String := "_time"
  span : String := "5m"
  deriving Inhabited

namespace Bucketing

open Query Command

/-- The settings of a parsed stage: a positional argument is the column; `span` and `field` take a
value's text. -/
def ofStage (st : Stage) : Bucketing :=
  st.args.foldl (fun (b : Bucketing) (a : Arg) =>
    match a with
    | .positional (.ident n _) _ => { b with field := n }
    | .positional (.lit v _ _) _ => { b with field := v.word }
    | .keyword "span" e _ => { b with span := e.wordOrRender }
    | .keyword "field" e _ => { b with field := e.wordOrRender }
    | _ => b) {}

/-- The settings of a command's words: `span=` and `field=`, and a bare word as the column, quotes
dropped. -/
def ofWords (ws : List String) : Bucketing :=
  ws.foldl (fun (b : Bucketing) (w : String) =>
    if let some v := afterPrefix? "span=" w then { b with span := stripQuotes v }
    else if let some v := afterPrefix? "field=" w then { b with field := stripQuotes v }
    else if !w.contains '=' then { b with field := stripQuotes w }
    else b) {}

end Bucketing

def spanUnit? : Char → Option Int
  | 's' => some 1000000000
  | 'm' => some 60000000000
  | 'h' => some 3600000000000
  | 'd' => some 86400000000000
  | 'w' => some 604800000000000
  | _ => none

/-- A span in nanoseconds: digits and a unit letter in any case, at most one line break after;
`fail` otherwise, out of bounds past 64 bits. -/
def spanNanos (fail : Fault) (span : String) : Outcome Int := do
  let cs := (Text.lower span).toList
  let cs := if cs.getLast? == some '\n' then cs.dropLast else cs
  let (digits, unit) := (cs.dropLast, cs.getLast?)
  let some unit := unit | throw fail
  let some perUnit := spanUnit? unit | throw fail
  if digits.isEmpty || !digits.all Text.isDecimalDigit then throw fail
  let some count := Text.readInt? (String.ofList digits)
    | throw (Fault.invalid (Text.intFailure (String.ofList digits)))
  let ns := count * perUnit
  if ns > Seen.int64Max then
    throw (Fault.inner .spanOutOfBounds s!"seconds={ns / 1000000000} is out of bounds for Timedelta")
  pure ns

def instantCount : Value → Int
  | .time ns => ns
  | _ => Seen.int64Min

def countInstant (n : Int) : Value :=
  if n == Seen.int64Min then .nat else .time n

namespace Command

def bucket (b : Bucketing) (t : Table) : Outcome Table := do
  if t.isEmpty then return t
  let some c := t.find? b.field | throw (Fault.invalid s!"Field not found: {b.field}")
  let span ← spanNanos
    (Fault.invalid s!"Invalid span format: {b.span}. Use formats like 30s, 5m, 1h, 1d, 1w") b.span
  let instants ←
    if c.dtype == .datetime then pure c
    else
      match Column.toInstants false none c with
      | .ok c => pure c
      | .error e => throw (Fault.invalid s!"Cannot convert field '{b.field}' to datetime: {e.text}")
  let cells := instants.cells.map fun v =>
    if span == 0 then Value.nat
    else countInstant (wrap64 (Int.fdiv (instantCount v) span * span))
  return t.put { c with dtype := .datetime, cells }

end Command

end PipeQuery
