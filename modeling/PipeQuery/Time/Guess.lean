import PipeQuery.Time.Instant
import PipeQuery.Time.Strftime

/-!
# Guessing the pattern of a text

`guessPattern` finds the `%` pattern a text is written in, so that a column of texts can be read
by the pattern of its first one: the text is read free-form (`looseInstant`) and its pieces are
matched, in a fixed order, against the instant written by each directive. The guess stands when it
places year, month and day, and writing the instant by it gives the text back.
-/

namespace PipeQuery.Time

inductive DatePart
  | year | month | day | hour | minute | second | micro | zone | weekday | halfDay
  deriving DecidableEq, Inhabited

/-- The directives tried, in order, with the parts they write and the width pieces are padded to for
comparing. -/
def plainDirectives : List (List DatePart × String × Nat) :=
  [([.year, .month, .day, .hour, .minute, .second], "%Y%m%d%H%M%S", 0),
   ([.year, .month, .day, .hour, .minute], "%Y%m%d%H%M", 0),
   ([.year, .month, .day, .hour], "%Y%m%d%H", 0),
   ([.year, .month, .day], "%Y%m%d", 0),
   ([.hour, .minute, .second], "%H%M%S", 0),
   ([.hour, .minute], "%H%M", 0),
   ([.year], "%Y", 0),
   ([.month], "%B", 0),
   ([.month], "%b", 0),
   ([.month], "%m", 2),
   ([.day], "%d", 2),
   ([.hour], "%H", 2),
   ([.minute], "%M", 2),
   ([.second], "%S", 2),
   ([.second, .micro], "%S.%f", 0),
   ([.zone], "%z", 0),
   ([.zone], "%Z", 0),
   ([.weekday], "%a", 0),
   ([.weekday], "%A", 0),
   ([.halfDay], "%p", 0)]

def guessDirectives (dayFirst : Bool) : List (List DatePart × String × Nat) :=
  if dayFirst then ([.day], "%d", 2) :: plainDirectives.filter (·.2.1 != "%d")
  else plainDirectives

def zeroFill (s : String) (width : Nat) : String :=
  let cs := s.toList
  if cs.length ≥ width then s
  else
    let zeros := List.replicate (width - cs.length) '0'
    match cs with
    | c :: rest => if c == '+' || c == '-' then String.ofList (c :: zeros ++ rest) else String.ofList (zeros ++ cs)
    | [] => String.ofList zeros

/-- A piece as it is compared. -/
def fillPiece (w : String) (width : Nat) : String :=
  let cs := w.toList
  let hasFraction := (List.range cs.length).any fun i =>
    cs.getD i ' ' == '.' && i > 0 && Text.isDecimalDigit (cs.getD (i - 1) ' ') &&
      Text.isDecimalDigit (cs.getD (i + 1) ' ')
  if hasFraction then
    match w.splitOn "." with
    | [s, f] =>
      let secs := match Text.readInt? s with
        | some v => if v < 10 && v ≥ 0 then "0" ++ toString v else toString v
        | none => s
      secs ++ "." ++ String.ofList ((f.toList ++ List.replicate 9 '0').take 6)
    | _ => zeroFill w width
  else zeroFill w width

def zoneText : Option (Int × String) → ZoneText
  | none => {}
  | some (off, name) => { offset := offsetText off false, name }

/-- A text's pieces with a trailing offset (`Z`, `± HHMM`, `± HH : MM`) joined into the one piece
its zone writes for `%z`. -/
def joinOffset (pieces : Array String) (zone : ZoneText) : Array String :=
  let n := pieces.size
  let sign (i : Nat) := pieces[i]? == some "+" || pieces[i]? == some "-"
  if n > 0 && pieces[n - 1]? == some "Z" then pieces.set! (n - 1) zone.offset
  else if n > 1 && sign (n - 2) then (pieces.set! (n - 2) zone.offset).extract 0 (n - 1)
  else if n > 3 && sign (n - 4) then (pieces.set! (n - 4) zone.offset).extract 0 (n - 3)
  else pieces

/-- Places the directive `fmt` in the first free piece that reads as `written`. -/
def placeDirective (pieces : Array String) (placed : Array (Option String)) (fmt written : String)
    (width : Nat) : Array String × Array (Option String) × Bool :=
  match (List.range pieces.size).find? fun i =>
      (placed.getD i none).isNone && fillPiece (pieces.getD i "") width == written with
  | some i => (pieces.set! i (fillPiece (pieces.getD i "") width), placed.set! i (some fmt), true)
  | none => (pieces, placed, false)

def patternReads (fmt s : String) : Bool :=
  (patternProblem? .table fmt).isNone && (readByPattern fmt s).toOption.isSome

/-- Guesses the pattern of a text; with `dayFirst` a day is read before a month where either order
reads. -/
def guessPattern (dayFirst : Bool) (s : String) : Option String := do
  let r ← (looseInstant { dayFirst } s presentDay).toOption
  let zone := zoneText r.zone
  let pieces := (dateTokens s).toArray
  let pieces := if r.zone.isSome then joinOffset pieces zone else pieces
  let write (fmt : String) : String := strftimeIn zone fmt r.wall
  let step (acc : Array String × Array (Option String) × List DatePart)
      (d : List DatePart × String × Nat) : Array String × Array (Option String) × List DatePart :=
    let (pieces, placed, found) := acc
    let (parts, fmt, width) := d
    if parts.any found.contains then acc
    else if r.zone.isNone && (fmt == "%z" || fmt == "%Z") then acc
    else
      match placeDirective pieces placed fmt (write fmt) width with
      | (pieces, placed, true) => (pieces, placed, found ++ parts)
      | _ => acc
  let (pieces, placed, found) :=
    (guessDirectives dayFirst).foldl step (pieces, Array.replicate pieces.size none, [])
  let hasDate := [DatePart.year, .month, .day].all found.contains
  let placedList := placed.toList
  let yearOnly := placedList == [some "%Y"]
  let yearMonth := placedList == [some "%Y", none, some "%m"] && pieces[1]? == some "-"
  if !(hasDate || yearOnly || yearMonth) then none
  let out ← (List.range pieces.size).mapM fun i =>
    match placed.getD i none with
    | some f => some f
    | none =>
      let w := pieces.getD i ""
      if (Text.readFloat? w).isSome then none else some w
  let out :=
    if out.contains "%p" && out.contains "%H" then out.map fun f => if f == "%H" then "%I" else f
    else out
  let fmt := String.join out
  if !patternReads fmt s then none
  if write fmt == String.join pieces.toList then some fmt else none

end PipeQuery.Time
