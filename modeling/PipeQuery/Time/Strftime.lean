import PipeQuery.Time.Civil
import PipeQuery.Text.Case

/-!
# Writing instants by a pattern

`strftime fmt ns` writes an instant as a date-time object of the language does: `%f`, `%z` and
`%Z` first, the rest by the C library's formatter in its default locale, modelled here with its
flags (`_ - 0 ^ #`), widths and modifiers. An unknown directive is written as it stands, and a
text reaching `256` times the pattern's length gives the empty text.
-/

namespace PipeQuery.Time

/-- An instant broken down into the fields the formatter reads. -/
structure BrokenDown where
  year : Int
  month : Nat
  day : Nat
  hour : Nat
  minute : Nat
  second : Nat
  micro : Nat
  /-- The day of the week, Sunday being `0`. -/
  weekday : Nat
  /-- The day of the year, January 1 being `0`. -/
  yearDay : Nat
  /-- Whole seconds since 1970-01-01 00:00:00. -/
  epoch : Int
  deriving Repr, Inhabited

def BrokenDown.ofNanos (ns : Int) : BrokenDown :=
  let s := Stamp.ofNanos ns
  let days := (ns - (ns % nsPerDay + nsPerDay) % nsPerDay) / nsPerDay
  { year := s.date.year, month := s.date.month, day := s.date.day, hour := s.hour,
    minute := s.minute, second := s.second, micro := s.nano / 1000,
    weekday := (Time.weekday days + 1) % 7, yearDay := s.date.dayOfYear - 1,
    epoch := (ns - (ns % nsPerSecond + nsPerSecond) % nsPerSecond) / nsPerSecond }

/-- How a directive asks for its text: the flags, width and modifier before its letter. -/
structure Spec where
  pad : Option Char := none
  upper : Bool := false
  swapCase : Bool := false
  width : Option Nat := none
  modifier : Option Char := none
  deriving Repr, Inhabited

/-- The days from the start of the ISO week-numbering year to `yearDay`; negative in the year
before. -/
def isoWeekDays (yearDay weekday : Int) : Int :=
  yearDay - (yearDay - weekday + 4 + 378) % 7 + 3

def isoYearAndDays (t : BrokenDown) : Int × Int :=
  let yd : Int := t.yearDay
  let wd : Int := t.weekday
  let days := isoWeekDays yd wd
  if days < 0 then
    let y := t.year - 1
    (y, isoWeekDays (yd + (if isLeap y then 366 else 365)) wd)
  else
    let d := isoWeekDays (yd - (if isLeap t.year then 366 else 365)) wd
    if 0 ≤ d then (t.year + 1, d) else (t.year, days)

/-- A text in upper case, each character mapped to one, as the formatter's wide characters are. -/
def wideUpper (s : String) : String :=
  s.map fun c => match Text.CaseRun.apply? Text.upperRuns c.toNat with
    | some n => Char.ofNat n
    | none => c

def padTo (sp : Spec) (s : String) : String :=
  let n := s.length
  match sp.width with
  | some w => if w > n then String.ofList (List.replicate (w - n) (if sp.pad == some '0' then '0' else ' ')) ++ s else s
  | none => s

/-- A text as the formatter copies it: lower or upper case when asked, then padded to the width. -/
def copyText (sp : Spec) (lower : Bool) (s : String) : String :=
  padTo sp (if lower then s.toLower else if sp.upper then wideUpper s else s)

/-- A number written with at least `digits` digits, padded as the flags and width say. -/
def number (sp : Spec) (digits : Nat) (v : Int) (blankPad : Bool) : String :=
  let pad := if blankPad && sp.pad != some '0' && sp.pad != some '-' then some '_' else sp.pad
  let digits := max digits (sp.width.getD 0)
  let body := toString v.natAbs
  let neg := v < 0
  let shown := if neg then "-" ++ body else body
  let padding := digits - shown.length
  if pad == some '-' || padding == 0 then padTo { sp with pad } shown
  else if pad == some '_' then
    let rest := (sp.width.getD 0) - padding
    String.ofList (List.replicate padding ' ') ++ padTo { sp with pad, width := some rest } shown
  else
    (if neg then "-" else "") ++ String.ofList (List.replicate padding '0') ++ body

def subPattern? (c : Char) : Option String :=
  match c with
  | 'c' => some "%a %b %e %H:%M:%S %Y"
  | 'D' | 'x' => some "%m/%d/%y"
  | 'F' => some "%Y-%m-%d"
  | 'r' => some "%I:%M:%S %p"
  | 'R' => some "%H:%M"
  | 'T' | 'X' => some "%H:%M:%S"
  | _ => none

/-- Whether a letter refuses a modifier: the letters that take none, `E` or `O`. -/
def refusesModifier (c : Char) (m : Char) : Bool :=
  if "%aADF".contains c then true
  else if m == 'E' then "BdeHIjklMmSUVWwgGbh".contains c
  else "cxXY".contains c

/-- The text of directive `c` for time `t`; `sub` writes a pattern the directive stands for. -/
def directiveText (t : BrokenDown) (sp : Spec) (c : Char) (sub : String → String) : Option String :=
  let hour12 := if t.hour % 12 == 0 then 12 else t.hour % 12
  let swapUp := sp.swapCase || sp.upper
  let name (s : String) := some (copyText { sp with upper := swapUp } false s)
  let num (d : Nat) (v : Int) := some (number sp d v false)
  let blankNum (d : Nat) (v : Int) := some (number sp d v true)
  match c with
  | '%' => some (copyText sp false "%")
  | 'a' => name (String.ofList ((dayNames.getD ((t.weekday + 6) % 7) "").toList.take 3))
  | 'A' => name (dayNames.getD ((t.weekday + 6) % 7) "")
  | 'b' | 'h' => name (String.ofList ((monthNames.getD (t.month - 1) "").toList.take 3))
  | 'B' => name (monthNames.getD (t.month - 1) "")
  | 'C' => num 1 (t.year / 100 - (if t.year % 100 < 0 then 1 else 0))
  | 'd' => num 2 t.day
  | 'e' => blankNum 2 t.day
  | 'H' => num 2 t.hour
  | 'I' => num 2 hour12
  | 'k' => blankNum 2 t.hour
  | 'l' => blankNum 2 hour12
  | 'j' => num 3 (t.yearDay + 1)
  | 'M' => num 2 t.minute
  | 'm' => num 2 t.month
  | 'n' => some (copyText sp false "\n")
  | 't' => some (copyText sp false "\t")
  | 'p' => some (copyText sp sp.swapCase (if t.hour < 12 then "AM" else "PM"))
  | 'P' => some (copyText sp true (if t.hour < 12 then "AM" else "PM"))
  | 'S' => num 2 t.second
  | 's' => some (padTo sp (toString t.epoch))
  | 'u' => num 1 ((t.weekday + 6) % 7 + 1)
  | 'U' => num 2 ((t.yearDay + 7 - t.weekday) / 7)
  | 'W' => num 2 ((t.yearDay + 7 - (t.weekday + 6) % 7) / 7)
  | 'w' => num 1 t.weekday
  | 'Y' => num 1 t.year
  | 'y' => num 2 (((t.year - 1900) % 100 + 100) % 100)
  | 'G' => num 1 (isoYearAndDays t).1
  | 'g' => num 2 (((isoYearAndDays t).1 % 100 + 100) % 100)
  | 'V' => num 2 ((isoYearAndDays t).2 / 7 + 1)
  | 'z' => some ""
  | 'Z' => some (if sp.pad == some '-' then "" else copyText sp false "")
  | _ =>
    match subPattern? c with
    | some p =>
      let s := padTo sp (sub p)
      some (if sp.upper then wideUpper s else s)
    | none => none

/-- Reads the flags, width and modifier of a directive after its `%`, a width above `cap` taken as
`cap`. -/
def readSpec (cap : Nat) : Nat → List Char → Spec → List Char → Spec × List Char × List Char
  | 0, cs, sp, seen => (sp, seen.reverse, cs)
  | fuel + 1, c :: rest, sp, seen =>
    if c == '_' || c == '-' || c == '0' then readSpec cap fuel rest { sp with pad := some c } (c :: seen)
    else if c == '^' then readSpec cap fuel rest { sp with upper := true } (c :: seen)
    else if c == '#' then readSpec cap fuel rest { sp with swapCase := true } (c :: seen)
    else
      let ds := (c :: rest).takeWhile Char.isDigit
      let after := (c :: rest).drop ds.length
      let sp := if ds.isEmpty then sp else { sp with width := some (min cap (digitsNat ds)) }
      match after with
      | m :: more =>
        if m == 'E' || m == 'O' then ({ sp with modifier := some m }, seen.reverse ++ ds ++ [m], more)
        else (sp, seen.reverse ++ ds, after)
      | [] => (sp, seen.reverse ++ ds, after)
  | _ + 1, [], sp, seen => (sp, seen.reverse, [])

/-- Writes the time `t` by a pattern for the C library's formatter, widths capped at `cap`. -/
def cFormat (t : BrokenDown) (cap : Nat) : Nat → List Char → String
  | 0, _ => ""
  | depth + 1, fmt =>
    let rec go : Nat → List Char → String → String
      | 0, _, acc => acc
      | _ + 1, [], acc => acc
      | fuel + 1, '%' :: rest, acc =>
        let (sp, seen, after) := readSpec cap (rest.length + 1) rest {} []
        match after with
        | [] => go fuel [] (acc ++ copyText sp false (String.ofList ('%' :: seen)))
        | c :: more =>
          -- a refused directive is written from its last `%` on, in upper case when asked, and
          -- `#` asks it of a month's name before its modifier is looked at
          let upper := sp.upper || (sp.swapCase && (c == 'b' || c == 'h'))
          let asWritten := copyText { sp with upper } false
            (if c == '%' then "%" else String.ofList ('%' :: seen ++ [c]))
          let text :=
            match sp.modifier with
            | some m => if refusesModifier c m then none else directiveText t sp c (fun p => cFormat t cap depth p.toList)
            | none => directiveText t sp c (fun p => cFormat t cap depth p.toList)
          go fuel more (acc ++ text.getD asWritten)
      | fuel + 1, c :: rest, acc => go fuel rest (acc.push c)
    go (fmt.length + 1) fmt ""

/-- What a zone gives `%z` and `%Z`: its offset as `±HHMM` and its name; zoneless instants give
empty texts. -/
structure ZoneText where
  offset : String := ""
  name : String := ""
  deriving Inhabited

/-- The pattern for the C library's formatter, with `%f`, `%z` and `%Z` filled in. -/
def fillZoneAndFraction (micro : Nat) (zone : ZoneText) : Nat → List Char → String → String
  | 0, _, acc => acc
  | _ + 1, [], acc => acc
  | fuel + 1, '%' :: c :: rest, acc =>
    if c == 'f' then fillZoneAndFraction micro zone fuel rest (acc ++ padNat 6 micro)
    else if c == 'z' then fillZoneAndFraction micro zone fuel rest (acc ++ zone.offset)
    else if c == 'Z' then
      let name := String.join (zone.name.toList.map fun ch => if ch == '%' then "%%" else ch.toString)
      fillZoneAndFraction micro zone fuel rest (acc ++ name)
    else fillZoneAndFraction micro zone fuel rest ((acc.push '%').push c)
  | fuel + 1, c :: rest, acc => fillZoneAndFraction micro zone fuel rest (acc.push c)

/-- The largest buffer the formatter gets for a pattern of `n` bytes: doubled from `1024` to
`256 n`. -/
def bufferLimit (n : Nat) : Nat :=
  let rec grow : Nat → Nat → Nat
    | 0, b => b
    | fuel + 1, b => if b ≥ 256 * n then b else grow fuel (2 * b)
  grow (n + 8) 1024

/-- Writes the wall time `ns` of a zone by the pattern `fmt`; the pattern ends at its first NUL
character. -/
def strftimeIn (zone : ZoneText) (fmt : String) (ns : Int) : String :=
  let t := BrokenDown.ofNanos ns
  let fmt := fmt.toList.takeWhile (· != Char.ofNat 0)
  let pattern := fillZoneAndFraction t.micro zone (fmt.length + 1) fmt ""
  let limit := bufferLimit pattern.length
  let out := cFormat t limit 2 pattern.toList
  if out.length ≥ limit then "" else out

def strftime (fmt : String) (ns : Int) : String :=
  strftimeIn {} fmt ns

/-- An instant at a fixed UTC offset written by a pattern: its local time, `%z` the offset, `%Z` the
zone name. -/
def strftimeAt (fmt : String) (ns off : Int) : String :=
  strftimeIn { offset := offsetText off false, name := zoneName off } fmt (ns + off * nsPerSecond)

end PipeQuery.Time
