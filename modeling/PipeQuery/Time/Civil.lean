import PipeQuery.Text.Numeral

/-!
# The civil calendar

Instants are counted in nanoseconds from 1970-01-01 00:00:00, without time zones. `Civil`
converts between day numbers and dates of the proleptic Gregorian calendar (a year is a leap year
when divisible by 4, except centuries not divisible by 400), by the era arithmetic of 400-year
cycles of 146097 days.
-/

namespace PipeQuery.Time

/-- Nanoseconds in a second, a minute, an hour and a day. -/
def nsPerSecond : Int := 1000000000
def nsPerMinute : Int := 60 * nsPerSecond
def nsPerHour : Int := 60 * nsPerMinute
def nsPerDay : Int := 24 * nsPerHour

structure Date where
  year : Int
  month : Nat
  day : Nat
  deriving Repr, DecidableEq, Inhabited

def Date.toDays (d : Date) : Int :=
  let y : Int := if d.month ≤ 2 then d.year - 1 else d.year
  let era := y / 400
  let yoe := y - era * 400
  let m : Int := d.month
  let mp : Int := if m > 2 then m - 3 else m + 9
  let doy := (153 * mp + 2) / 5 + d.day - 1
  let doe := yoe * 365 + yoe / 4 - yoe / 100 + doy
  era * 146097 + doe - 719468

def Date.ofDays (z : Int) : Date :=
  let z := z + 719468
  let era := z / 146097
  let doe := z - era * 146097
  let yoe := (doe - doe / 1460 + doe / 36524 - doe / 146096) / 365
  let y := yoe + era * 400
  let doy := doe - (365 * yoe + yoe / 4 - yoe / 100)
  let mp := (5 * doy + 2) / 153
  let d := doy - (153 * mp + 2) / 5 + 1
  let m := if mp < 10 then mp + 3 else mp - 9
  { year := if m ≤ 2 then y + 1 else y, month := m.toNat, day := d.toNat }

def isLeap (y : Int) : Bool :=
  (y % 4 == 0 && y % 100 != 0) || y % 400 == 0

def monthDays (y : Int) (m : Nat) : Nat :=
  match m with
  | 2 => if isLeap y then 29 else 28
  | 4 | 6 | 9 | 11 => 30
  | _ => 31

structure Stamp where
  date : Date
  hour : Nat
  minute : Nat
  second : Nat
  nano : Nat
  deriving Repr, Inhabited

def Stamp.ofNanos (ns : Int) : Stamp :=
  let days := ns / nsPerDay
  let rest := ns % nsPerDay
  let secs := rest / nsPerSecond
  { date := Date.ofDays days, hour := (secs / 3600).toNat, minute := (secs % 3600 / 60).toNat,
    second := (secs % 60).toNat, nano := (rest % nsPerSecond).toNat }

def Stamp.toNanos (s : Stamp) : Int :=
  s.date.toDays * nsPerDay + (s.hour : Int) * nsPerHour + (s.minute : Int) * nsPerMinute
    + (s.second : Int) * nsPerSecond + s.nano

def padNat (width n : Nat) : String :=
  let s := Nat.repr n
  String.ofList (List.replicate (width - s.length) '0') ++ s

/-- An offset from UTC in seconds as `+hh:mm` (`+hhmm` without `colon`), seconds added when it has
any. -/
def offsetText (offset : Int) (colon : Bool) : String :=
  let sign := if offset < 0 then "-" else "+"
  let a := offset.natAbs
  let sep := if colon then ":" else ""
  let secs := if a % 60 != 0 then sep ++ padNat 2 (a % 60) else ""
  sign ++ padNat 2 (a / 3600) ++ sep ++ padNat 2 ((a % 3600) / 60) ++ secs

def zoneName (offset : Int) : String :=
  if offset == 0 then "UTC" else "UTC" ++ offsetText offset true

def yearText (y : Int) : String :=
  if y < 0 then "-" ++ padNat 4 y.natAbs else padNat 4 y.toNat

def Date.isoText (d : Date) : String :=
  yearText d.year ++ "-" ++ padNat 2 d.month ++ "-" ++ padNat 2 d.day

/-- `YYYY-MM-DDTHH:MM:SS`, then `.ffffff` for microseconds or `.fffffffff` for finer nanoseconds. -/
def isoText (ns : Int) (sep : String := "T") : String :=
  let s := Stamp.ofNanos ns
  let frac :=
    if s.nano % 1000 != 0 then "." ++ padNat 9 s.nano
    else if s.nano != 0 then "." ++ padNat 6 (s.nano / 1000)
    else ""
  s.date.isoText ++ sep ++ padNat 2 s.hour ++ ":" ++ padNat 2 s.minute ++ ":" ++ padNat 2 s.second ++ frac

/-!
## Names of months and days

The English names of months and weekdays, and where a day stands in its week and its year, as
instants are written and read.
-/

def monthNames : List String :=
  ["January", "February", "March", "April", "May", "June", "July", "August", "September",
    "October", "November", "December"]

def dayNames : List String :=
  ["Monday", "Tuesday", "Wednesday", "Thursday", "Friday", "Saturday", "Sunday"]

/-- The day of the week of day number `days` (from 1970-01-01, a Thursday), Monday being `0`. -/
def weekday (days : Int) : Nat :=
  ((days + 3) % 7).toNat

def Date.dayOfYear (d : Date) : Nat :=
  (d.toDays - ({ year := d.year, month := 1, day := 1 } : Date).toDays).toNat + 1

def digitsNat (ds : List Char) : Nat :=
  ds.foldl (fun n d => 10 * n + (d.toNat - '0'.toNat)) 0

end PipeQuery.Time
