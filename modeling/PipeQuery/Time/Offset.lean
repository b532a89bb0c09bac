import PipeQuery.Time.Civil

/-!
# Calendar offsets

An offset moves an instant by calendar steps, keeping its time of day: a relative offset adds
years and months (the day cut to the month's length), then smaller units; an anchored one moves
`n` steps between calendar points, reaching the point of its own period first, and zero steps roll
forward. A range of instants steps one point at a time from the first point not before its start.
-/

namespace PipeQuery.Time

inductive Anchor
  | monthEnd
  | monthBegin
  /-- Quarter ends (beginnings) in the months congruent to `month` modulo three. -/
  | quarterEnd (month : Nat)
  | quarterBegin (month : Nat)
  /-- Year ends (beginnings) in `month`. -/
  | yearEnd (month : Nat)
  | yearBegin (month : Nat)
  /-- Weeks, on the weekday given (Monday is `0`) or from any day. -/
  | week (weekday : Option Nat)
  | businessDay
  deriving DecidableEq, Repr, Inhabited

/-- A calendar offset: `n` steps between anchored calendar points, or `n` times a move by years,
months and smaller units. -/
structure Offset where
  n : Int := 1
  anchor : Option Anchor := none
  years : Int := 0
  months : Int := 0
  weeks : Int := 0
  days : Int := 0
  hours : Int := 0
  minutes : Int := 0
  seconds : Int := 0
  microseconds : Int := 0
  nanoseconds : Int := 0
  deriving DecidableEq, Repr, Inhabited

def monthCodes : List String :=
  ["JAN", "FEB", "MAR", "APR", "MAY", "JUN", "JUL", "AUG", "SEP", "OCT", "NOV", "DEC"]

def weekdayCodes : List String :=
  ["MON", "TUE", "WED", "THU", "FRI", "SAT", "SUN"]

/-- An instant moved by `k` months, its day set to the last, the first, or kept and cut to the
month. -/
def shiftMonths (ns : Int) (k : Int) (day : Option Bool) : Int :=
  let s := Stamp.ofNanos ns
  let total := s.date.year * 12 + ((s.date.month : Int) - 1) + k
  let year := Int.fdiv total 12
  let month := (Int.fmod total 12 + 1).toNat
  let last := monthDays year month
  let d := match day with
    | some true => last
    | some false => 1
    | none => min s.date.day last
  { s with date := { year, month, day := d } }.toNanos

def weekdayOf (ns : Int) : Nat :=
  weekday (Int.fdiv ns nsPerDay)

/-- The steps an anchored move takes from an instant, counting the point of its own period. -/
def rolled (n : Int) (before after : Bool) : Int :=
  if n > 0 && before then n - 1
  else if n ≤ 0 && after then n + 1
  else n

def businessDays (ns : Int) (n : Int) : Int :=
  let wday : Int := weekdayOf ns
  let weeks := Int.fdiv n 5
  let m := if n ≤ 0 && wday > 4 then n + 1 else n
  let m := m - 5 * weeks
  let days :=
    if m == 0 && wday > 4 then 4 - wday
    else if wday > 4 then (7 - wday) + (m - 1)
    else if wday + m ≤ 4 then m
    else m + 2
  ns + (7 * weeks + days) * nsPerDay

def Anchor.apply (a : Anchor) (n : Int) (ns : Int) : Int :=
  let s := Stamp.ofNanos ns
  let day := s.date.day
  let month : Int := s.date.month
  let last := monthDays s.date.year s.date.month
  match a with
  | .monthEnd => shiftMonths ns (rolled n (day < last) (day > last)) (some true)
  | .monthBegin => shiftMonths ns (rolled n (day < 1) (day > 1)) (some false)
  | .quarterEnd m | .quarterBegin m =>
    let isEnd := a matches .quarterEnd _
    let point := if isEnd then last else 1
    let since := Int.fmod month 3 - Int.fmod (m : Int) 3
    let q := rolled n (since < 0 || (since == 0 && day < point)) (since > 0 || (since == 0 && day > point))
    shiftMonths ns (q * 3 - since) (some isEnd)
  | .yearEnd m | .yearBegin m =>
    let isEnd := a matches .yearEnd _
    let point := if isEnd then last else 1
    let before := month < m || (month == m && day < point)
    let after := month > m || (month == m && day > point)
    let y := rolled n before after
    shiftMonths ns (y * 12 + ((m : Int) - month)) (some isEnd)
  | .week none => ns + n * 7 * nsPerDay
  | .week (some w) =>
    let wd : Int := weekdayOf ns
    let target : Int := w
    -- off the weekday, the next one counts as a step forward
    let (ns, k) := if wd != target then (ns + Int.fmod (target - wd) 7 * nsPerDay, if n > 0 then n - 1 else n)
      else (ns, n)
    ns + k * 7 * nsPerDay
  | .businessDay => businessDays ns n

/-- Whether an instant is on one of the calendar points `a` (its time of day aside). -/
def Anchor.holds (a : Anchor) (ns : Int) : Bool :=
  let s := Stamp.ofNanos ns
  let last := monthDays s.date.year s.date.month
  match a with
  | .monthEnd => s.date.day == last
  | .monthBegin => s.date.day == 1
  | .quarterEnd m => s.date.month % 3 == m % 3 && s.date.day == last
  | .quarterBegin m => s.date.month % 3 == m % 3 && s.date.day == 1
  | .yearEnd m => s.date.month == m && s.date.day == last
  | .yearBegin m => s.date.month == m && s.date.day == 1
  | .week none => true
  | .week (some w) => weekdayOf ns == w
  | .businessDay => weekdayOf ns < 5

namespace Offset

def apply (o : Offset) (ns : Int) : Int :=
  match o.anchor with
  | some a => a.apply o.n ns
  | none =>
    let moved := shiftMonths ns (o.n * (12 * o.years + o.months)) none
    moved + o.n * ((7 * o.weeks + o.days) * nsPerDay + o.hours * nsPerHour
      + o.minutes * nsPerMinute + o.seconds * nsPerSecond + o.microseconds * 1000 + o.nanoseconds)

def negated (o : Offset) : Offset :=
  { o with n := -o.n }

def kindName (o : Offset) : String :=
  match o.anchor with
  | none => "DateOffset"
  | some .monthEnd => "MonthEnd"
  | some .monthBegin => "MonthBegin"
  | some (.quarterEnd _) => "QuarterEnd"
  | some (.quarterBegin _) => "QuarterBegin"
  | some (.yearEnd _) => "YearEnd"
  | some (.yearBegin _) => "YearBegin"
  | some (.week _) => "Week"
  | some .businessDay => "BusinessDay"

/-- The relative units of an offset that are not zero, by name, in alphabetical order. -/
def units (o : Offset) : List (String × Int) :=
  [("days", o.days), ("hours", o.hours), ("microseconds", o.microseconds),
   ("minutes", o.minutes), ("months", o.months), ("nanoseconds", o.nanoseconds),
   ("seconds", o.seconds), ("weeks", o.weeks), ("years", o.years)].filter (·.2 != 0)

/-- The offset as text: `<DateOffset: months=1>`, `<MonthEnd>`, `<0 * MonthEnds>`, `<QuarterEnd:
startingMonth=12>`. -/
def text (o : Offset) : String :=
  let plural := if o.n.natAbs != 1 then "s" else ""
  let count := if o.n != 1 then toString o.n ++ " * " else ""
  let attrs := match o.anchor with
    | none =>
      if o.units.isEmpty then ""
      else ": " ++ ", ".intercalate (o.units.map fun (k, v) => k ++ "=" ++ toString v)
    | some (.quarterEnd m) | some (.quarterBegin m) => ": startingMonth=" ++ toString m
    | some (.yearEnd m) | some (.yearBegin m) => ": month=" ++ toString m
    | some (.week w) => ": weekday=" ++ (match w with
      | some d => toString d
      | none => "None")
    | some _ => ""
  "<" ++ count ++ o.kindName ++ plural ++ attrs ++ ">"

/-- The frequency an anchored offset stands for (`ME`, `QE-DEC`, `W-SUN`). -/
def freqText (o : Offset) : String :=
  let count := if o.n != 1 then toString o.n else ""
  let month (m : Nat) : String := monthCodes.getD (m - 1) "DEC"
  let code := match o.anchor with
    | none => o.text
    | some .monthEnd => "ME"
    | some .monthBegin => "MS"
    | some (.quarterEnd m) => "QE-" ++ month m
    | some (.quarterBegin m) => "QS-" ++ month m
    | some (.yearEnd m) => "YE-" ++ month m
    | some (.yearBegin m) => "YS-" ++ month m
    | some (.week none) => "W"
    | some (.week (some d)) => "W-" ++ weekdayCodes.getD d "SUN"
    | some .businessDay => "B"
  count ++ code

end Offset

def calendarOffset? (freq : String) : Option Offset := do
  let cs := freq.toList
  let digits := cs.takeWhile Char.isDigit
  let n : Int := if digits.isEmpty then 1 else (String.ofList digits).toNat!
  let rest := String.ofList (cs.drop digits.length)
  let (name, suffix) := match rest.splitOn "-" with
    | [a, b] => (a, some b)
    | _ => (rest, none)
  let monthOf (dflt : Nat) : Option Nat :=
    match suffix with
    | none => some dflt
    | some m => (monthCodes.findIdx? (· == m)).map (· + 1)
  let anchor ← match name with
    | "ME" | "M" => if suffix.isNone then some Anchor.monthEnd else none
    | "MS" => if suffix.isNone then some Anchor.monthBegin else none
    | "QE" | "Q" => (monthOf 12).map Anchor.quarterEnd
    | "QS" => (monthOf 1).map Anchor.quarterBegin
    | "YE" | "Y" | "A" => (monthOf 12).map Anchor.yearEnd
    | "YS" | "AS" => (monthOf 1).map Anchor.yearBegin
    | "W" =>
      match suffix with
      | none => some (Anchor.week (some 6))
      | some d => (weekdayCodes.findIdx? (· == d)).map fun i => Anchor.week (some i)
    | "B" => if suffix.isNone then some Anchor.businessDay else none
    | _ => none
  pure { n, anchor := some anchor }

/-- `count` instants at the calendar points of `o` from the first point not before `start`. -/
def calendarRange (o : Offset) (start : Int) (count : Nat) : List Int :=
  let first := match o.anchor with
    | some a => if a.holds start then start else a.apply 1 start
    | none => start
  let step (acc : List Int × Int) (_ : Nat) : List Int × Int := (acc.1 ++ [acc.2], o.apply acc.2)
  ((List.range count).foldl step ([], first)).1

def calendarBetween (o : Offset) (start stop : Int) : List Int :=
  let first := match o.anchor with
    | some a => if a.holds start then start else a.apply 1 start
    | none => start
  -- each step moves at least a day forward, so the days between bound the steps
  let bound := ((stop - first) / nsPerDay).toNat + 2
  let step (acc : List Int × Int) (_ : Nat) : List Int × Int :=
    if acc.2 ≤ stop then (acc.1 ++ [acc.2], o.apply acc.2) else acc
  ((List.range bound).foldl step ([], first)).1

end PipeQuery.Time
