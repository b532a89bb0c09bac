import PipeQuery.Time.Offset

/-!
# The cadence of a sequence of instants

The frequency that at least three distinct sorted instants keep, named as frequencies are written
(`D`, `2h`, `W-SUN`, `ME`, `QS-OCT`, `B`, `WOM-2MON`, …), or none: a calendar frequency when the
smallest step is whole days, business hours, or else the largest unit every step is a whole
number of.
-/

namespace PipeQuery.Time

namespace Cadence

def steps (xs : List Int) : List Int :=
  let ds := (xs.zip xs.tail).map fun (a, b) => b - a
  (ds.foldl (fun acc d => if acc.contains d then acc else acc ++ [d]) []).mergeSort (· ≤ ·)

def counted (base : String) (count : Int) : String :=
  if count == 1 then base else s!"{count}{base}"

/-- Where in their months dates sit: `ce`, `be`, `cs` or `bs`. -/
def monthPosition (dates : List Date) : Option String :=
  let weekdayOf (d : Date) : Nat := weekday d.toDays
  let calEnd := dates.all fun d => d.day == monthDays d.year d.month
  let busEnd := dates.all fun d =>
    d.day == monthDays d.year d.month || (monthDays d.year d.month - d.day < 3 && weekdayOf d == 4)
  let calStart := dates.all fun d => d.day == 1
  let busStart := dates.all fun d => d.day == 1 || (d.day ≤ 3 && weekdayOf d == 0)
  if calEnd then some "ce" else if busEnd then some "be"
  else if calStart then some "cs" else if busStart then some "bs" else none

/-- The frequency of days or weeks that steps of `delta` nanoseconds keep, weeks anchored on the
first weekday. -/
def dailyRule (first delta : Int) : String :=
  let days := delta / nsPerDay
  if days % 7 == 0 then
    counted ("W-" ++ weekdayCodes.getD (weekday (Int.fdiv first nsPerDay)) "") (days / 7)
  else counted "D" days

def calendarRule (xs : List Int) (deltas : List Int) : Option String :=
  let dates := xs.map fun ns => (Stamp.ofNanos ns).date
  let first := xs.headD 0
  let firstDate := (Stamp.ofNanos first).date
  let years := steps (dates.map (·.year))
  let months := steps (dates.map fun d => d.year * 12 + d.month)
  let monthsSeen := (dates.map (·.month)).eraseDups
  let pos := monthPosition dates
  let pick (table : List (String × String)) : Option String := pos.bind fun k => table.lookup k
  let annual : Option String :=
    if years.length > 1 || monthsSeen.length > 1 then none
    else pick [("cs", "YS"), ("bs", "BYS"), ("ce", "YE"), ("be", "BYE")]
  let quarterly : Option String :=
    if months.length > 1 || months.headD 0 % 3 != 0 then none
    else pick [("cs", "QS"), ("bs", "BQS"), ("ce", "QE"), ("be", "BQE")]
  let monthly : Option String :=
    if months.length > 1 then none
    else pick [("cs", "MS"), ("bs", "BMS"), ("ce", "ME"), ("be", "BME")]
  let dayDeltas := deltas.map (· / nsPerDay)
  let businessDaily : Bool :=
    deltas.all (· % nsPerDay == 0) && dayDeltas == [1, 3] &&
      let shifts := (xs.zip xs.tail).map fun (a, b) => Int.fdiv (b - a) nsPerDay
      let start : Int := weekday (Int.fdiv first nsPerDay)
      let days := (shifts.foldl (fun (acc : List Int × Int) s => (acc.1 ++ [acc.2 + s], acc.2 + s))
        ([], start)).1
      (days.zip shifts).all fun (d, s) =>
        let w := Int.fmod d 7
        (w == 0 && s == 3) || (0 < w && w ≤ 4 && s == 1)
  let weekOfMonth : Option String :=
    let weekdays := (dates.map fun d => weekday d.toDays).eraseDups
    let weeks := ((dates.map fun d => (d.day - 1) / 7).eraseDups).filter (· < 4)
    match weekdays, weeks with
    | [w], [k] =>
      let code := weekdayCodes.getD w ""
      some s!"WOM-{k + 1}{code}"
    | _, _ => none
  match annual with
  | some rule =>
    some (counted (rule ++ "-" ++ monthCodes.getD (firstDate.month - 1) "") (years.headD 0))
  | none =>
  match quarterly with
  | some rule =>
    let month := match firstDate.month % 3 with
      | 0 => 12
      | 2 => 11
      | _ => 10
    some (counted (rule ++ "-" ++ monthCodes.getD (month - 1) "") (months.headD 0 / 3))
  | none =>
  match monthly with
  | some rule => some (counted rule (months.headD 0))
  | none =>
    if deltas.length == 1 then some (dailyRule first (deltas.headD 0))
    else if businessDaily then some "B"
    else weekOfMonth

/-- The frequency of steps that are not whole days: business hours, or a whole number of a unit. -/
def clockRule (deltas : List Int) : Option String :=
  let hourly := deltas.map fun d => if d % nsPerHour == 0 then some (d / nsPerHour) else none
  if hourly == [some 1, some 17] || hourly == [some 1, some 65] || hourly == [some 1, some 17, some 65]
  then some "bh"
  else match deltas with
    | [delta] =>
      let units : List (String × Int) := [("h", nsPerHour), ("min", nsPerMinute),
        ("s", nsPerSecond), ("ms", 1000000), ("us", 1000)]
      match units.find? (fun (_, u) => delta % u == 0) with
      | some (name, u) => some (counted name (delta / u))
      | none => some (counted "ns" delta)
    | _ => none

def strictlyMonotone (xs : List Int) : Bool :=
  let pairs := xs.zip xs.tail
  pairs.all (fun (a, b) => a < b) || pairs.all (fun (a, b) => a > b)

def infer (xs : List Int) (calendar : Bool) : Option String :=
  if !strictlyMonotone xs then none
  else
    let deltas := steps xs
    let delta := deltas.headD 0
    if delta != 0 && delta % nsPerDay == 0 then
      if calendar then calendarRule xs deltas
      else if deltas.length == 1 then some (dailyRule (xs.headD 0) delta) else none
    else clockRule deltas

end Cadence

end PipeQuery.Time
