import PipeQuery.Time.Civil

/-!
# Named time zones

The offset from UTC of an instant in a named zone (matched regardless of case): fixed zones, and
zones with summer time one hour ahead by their region's rule (North America, Europe, south-east
Australia, New Zealand).
-/

namespace PipeQuery.Time

inductive SummerRule
  | none | northAmerica | europe | southEastAustralia | newZealand
  deriving DecidableEq, Repr, Inhabited

def zones : List (String × Int × SummerRule) :=
  let h (k : Int) : Int := k * 3600
  let fixed (off : Int) (names : List String) := names.map fun n => (n, off, SummerRule.none)
  let kept (off : Int) (rule : SummerRule) (names : List String) := names.map fun n => (n, off, rule)
  fixed 0 ["UTC", "Etc/UTC", "GMT", "Etc/GMT", "Universal", "Zulu", "UCT", "Etc/UCT"]
    ++ fixed (h 9) ["Asia/Tokyo", "Asia/Seoul", "Japan"]
    ++ fixed (h 8) ["Asia/Shanghai", "Asia/Hong_Kong", "Asia/Singapore", "Asia/Taipei",
      "Asia/Manila", "Australia/Perth", "PRC"]
    ++ fixed (h 5 + 1800) ["Asia/Kolkata", "Asia/Calcutta"]
    ++ fixed (h 5 + 2700) ["Asia/Kathmandu"]
    ++ fixed (h 4) ["Asia/Dubai"]
    ++ fixed (h 5) ["Asia/Karachi", "Asia/Tashkent"]
    ++ fixed (h 6) ["Asia/Dhaka"]
    ++ fixed (h 7) ["Asia/Jakarta", "Asia/Bangkok", "Asia/Ho_Chi_Minh"]
    ++ fixed (h 3) ["Asia/Riyadh", "Europe/Moscow", "Africa/Nairobi", "Europe/Istanbul",
      "Asia/Baghdad"]
    ++ fixed (h 3 + 1800) ["Asia/Tehran"]
    ++ fixed (h 1) ["Africa/Lagos", "Africa/Algiers"]
    ++ fixed (h 2) ["Africa/Johannesburg", "Africa/Cairo"]
    ++ fixed (h 10) ["Australia/Brisbane"]
    ++ fixed (h 9 + 1800) ["Australia/Darwin"]
    ++ fixed (h (-5)) ["America/Bogota", "America/Lima", "America/Panama", "EST"]
    ++ fixed (h (-3)) ["America/Sao_Paulo", "America/Argentina/Buenos_Aires"]
    ++ fixed (h (-7)) ["America/Phoenix", "MST"]
    ++ fixed (h (-10)) ["Pacific/Honolulu", "US/Hawaii", "HST"]
    ++ kept (h (-5)) .northAmerica ["America/New_York", "US/Eastern", "America/Toronto",
      "America/Detroit", "EST5EDT"]
    ++ kept (h (-6)) .northAmerica ["America/Chicago", "US/Central", "CST6CDT"]
    ++ kept (h (-7)) .northAmerica ["America/Denver", "US/Mountain", "America/Edmonton", "MST7MDT"]
    ++ kept (h (-8)) .northAmerica ["America/Los_Angeles", "US/Pacific", "America/Vancouver",
      "PST8PDT"]
    ++ kept (h (-9)) .northAmerica ["America/Anchorage", "US/Alaska"]
    ++ kept (h (-4)) .northAmerica ["America/Halifax"]
    ++ kept 0 .europe ["Europe/London", "Europe/Dublin", "Europe/Lisbon", "WET"]
    ++ kept (h 1) .europe ["Europe/Paris", "Europe/Berlin", "Europe/Madrid", "Europe/Rome",
      "Europe/Amsterdam", "Europe/Brussels", "Europe/Vienna", "Europe/Stockholm", "Europe/Oslo",
      "Europe/Copenhagen", "Europe/Zurich", "Europe/Prague", "Europe/Warsaw", "Europe/Budapest",
      "CET", "MET"]
    ++ kept (h 2) .europe ["Europe/Athens", "Europe/Helsinki", "Europe/Kiev", "Europe/Kyiv",
      "Europe/Bucharest", "EET"]
    ++ kept (h 10) .southEastAustralia ["Australia/Sydney", "Australia/Melbourne",
      "Australia/Canberra", "Australia/Hobart"]
    ++ kept (h 12) .newZealand ["Pacific/Auckland", "NZ"]

/-- The zone of a name in any case: its own spelling, its standard offset in seconds and its
summer-time rule. -/
def zoneRule? (name : String) : Option (String × Int × SummerRule) :=
  zones.find? (fun z => z.1.toLower == name.toLower)

/-- The day number of the `k`-th Sunday (`k` from one) of a month, or of its last Sunday when `k` is
zero. -/
def sundayOf (year : Int) (month : Nat) (k : Nat) : Int :=
  if k == 0 then
    let last := Date.toDays { year, month, day := monthDays year month }
    last - (((weekday last : Nat) + 1) % 7 : Nat)
  else
    let first := Date.toDays { year, month, day := 1 }
    let toSunday := ((6 + 7 - (weekday first : Nat)) % 7 : Nat)
    first + toSunday + 7 * ((k : Int) - 1)

def summerAt (rule : SummerRule) (std : Int) (ns : Int) : Bool :=
  let year := (Stamp.ofNanos (ns + std * nsPerSecond)).date.year
  let at2 (days : Int) (localHour : Int) (off : Int) : Int :=
    days * nsPerDay + localHour * nsPerHour - off * nsPerSecond
  match rule with
  | .none => false
  | .northAmerica =>
    let start := at2 (sundayOf year 3 2) 2 std
    let stop := at2 (sundayOf year 11 1) 2 (std + 3600)
    start ≤ ns && ns < stop
  | .europe =>
    let start := sundayOf year 3 0 * nsPerDay + nsPerHour
    let stop := sundayOf year 10 0 * nsPerDay + nsPerHour
    start ≤ ns && ns < stop
  | .southEastAustralia =>
    let stop := at2 (sundayOf year 4 1) 3 (std + 3600)
    let start := at2 (sundayOf year 10 1) 2 std
    ns < stop || start ≤ ns
  | .newZealand =>
    let stop := at2 (sundayOf year 4 1) 3 (std + 3600)
    let start := at2 (sundayOf year 9 0) 2 std
    ns < stop || start ≤ ns

def zoneOffset? (name : String) (ns : Int) : Option Int := do
  let (_, std, rule) ← zoneRule? name
  pure (if summerAt rule std ns then std + 3600 else std)

/-- The UTC instant of wall time `wall` in zone `name`: the standard offset unless that instant
falls in summer time. -/
def localToUtc? (name : String) (wall : Int) : Option Int := do
  let (_, std, rule) ← zoneRule? name
  let asStandard := wall - std * nsPerSecond
  let asSummer := wall - (std + 3600) * nsPerSecond
  pure (if rule != .none && summerAt rule std asSummer then asSummer else asStandard)

end PipeQuery.Time
