import PipeQuery.Time.Iso
import PipeQuery.Time.Loose
import PipeQuery.Time.Strptime
import PipeQuery.Fault

/-!
# Reading one text as an instant

`readInstant` reads a text as the table library reads a single text as an instant: the texts of
"not a time" are missing; ISO 8601 goes to `isoRead`; small numbers and single letters are
refused; times, `MM/DD/YYYY` and its kin, years, quarters and months are read by their own rules;
anything else free-form (`looseParts`). A named zone gives its offset.
-/

namespace PipeQuery.Time

/-- The first and last instants of 64-bit nanoseconds (the one below the first marks "not a time").
-/
def nanoMin : Int := -9223372036854775807
def nanoMax : Int := 9223372036854775807

def fitsNanos (ns : Int) : Bool := nanoMin ≤ ns && ns ≤ nanoMax

def missingTexts : List String := ["NaT", "nat", "NAT", "nan", "NaN", "NAN"]

/-- The day the free-form reader takes as today, for texts that give a time of day alone. -/
def presentDay : Date := ⟨presentYear, 1, 1⟩

/-- An instant read from a text: missing, or nanoseconds with the offset in seconds; `fine` marks
sub-microsecond digits. -/
inductive TextInstant
  | missing
  | stamp (wall : Int) (offset : Option Int) (fine : Bool)
  deriving Inhabited

def TextInstant.utc? : TextInstant → Option Int
  | .missing => none
  | .stamp wall offset _ => some (wall - offset.getD 0 * nsPerSecond)

/-! ## Numbers that do not look like dates -/

/-- Reads a number as the table library's fast reader does: at most seventeen significant digits,
fraction, exponent. -/
def fastNumber? (s : String) : Option Float :=
  let isSpace (c : Char) : Bool := c == ' ' || (9 ≤ c.toNat && c.toNat ≤ 13)
  let digit (c : Char) : Float := (c.toNat - '0'.toNat).toFloat
  let rec digits : Nat → List Char → Float → Nat → Int → Float × Nat × Int × List Char
    | 0, cs, x, n, e => (x, n, e, cs)
    | _ + 1, [], x, n, e => (x, n, e, [])
    | fuel + 1, c :: cs, x, n, e =>
      if c.isDigit then
        if n < 17 then digits fuel cs (x * 10.0 + digit c) (n + 1) e
        else digits fuel cs x n (e + 1)
      else (x, n, e, c :: cs)
  let rec fraction : Nat → List Char → Float → Nat → Int → Float × Nat × Int × List Char
    | 0, cs, x, n, e => (x, n, e, cs)
    | _ + 1, [], x, n, e => (x, n, e, [])
    | fuel + 1, c :: cs, x, n, e =>
      if c.isDigit then
        if n < 17 then fraction fuel cs (x * 10.0 + digit c) (n + 1) (e - 1)
        else fraction fuel cs x n e
      else (x, n, e, c :: cs)
  let cs := s.toList.dropWhile isSpace
  let (neg, cs) := match cs with
    | '-' :: r => (true, r)
    | '+' :: r => (false, r)
    | r => (false, r)
  let (x, n, e, cs) := digits (cs.length + 1) cs 0.0 0 0
  let (x, n, e, cs) := match cs with
    | '.' :: r => fraction (r.length + 1) r x n e
    | r => (x, n, e, r)
  if n == 0 then none
  else
    let x := if neg then -x else x
    let (e, cs) := match cs with
      | c :: r =>
        if c == 'e' || c == 'E' then
          let (eneg, r') := match r with
            | '-' :: t => (true, t)
            | '+' :: t => (false, t)
            | t => (false, t)
          let ds := (r'.takeWhile Char.isDigit).take 17
          if ds.isEmpty then (e, c :: r)
          else
            let v : Int := (ds.foldl (fun (acc : Nat) (d : Char) => 10 * acc + (d.toNat - '0'.toNat)) 0 : Nat)
            (if eneg then e - v else e + v, r'.drop ds.length)
        else (e, c :: r)
      | [] => (e, [])
    if e < -1021 || e > 1024 then none
    else
      let rec scale : Nat → Nat → Float → Float → Float
        | 0, _, x, _ => x
        | fuel + 1, k, x, p =>
          if k == 0 then x
          else
            let x := if k % 2 == 1 then (if e < 0 then x / p else x * p) else x
            scale fuel (k / 2) x (p * p)
      let x := scale 12 e.natAbs x 10.0
      if x.isInf then none
      else if (cs.dropWhile isSpace).isEmpty then some x else none

/-- A text looks like a date unless it is a number below `1000` not starting with `0`, or a letter
for a part of a day. -/
def looksLikeDate (s : String) : Bool :=
  if s.isEmpty || s.startsWith "0" then true
  else if ["a", "A", "m", "M", "p", "P", "t", "T"].contains s then false
  else
    match fastNumber? s with
    | some x => x ≥ 1000.0
    | none => true

/-! ## Dates with separators -/

def isDateSeparator (b : UInt8) : Bool :=
  b == 32 || b == 47 || b == 45 || b == 46 || b == 0

/-- The value of the `n` digits at `i`, or a negative number when one is no digit. -/
def byteDigits (bs : Array UInt8) (i n : Nat) : Int :=
  let digit (k : Nat) (bad : Int) : Int :=
    let b := bs.getD (i + k) 0
    if 48 ≤ b && b ≤ 57 then (b.toNat - 48 : Nat) else bad
  match n with
  | 1 => digit 0 (-10)
  | 2 => digit 0 (-10) * 10 + digit 1 (-100)
  | _ => digit 0 (-10) * 1000 + digit 1 (-10) * 100 + digit 2 (-10) * 10 + digit 3 (-10)

def dateNanos (y : Int) (m d : Int) : Except String Int :=
  if y < 1 || y > 9999 then throw s!"year {y} is out of range"
  else if m < 1 || m > 12 then throw "month must be in 1..12"
  else if d < 1 || d > monthDays y m.toNat then throw "day is out of range for month"
  else pure (Date.toDays ⟨y, m.toNat, d.toNat⟩ * nsPerDay)

/-- Reads `M/D/YYYY`-like dates and `MM/YYYY` (month and day swapped above `12`): midnight, none, or
a bad date's failure. -/
def delimitedDate? (dayFirst : Bool) (s : String) : Outcome (Option Int) :=
  let bs := s.toUTF8.toList.toArray
  let sepAt (i : Nat) := isDateSeparator (bs.getD i 1)
  let form : Option (Int × Int × Int × Bool) :=
    if bs.size == 10 && sepAt 2 && sepAt 5 then
      some (byteDigits bs 0 2, byteDigits bs 3 2, byteDigits bs 6 4, true)
    else if bs.size == 9 && sepAt 1 && sepAt 4 then
      some (byteDigits bs 0 1, byteDigits bs 2 2, byteDigits bs 5 4, true)
    else if bs.size == 9 && sepAt 2 && sepAt 4 then
      some (byteDigits bs 0 2, byteDigits bs 3 1, byteDigits bs 5 4, true)
    else if bs.size == 8 && sepAt 1 && sepAt 3 then
      some (byteDigits bs 0 1, byteDigits bs 2 1, byteDigits bs 4 4, true)
    else if bs.size == 7 && sepAt 2 && bs.getD 2 0 != 46 then
      some (byteDigits bs 0 2, 1, byteDigits bs 3 4, false)
    else none
  match form with
  | none => pure none
  | some (month, day, year, swappable) =>
    if month < 0 || day < 0 || year < 1000 then pure none
    else if 1 ≤ month && month ≤ 31 && 1 ≤ day && day ≤ 31 && (month ≤ 12 || day ≤ 12) then
      let (month, day) :=
        if (month > 12 || (day ≤ 12 && dayFirst)) && swappable then (day, month) else (month, day)
      match dateNanos year month day with
      | .ok ns => pure (some ns)
      | .error e => throw (Fault.inner .valueError e)
    else throw (Fault.inner .dateParseError s!"Invalid date specified ({month}/{day})")

/-! ## Years, quarters and months -/

/-- Reads a year, quarter or month from the upper-case text: the first instant, none, or a bad
quarter's failure. -/
def periodStart? (s : String) : Outcome (Option Int) := do
  let u := Text.upper s
  let cs := u.toList
  let n := cs.length
  let yearOnly : Option Int :=
    if n == 4 then
      match Text.readInt? u with
      | some y => (dateNanos y 1 1).toOption
      | none => none
    else none
  if let some ns := yearOnly then return some ns
  let quarter : Outcome (Option Int) := do
    if n < 4 || n > 7 then return none
    let bs := u.toUTF8.toList.toArray
    let len := bs.size
    let some q := ((cs.drop 1).take 5).findIdx? (· == 'Q') | return none
    let i := q + 1
    let charAt (k : Nat) : Char := cs.getD k ' '
    let text (a b : Nat) : String := String.ofList ((cs.drop a).take (b - a))
    let lastDigit := byteDigits bs (len - 1) 1
    let parts : Option (Int × Option Int) :=
      if i == 1 then
        let qv := byteDigits bs 0 1
        if len == 4 || (len == 5 && charAt (i + 1) == '-') then
          some (qv, (Text.readInt? (text (n - 2) n)).map (2000 + ·))
        else if len == 6 || (len == 7 && charAt (i + 1) == '-') then
          some (qv, Text.readInt? (text (n - 4) n))
        else none
      else if i == 2 || i == 3 then
        if len == 4 || (len == 5 && charAt (i - 1) == '-') then
          some (lastDigit, (Text.readInt? (text 0 2)).map (2000 + ·))
        else none
      else
        if len == 6 || (len == 7 && charAt (i - 1) == '-') then
          some (lastDigit, Text.readInt? (text 0 4))
        else none
    match parts with
    | some (qv, some year) =>
      if qv < 1 || qv > 4 then
        throw (Fault.inner .dateParseError
          s!"Incorrect quarterly string is given, quarter must be between 1 and 4: {u}")
      match dateNanos year ((qv - 1) * 3 + 1) 1 with
      | .ok ns => return some ns
      | .error _ => throw (Fault.inner .dateParseError s!"Incorrect quarterly string is given: {u}")
    | _ => return none
  if let some ns ← quarter then return some ns
  let months := ["%Y-%m", "%b %Y", "%b-%Y"].findSome? fun fmt =>
    match strptime .stdlib fmt u with
    | .ok f => some f.toNanos
    | .error _ => none
  return months

/-! ## Free-form texts -/

structure WallFields where
  year : Int
  month : Int
  day : Int
  hour : Int
  minute : Int
  second : Int
  micro : Int
  deriving Inhabited

def WallFields.midnight (d : Date) : WallFields :=
  { year := d.year, month := d.month, day := d.day, hour := 0, minute := 0, second := 0, micro := 0 }

def WallFields.put (w : WallFields) (p : LooseParts) : WallFields :=
  { year := p.year.getD w.year, month := p.month.getD w.month, day := p.day.getD w.day,
    hour := p.hour.getD w.hour, minute := p.minute.getD w.minute,
    second := p.second.getD w.second, micro := p.micro.getD w.micro }

/-- Why fields make no date and time: a field beyond 32 bits, or the message of one out of range. -/
inductive WallFailure
  | overflow
  | range (message : String)

def WallFields.nanos (w : WallFields) : Except WallFailure Int := do
  let small (v : Int) : Bool := -2147483648 ≤ v && v ≤ 2147483647
  if !([w.year, w.month, w.day, w.hour, w.minute, w.second, w.micro].all small) then
    throw .overflow
  let date ← match dateNanos w.year w.month w.day with
    | .ok ns => pure ns
    | .error e => throw (.range e)
  if w.hour < 0 || w.hour > 23 then throw (.range "hour must be in 0..23")
  if w.minute < 0 || w.minute > 59 then throw (.range "minute must be in 0..59")
  if w.second < 0 || w.second > 59 then throw (.range "second must be in 0..59")
  if w.micro < 0 || w.micro > 999999 then throw (.range "microsecond must be in 0..999999")
  return date + w.hour * nsPerHour + w.minute * nsPerMinute + w.second * nsPerSecond + w.micro * 1000

/-- A free-form date and time: the wall time, and the zone's offset in seconds and name when given.
-/
structure LooseInstant where
  wall : Int
  zone : Option (Int × String)
  deriving Inhabited

def utcZone : Option (Int × String) := some (0, "UTC")

/-- The zone the parts name: the machine's zone (offset zero) for `UTC`, offset zero, a fixed offset
within a day, or none. -/
def LooseParts.zone (p : LooseParts) (s : String) : Outcome (Option (Int × String)) :=
  if p.zoneName == some "UTC" then pure utcZone
  else if p.zoneOffset == some 0 then pure utcZone
  else
    match p.zoneOffset with
    | some off =>
      if off ≤ -86400 || off ≥ 86400 then
        throw (Fault.inner .valueError (s!"Parsed string \"{s}\" gives an invalid tzoffset, which must " ++
          "be between -timedelta(hours=24) and timedelta(hours=24)"))
      else pure (some (off, p.zoneName.getD ""))
    | none => pure none

/-- Reads a text free-form as the table library does, missing parts from `base`, the date in
`order`. -/
def looseInstant (order : DateOrder) (s : String) (base : Date) : Outcome LooseInstant := do
  let some p := loosePartsWith order s
    | throw (Fault.inner .dateParseError s!"Unknown datetime string format, unable to parse: {s}")
  let found := [p.year, p.month, p.day, p.hour, p.minute, p.second, p.micro].any (·.isSome)
  if !found then throw (Fault.inner .dateParseError s!"Unable to parse datetime string: {s}")
  let wall ← match ((WallFields.midnight base).put p).nanos with
    | .ok ns => pure ns
    | .error .overflow =>
      throw (Fault.inner .outOfBounds s!"Parsing \"{s}\" to datetime overflows")
    | .error (.range e) => throw (Fault.inner .dateParseError s!"{e}: {s}")
  if p.weekday.isSome && (p.day.getD 0) == 0 then
    throw (Fault.inner .valueError "Parsing datetimes with weekday but no day information is not supported")
  return { wall, zone := ← p.zone s }

/-- Reads a text starting with a time of day free-form, missing parts from `presentDay`. -/
def clockFirstInstant (s : String) : Outcome LooseInstant := do
  let some p := looseParts s
    | throw (Fault.inner .parserError s!"Unknown string format: {s}")
  let any := [p.year, p.month, p.day, p.hour, p.minute, p.second, p.micro, p.zoneOffset].any (·.isSome) ||
    p.weekday.isSome || p.zoneName.isSome || p.ampm.isSome
  if !any then throw (Fault.inner .parserError s!"String does not contain a date: {s}")
  let base := WallFields.midnight presentDay
  let year := p.year.getD base.year
  let month := p.month.getD base.month
  let day :=
    if p.day.isNone && 1 ≤ month && month ≤ 12 && base.day > monthDays year month.toNat then
      some (monthDays year month.toNat : Int)
    else p.day
  let wall ← match (base.put { p with day }).nanos with
    | .ok ns => pure ns
    | .error .overflow => throw (Fault.inner .overflowError "signed integer is greater than maximum")
    | .error (.range e) => throw (Fault.inner .parserError s!"{e}: {s}")
  let wall := match p.weekday, p.day with
    | some wd, none =>
      let days := wall / nsPerDay
      let now := weekday days
      wall + ((wd + 7 - now) % 7 : Nat) * nsPerDay
    | _, _ => wall
  let zone :=
    if p.zoneName == some "UTC" || p.zoneOffset == some 0 then utcZone
    else match p.zoneOffset with
      | some off => some (off, p.zoneName.getD "")
      | none => none
  return { wall, zone }

def startsWithClock (s : String) : Bool :=
  let cs := s.toList
  let d (c : Char) := '0' ≤ c && c ≤ '9'
  let minutes (r : List Char) : Bool := match r with
    | ':' :: a :: b :: _ => '0' ≤ a && a ≤ '5' && d b
    | _ => false
  match cs with
  | a :: b :: r =>
    (((a == '0' || a == '1') && d b) && minutes r) ||
      (a == '2' && '0' ≤ b && b ≤ '3' && minutes r) || (d a && minutes (b :: r))
  | _ => false

/-! ## The reader -/

def partsText (p : IsoParts) : String :=
  s!"{p.year}-{padNat 2 p.month}-{padNat 2 p.day} {padNat 2 p.hour}:{padNat 2 p.minute}:{padNat 2 p.second}"

/-- Reads a text as an instant, year, month and day in the preferred `order` where either reads. -/
def readInstantWith (order : DateOrder) (s : String) : Outcome TextInstant := do
  if s.isEmpty || missingTexts.contains s then return .missing
  if let some p := isoRead s "" .infer then
    return .stamp p.toNanos (p.offset.map (· * 60)) p.fine
  if !looksLikeDate s then
    throw (Fault.inner .valueError s!"Given date string \"{s}\" not likely a datetime")
  if startsWithClock s then
    let r ← clockFirstInstant s
    return .stamp r.wall (r.zone.map (·.1)) false
  if let some ns ← delimitedDate? order.dayFirst s then return .stamp ns none false
  if let some ns ← periodStart? s then return .stamp ns none false
  let r ← looseInstant order s ⟨1, 1, 1⟩
  return .stamp r.wall (r.zone.map (·.1)) false

def readInstant (s : String) : Outcome TextInstant :=
  readInstantWith {} s

/-! ## Reading by a pattern -/

/-- Whether the ISO reader takes the pattern: `%Y`, `%m`, `%d`, `%H`, `%M`, `%S` in turn with
separators, then `%z`, `.%f` or `.%f%z`. -/
def isIsoPattern (fmt : String) : Bool :=
  let tail (cs : List Char) : Bool :=
    match cs with
    | [] | ['%', 'z'] | ['.', '%', 'f'] | ['.', '%', 'f', '%', 'z'] => true
    | _ => false
  let seconds (cs : List Char) : Bool :=
    match cs with
    | [] => true
    | ':' :: '%' :: 'S' :: rest => tail rest
    | _ => false
  let minutes (cs : List Char) : Bool :=
    match cs with
    | [] => true
    | ':' :: '%' :: 'M' :: rest => seconds rest
    | _ => false
  let hours (cs : List Char) : Bool :=
    match cs with
    | [] => true
    | c :: '%' :: 'H' :: rest => (c == ' ' || c == 'T') && minutes rest
    | _ => false
  let days (sep : List Char) (cs : List Char) : Bool :=
    match cs with
    | [] => true
    | _ => sep ++ ['%', 'd'] == cs.take (sep.length + 2) && hours (cs.drop (sep.length + 2))
  let months (cs : List Char) : Bool :=
    match cs with
    | [] => true
    | '%' :: 'm' :: rest => days [] rest
    | c :: '%' :: 'm' :: rest => "-/ \\.".contains c && days [c] rest
    | _ => false
  match fmt.toList with
  | '%' :: 'Y' :: rest => fmt != "%Y%m" && months rest
  | _ => false

def outOfNanos (s : String) : Fault :=
  Fault.inner .outOfBounds s!"Out of bounds nanosecond timestamp: {s}"

/-- Reads a text by a pattern as the table library does (ISO reader where it applies, else
`strptime`), within 64-bit nanoseconds. -/
def readByPattern (fmt s : String) : Outcome TextInstant := do
  if s.isEmpty || missingTexts.contains s then return .missing
  let fromIso (p : IsoParts) : Outcome TextInstant := do
    let wall := p.toNanos
    if !fitsNanos wall then throw (outOfNanos s)
    return .stamp wall (p.offset.map (· * 60)) p.fine
  if fmt == "ISO8601" then
    match isoRead s "" .infer with
    | some p => return ← fromIso p
    | none => throw (Fault.inner .valueError s!"Time data {s} is not ISO8601 format")
  if isIsoPattern fmt then
    if let some p := isoRead s fmt .exact then return ← fromIso p
  match strptime .table fmt s with
  | .ok f =>
    let wall := f.toNanos
    if !fitsNanos wall then throw (outOfNanos s)
    return .stamp wall f.offset (f.nano % 1000 != 0)
  | .error (.value m) => throw (Fault.inner .valueError m)
  | .error (.pattern m) => throw (Fault.inner .regexError m)

end PipeQuery.Time
