import PipeQuery.Regex.Match
import PipeQuery.Time.Civil
import PipeQuery.Text.Numeral
import PipeQuery.Text.Classes

/-!
# Reading instants by a pattern

A `%` pattern becomes a regular expression (`timeDirective`) matched at the start of the text in
any case, and the text must end where the match does; the fields are then put together (`%y`
below `69` in the 2000s, weeks and days of the year to dates; the year defaults to `1900`).
`Reader.stdlib` is the language's reader, `Reader.table` the table library's copy (fractions of
up to nine digits, its checks made on the pattern first).
-/

namespace PipeQuery.Time

inductive Reader
  | stdlib
  | table
  deriving DecidableEq, Inhabited

inductive ReadFailure
  | value (message : String)
  | pattern (message : String)
  deriving Inhabited

/-- The full and short names of weekdays and months, in lower case, longer names first. -/
def weekdayAlternatives : String :=
  "wednesday|thursday|saturday|tuesday|monday|friday|sunday"

def monthAlternatives : String :=
  "september|february|november|december|january|october|august|march|april|june|july|may"

def timeDirective (r : Reader) : Char → Option String
  | 'd' => some "(?P<d>3[0-1]|[1-2]\\d|0[1-9]|[1-9]| [1-9])"
  | 'f' => some (if r == .table then "(?P<f>[0-9]\x7b1,9\x7d)" else "(?P<f>[0-9]\x7b1,6\x7d)")
  | 'H' => some "(?P<H>2[0-3]|[0-1]\\d|\\d)"
  | 'I' => some "(?P<I>1[0-2]|0[1-9]|[1-9])"
  | 'G' => some "(?P<G>\\d\\d\\d\\d)"
  | 'j' => some "(?P<j>36[0-6]|3[0-5]\\d|[1-2]\\d\\d|0[1-9]\\d|00[1-9]|[1-9]\\d|0[1-9]|[1-9])"
  | 'm' => some "(?P<m>1[0-2]|0[1-9]|[1-9])"
  | 'M' => some "(?P<M>[0-5]\\d|\\d)"
  | 'S' => some "(?P<S>6[0-1]|[0-5]\\d|\\d)"
  | 'U' => some "(?P<U>5[0-3]|[0-4]\\d|\\d)"
  | 'W' => some "(?P<W>5[0-3]|[0-4]\\d|\\d)"
  | 'w' => some "(?P<w>[0-6])"
  | 'u' => some "(?P<u>[1-7])"
  | 'V' => some "(?P<V>5[0-3]|0[1-9]|[1-4]\\d|\\d)"
  | 'y' => some "(?P<y>\\d\\d)"
  | 'Y' => some "(?P<Y>\\d\\d\\d\\d)"
  | 'z' => some "(?P<z>[+-]\\d\\d:?[0-5]\\d(:?[0-5]\\d(\\.\\d\x7b1,6\x7d)?)?|(?-i:Z))"
  | 'A' => some ("(?P<A>" ++ weekdayAlternatives ++ ")")
  | 'a' => some "(?P<a>mon|tue|wed|thu|fri|sat|sun)"
  | 'B' => some ("(?P<B>" ++ monthAlternatives ++ ")")
  | 'b' => some "(?P<b>jan|feb|mar|apr|may|jun|jul|aug|sep|oct|nov|dec)"
  | 'p' => some "(?P<p>am|pm)"
  | 'Z' => some "(?P<Z>gmt|utc)"
  | 'c' => some ("(?P<a>mon|tue|wed|thu|fri|sat|sun)\\s+(?P<b>jan|feb|mar|apr|may|jun|jul|aug|sep|oct|nov|dec)" ++
      "\\s+(?P<d>3[0-1]|[1-2]\\d|0[1-9]|[1-9]| [1-9])\\s+(?P<H>2[0-3]|[0-1]\\d|\\d):(?P<M>[0-5]\\d|\\d)" ++
      ":(?P<S>6[0-1]|[0-5]\\d|\\d)\\s+(?P<Y>\\d\\d\\d\\d)")
  | 'x' => some "(?P<m>1[0-2]|0[1-9]|[1-9])/(?P<d>3[0-1]|[1-2]\\d|0[1-9]|[1-9]| [1-9])/(?P<y>\\d\\d)"
  | 'X' => some "(?P<H>2[0-3]|[0-1]\\d|\\d):(?P<M>[0-5]\\d|\\d):(?P<S>6[0-1]|[0-5]\\d|\\d)"
  | '%' => some "%"
  | _ => none

def regexSpecial (c : Char) : Bool :=
  "\\.^$*+?()\x7b\x7d[]|".contains c

/-- A pattern's text with the special characters escaped and each run of blanks made `\s+`. -/
def escapePattern (cs : List Char) : List Char :=
  let escaped := cs.flatMap fun c => if regexSpecial c then ['\\', c] else [c]
  let rec blanks : Nat → List Char → List Char
    | 0, rest => rest
    | _ + 1, [] => []
    | fuel + 1, c :: rest =>
      if Text.isBlank c then '\\' :: 's' :: '+' :: blanks fuel (rest.dropWhile Text.isBlank)
      else c :: blanks fuel rest
  blanks (escaped.length + 1) escaped

/-- The regular expression of a pattern, or why it is refused: a bad directive letter, or a `%`
ending the pattern. -/
def timeRegex (r : Reader) (fmt : String) : Except String String :=
  let rec go : Nat → List Char → String → Except String String
    | 0, _, acc => pure acc
    | _ + 1, [], acc => pure acc
    | fuel + 1, '%' :: rest, acc =>
      match rest with
      | [] => throw s!"stray % in format '{fmt}'"
      | c :: more =>
        match timeDirective r c with
        | some re => go fuel more (acc ++ re)
        | none =>
          let shown := if c == '\\' then "%" else c.toString
          throw s!"'{shown}' is a bad directive in format '{fmt}'"
    | fuel + 1, c :: rest, acc => go fuel rest (acc.push c)
  let cs := escapePattern fmt.toList
  go (cs.length + 1) cs ""

/-- The fields a pattern read: date and time, nanoseconds, and the UTC offset in seconds when the
text gave one. -/
structure ReadFields where
  year : Int
  month : Nat
  day : Nat
  hour : Nat := 0
  minute : Nat := 0
  second : Nat := 0
  nano : Nat := 0
  offset : Option Int := none
  deriving Repr, Inhabited

def digitsOf (s : String) : Nat :=
  s.toList.foldl (fun n c => 10 * n + Text.decimalValue c) 0

def newYearDays (y : Int) : Int :=
  ({ year := y, month := 1, day := 1 } : Date).toDays

def newYearWeekday (y : Int) : Nat :=
  weekday (newYearDays y)

/-- The day of the year of a week number (`%U` or `%W`) and a weekday. -/
def julianOfWeek (year : Int) (week weekday : Nat) (startsMonday : Bool) : Int :=
  let first := newYearWeekday year
  let (first, dow) := if startsMonday then (first, weekday) else ((first + 1) % 7, (weekday + 1) % 7)
  let week0 := (7 - first) % 7
  if week == 0 then 1 + (dow : Int) - first
  else 1 + week0 + 7 * ((week : Int) - 1) + dow

/-- The year and day of the year of an ISO year, week and weekday (Monday `1`). -/
def julianOfIsoWeek (isoYear : Int) (week isoWeekday : Nat) : Int × Int :=
  let correction := weekday (({ year := isoYear, month := 1, day := 4 } : Date).toDays) + 1 + 3
  let ordinal : Int := 7 * week + isoWeekday - correction
  if ordinal < 1 then
    (isoYear - 1, ordinal + newYearDays isoYear - newYearDays (isoYear - 1))
  else (isoYear, ordinal)

def yearInRange (y : Int) : Bool :=
  1 ≤ y && y ≤ 9999

/-- The offset in seconds of a `%z` text (`Z`, `±HHMM`, `±HH:MM`, `±HH:MM:SS`), or why a mixed use
of `:` is refused. -/
def offsetOf (z : String) : Except String Int := do
  let cs := z.toList
  if cs == ['Z'] then return 0
  let neg := cs.head? == some '-'
  let body := cs.drop 1
  let body ← match body with
    | a :: b :: ':' :: rest =>
      match rest with
      | c :: d :: more =>
        match more with
        | [] => pure [a, b, c, d]
        | ':' :: tail => pure ([a, b, c, d] ++ tail)
        | _ => throw s!"Inconsistent use of : in {z}"
      | _ => pure ([a, b] ++ rest)
    | _ => pure body
  let hours := digitsOf (String.ofList (body.take 2))
  let minutes := digitsOf (String.ofList ((body.drop 2).take 2))
  let seconds := digitsOf (String.ofList ((body.drop 4).take 2))
  let total : Int := hours * 3600 + minutes * 60 + seconds
  return if neg then -total else total

def monthOfName (name : String) : Nat :=
  let n := name.toLower
  match (monthNames.zipIdx.find? fun (m, _) =>
      m.toLower == n || String.ofList (m.toLower.toList.take 3) == n) with
  | some (_, i) => i + 1
  | none => 1

def weekdayOfName (name : String) : Nat :=
  let n := name.toLower
  match (dayNames.zipIdx.find? fun (d, _) =>
      d.toLower == n || String.ofList (d.toLower.toList.take 3) == n) with
  | some (_, i) => i
  | none => 0

/-- The checks the table library makes on a pattern before reading. -/
def tablePatternCheck (fmt : String) : Except String Unit :=
  let has (d : String) := (Text.splitText fmt d).length > 1
  let weekday := has "%A" || has "%a" || has "%w" || has "%u"
  if has "%W" || has "%U" then
    if !(has "%Y" || has "%y") then throw "Cannot use '%W' or '%U' without day and year"
    else if !(has "%A" || has "%a" || has "%w") then throw "Cannot use '%W' or '%U' without day and year"
    else pure ()
  else if has "%Z" && has "%z" then throw "Cannot parse both %Z and %z"
  else if has "%j" && has "%G" then
    throw "Day of the year directive '%j' is not compatible with ISO year directive '%G'. Use '%Y' instead."
  else if has "%G" && !(has "%V" && weekday) then
    throw "ISO year directive '%G' must be used with the ISO week directive '%V' and a weekday directive '%A', '%a', '%w', or '%u'."
  else if has "%V" && has "%Y" then
    throw "ISO week directive '%V' is incompatible with the year directive '%Y'. Use the ISO year '%G' instead."
  else if has "%V" && !(has "%G" && weekday) then
    throw "ISO week directive '%V' must be used with the ISO year directive '%G' and a weekday directive '%A', '%a', '%w', or '%u'."
  else pure ()

structure Found where
  year : Option Int := none
  isoYear : Option Int := none
  month : Nat := 1
  day : Nat := 1
  hour : Nat := 0
  minute : Nat := 0
  second : Nat := 0
  nano : Nat := 0
  weekday : Option Nat := none
  julian : Option Int := none
  week : Option Nat := none
  weekStartsMonday : Bool := false
  isoWeek : Option Nat := none
  offset : Option Int := none
  deriving Inhabited

/-- Sets the field of one named group that matched `g`; `ampm` is what `%p` matched. -/
def Found.take (r : Reader) (ampm : String) (f : Found) (name g : String) : Except String Found :=
  let v := digitsOf g
  match name with
  | "y" => pure { f with year := some (if v ≤ 68 then 2000 + v else 1900 + v) }
  | "Y" => pure { f with year := some v }
  | "G" => pure { f with isoYear := some v }
  | "m" => pure { f with month := v }
  | "B" | "b" => pure { f with month := monthOfName g }
  | "d" => pure { f with day := digitsOf (String.ofList (g.toList.filter (· != ' '))) }
  | "H" => pure { f with hour := v }
  | "I" =>
    let p := ampm.toLower
    let hour := if p == "pm" then (if v == 12 then 12 else v + 12) else (if v == 12 then 0 else v)
    pure { f with hour }
  | "M" => pure { f with minute := v }
  | "S" => pure { f with second := v }
  | "f" =>
    let width := if r == .table then 9 else 6
    let n := digitsOf (g ++ String.ofList (List.replicate (width - g.length) '0'))
    pure { f with nano := if r == .table then n else n * 1000 }
  | "A" | "a" => pure { f with weekday := some (weekdayOfName g) }
  | "w" => pure { f with weekday := some (if v == 0 then 6 else v - 1) }
  | "u" => pure { f with weekday := some (v - 1) }
  | "j" => pure { f with julian := some v }
  | "U" => pure { f with week := some v, weekStartsMonday := false }
  | "W" => pure { f with week := some v, weekStartsMonday := true }
  | "V" => pure { f with isoWeek := some v }
  | "z" => return { f with offset := some (← offsetOf g) }
  | _ => pure f

/-- Puts the fields together (see the module's description), or the message refusing them. -/
def Found.fields (r : Reader) (f : Found) : Except String ReadFields := do
  if r == .stdlib then
    if f.year.isNone && f.isoYear.isSome then
      if f.isoWeek.isNone || f.weekday.isNone then
        throw "ISO year directive '%G' must be used with the ISO week directive '%V' and a weekday directive ('%A', '%a', '%w', or '%u')."
      if f.julian.isSome then
        throw "Day of the year directive '%j' is not compatible with ISO year directive '%G'. Use '%Y' instead."
    else if f.week.isNone && f.isoWeek.isSome then
      if f.weekday.isNone || f.isoYear.isNone then
        throw "ISO week directive '%V' must be used with the ISO year directive '%G' and a weekday directive ('%A', '%a', '%w', or '%u')."
      else
        throw "ISO week directive '%V' is incompatible with the year directive '%Y'. Use the ISO year '%G' instead."
  let leapFix := r == .stdlib && f.year.isNone && f.month == 2 && f.day == 29
  let year : Int := f.year.getD (if leapFix then 1904 else 1900)
  let (year, julian) : Int × Option Int :=
    match f.julian, f.weekday with
    | none, some wd =>
      match f.week with
      | some w => (year, some (julianOfWeek year w wd f.weekStartsMonday))
      | none =>
        match f.isoYear, f.isoWeek with
        | some iy, some iw => let (y, j) := julianOfIsoWeek iy iw (wd + 1); (y, some j)
        | _, _ => (year, none)
    | j, _ => (year, j)
  let outOfRange := s!"year {year} is out of range"
  let (year, month, day) ← match julian with
    | none =>
      if !yearInRange year then throw outOfRange
      if f.month < 1 || f.month > 12 then throw "month must be in 1..12"
      if f.day < 1 || f.day > monthDays year f.month then throw "day is out of range for month"
      pure (year, f.month, f.day)
    | some j =>
      if !yearInRange year then throw outOfRange
      let d := Date.ofDays (newYearDays year + j - 1)
      if !yearInRange d.year then throw s!"year {d.year} is out of range"
      pure (d.year, d.month, d.day)
  let year := if leapFix then 1900 else year
  if leapFix && day > monthDays 1900 month then throw "day is out of range for month"
  if r == .stdlib && f.second > 59 then throw "second must be in 0..59"
  let fields : ReadFields :=
    { year := year, month := month, day := day, hour := f.hour, minute := f.minute,
      second := f.second, nano := f.nano, offset := f.offset }
  return fields

def ReadFields.toNanos (f : ReadFields) : Int :=
  let stamp : Stamp :=
    { date := ⟨f.year, f.month, f.day⟩, hour := f.hour, minute := f.minute, second := f.second,
      nano := f.nano }
  stamp.toNanos

/-- What refuses a pattern before any text is read by it. -/
def patternProblem? (r : Reader) (fmt : String) : Option ReadFailure :=
  let checked : Except ReadFailure Unit := do
    if r == .table then
      match tablePatternCheck fmt with
      | .error e => throw (.value e)
      | .ok () => pure ()
    let pattern ← match timeRegex r fmt with
      | .ok p => pure p
      | .error e => throw (.value e)
    match Regex.compile pattern true with
    | .ok _ => pure ()
    | .error e => throw (.pattern (e.describe pattern))
  match checked with
  | .ok () => none
  | .error e => some e

def strptime (r : Reader) (fmt s : String) : Except ReadFailure ReadFields := do
  if r == .table then
    match tablePatternCheck fmt with
    | .error e => throw (.value e)
    | .ok () => pure ()
  let pattern ← match timeRegex r fmt with
    | .ok p => pure p
    | .error e => throw (.value e)
  let re ← match Regex.compile pattern true with
    | .ok re => pure re
    | .error e => throw (.pattern (e.describe pattern))
  let text := s.toList.toArray
  let noMatch :=
    if r == .table then s!"time data \"{s}\" doesn't match format \"{fmt}\""
    else s!"time data {Text.quote s} does not match format {Text.quote fmt}"
  let some hit := re.matchFrom text 0 false false | throw (.value noMatch)
  if hit.stop != text.size then
    let rest := String.ofList (text.extract hit.stop text.size).toList
    throw (.value (if r == .table then
      s!"unconverted data remains when parsing with format \"{fmt}\": \"{rest}\""
      else s!"unconverted data remains: {rest}"))
  let ampm := ((re.names.lookup "p").bind (hit.group? text)).getD ""
  let found ← re.names.foldlM (fun (f : Found) (name, i) =>
      match hit.group? text i with
      | some g => match f.take r ampm name g with
        | .ok f => pure f
        | .error e => throw (.value e)
      | none => pure f) {}
  match found.fields r with
  | .ok fields => pure fields
  | .error e => throw (.value e)

end PipeQuery.Time
