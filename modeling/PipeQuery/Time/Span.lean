import PipeQuery.Time.Civil
import PipeQuery.Decimal.Double
import PipeQuery.Value.Order
import PipeQuery.Text.Numeral

/-!
# Spans written as text, and fixed frequencies

`readSpan` reads a span as the table library does (`1h`, `1.5 days`, `2 days 03:04:05.5`,
`-1h30m`): parts of a number and a unit, a clock `hh:mm:ss`, a leading `-` negating all, a bare
number at the end as nanoseconds; a fraction is rounded to the unit's digits of nanoseconds
(`castFromUnit`). `frequencyNanos` reads a fixed frequency (`15min`, `2D`) as nanoseconds;
calendar frequencies fail.
-/

namespace PipeQuery.Time

def unitNanos : String → Int
  | "W" => 7 * nsPerDay
  | "D" => nsPerDay
  | "h" => nsPerHour
  | "m" => nsPerMinute
  | "s" => nsPerSecond
  | "ms" => 1000000
  | "us" => 1000
  | _ => 1

def spanUnit (unit : String) : Except String String := do
  if ["M", "Y", "y"].contains unit then
    throw "Units 'M', 'Y' and 'y' do not represent unambiguous timedelta values and are not supported."
  let unit := match unit with
    | "H" => "h"
    | "T" => "min"
    | "S" => "s"
    | "L" => "ms"
    | "U" => "us"
    | "N" => "ns"
    | u => u
  match unit.toLower with
  | "w" => pure "W"
  | "d" | "days" | "day" => pure "D"
  | "hours" | "hour" | "hr" | "h" => pure "h"
  | "m" | "minute" | "min" | "minutes" => pure "m"
  | "s" | "seconds" | "sec" | "second" => pure "s"
  | "ms" | "milliseconds" | "millisecond" | "milli" | "millis" => pure "ms"
  | "us" | "microseconds" | "microsecond" | "µs" | "micro" | "micros" => pure "us"
  | "ns" | "nanoseconds" | "nano" | "nanos" | "nanosecond" => pure "ns"
  | "y" => pure "Y"
  | _ => throw s!"invalid unit abbreviation: {unit}"

/-- A double rounded to `p` decimals correctly, a tie to the even multiple. -/
def roundDecimals (x : Float) (p : Nat) : Float :=
  if x.isNaN || x.isInf then x
  else
    let b := Decimal.Binary.ofBits x.toBits
    let r := (Num.ratioToFloat? (Decimal.Binary.scaled b p) (Nat.pow 10 p)).getD (1.0 / 0.0)
    if x < 0.0 then -r else r

/-- The decimal digits of a unit's nanoseconds less one: the decimals a fraction of it rounds to. -/
def unitPlaces (m : Int) : Nat :=
  (toString m.natAbs).length - 1

/-- `x` units of `m` nanoseconds, as nanoseconds. -/
def castFromUnit (x : Float) (m : Int) : Int :=
  let whole := Num.truncate x
  let frac := x - Num.intToFloat whole
  let places := unitPlaces m
  let frac := if places > 0 then roundDecimals frac places else frac
  whole * m + Num.truncate (frac * Num.intToFloat m)

def partNanos (number frac unit : List Char) : Except String Int := do
  let u ← spanUnit (String.ofList unit)
  let text := String.ofList number ++ "." ++ String.ofList frac
  let x := (Text.readFloat? text).getD 0.0
  pure (castFromUnit x (unitNanos u))

structure SpanState where
  negative : Bool := false
  dot : Bool := false
  value : Bool := false
  clock : Bool := false
  field : Option String := none
  number : List Char := []
  frac : List Char := []
  unit : List Char := []
  total : Int := 0
  deriving Inhabited

def SpanState.add (st : SpanState) (r : Int) : SpanState :=
  { st with total := st.total + (if st.negative then -r else r) }

def digitsValue (ds : List Char) : Int :=
  ds.foldl (fun acc c => acc * 10 + (c.toNat - 48 : Nat)) 0

def SpanState.step (text : String) (st : SpanState) (c : Char) : Except String SpanState := do
  if c == ' ' || c == ',' || c == '+' then pure st
  else if c == '-' then
    if st.negative || st.value || st.clock then throw "only leading negative signs are allowed"
    pure { st with negative := true }
  else if '0' ≤ c && c ≤ '9' then
    if st.dot then
      if !st.unit.isEmpty then pure { st with number := st.number ++ [c], dot := false }
      else pure { st with frac := st.frac ++ [c] }
    else if st.unit.isEmpty then pure { st with number := st.number ++ [c] }
    else
      let r ← partNanos st.number st.frac st.unit
      pure { (st.add r) with unit := [], number := [c], frac := [] }
  else if c == ':' then
    let st := if st.value then { st with negative := false } else st
    if st.number.isEmpty then throw s!"expecting hh:mm:ss format, received: {text}"
    let (field, m) := match st.field with
      | none => ("h", nsPerHour)
      | some "h" => ("m", nsPerMinute)
      | some _ => ("s", nsPerSecond)
    let st := st.add (digitsValue st.number * m)
    pure { st with field := some field, clock := true, unit := [], number := [] }
  else if c == '.' then
    if !st.number.isEmpty && st.field.isSome then
      if st.field != some "m" then throw "expected hh:mm:ss format before ."
      let st := st.add (digitsValue st.number * nsPerSecond)
      pure { st with value := true, unit := [], number := [], frac := [], dot := true }
    else pure { st with dot := true }
  else pure { st with unit := st.unit ++ [c], value := true, dot := false }

def fractionNanos (frac : List Char) : Int :=
  let n := frac.length
  let frac := if n > 9 then frac.take 9 else frac
  let scale : Nat := if n ≤ 3 then Nat.pow 10 (3 - n) * 1000000
    else if n ≤ 6 then Nat.pow 10 (6 - n) * 1000 else if n ≤ 9 then Nat.pow 10 (9 - n) else 1
  digitsValue frac * scale

def readSpan (text : String) : Except String Int := do
  let st ← text.toList.foldlM (SpanState.step text) {}
  if st.dot && !st.unit.isEmpty then
    pure (st.add (← partNanos st.number st.frac st.unit)).total
  else if st.dot then
    if (!st.number.isEmpty || !st.frac.isEmpty) && st.unit.isEmpty && st.field.isNone then
      throw "no units specified"
    pure (st.add (fractionNanos st.frac)).total
  else if st.field.isSome then
    if st.field != some "m" then throw "expected hh:mm:ss format"
    pure (st.add (digitsValue st.number * nsPerSecond)).total
  else if !st.unit.isEmpty then
    if st.number.isEmpty then throw "unit abbreviation w/o a number"
    pure (st.add (← partNanos st.number st.frac st.unit)).total
  else if st.number.isEmpty then throw "symbols w/o a number"
  else if st.value then throw "have leftover units"
  else pure (st.add (← partNanos st.number st.frac ['n', 's'])).total

def fixedUnitNanos? : String → Option Int
  | "D" => some nsPerDay
  | "h" | "H" => some nsPerHour
  | "min" | "T" => some nsPerMinute
  | "s" | "S" => some nsPerSecond
  | "ms" | "L" => some 1000000
  | "us" | "U" => some 1000
  | "ns" | "N" => some 1
  | _ => none

def calendarFrequency? : String → Option String
  | "W" => some "<Week: weekday=6>"
  | "M" | "ME" => some "<MonthEnd>"
  | "MS" => some "<MonthBegin>"
  | "Y" | "YE" | "A" => some "<YearEnd: month=12>"
  | "YS" | "AS" => some "<YearBegin: month=1>"
  | "Q" | "QE" => some "<QuarterEnd: startingMonth=12>"
  | "QS" => some "<QuarterBegin: startingMonth=1>"
  | "B" => some "<BusinessDay>"
  | _ => none

/-- A fixed frequency in nanoseconds, or the failure's text. -/
def frequencyNanos (freq : String) : Except String Int := do
  let rec parts (fuel : Nat) (cs : List Char) (acc : Int) : Except String Int :=
    match fuel with
    | 0 => pure acc
    | fuel + 1 =>
      let cs := cs.dropWhile (· == ' ')
      if cs.isEmpty then pure acc
      else
        let digits := cs.takeWhile Char.isDigit
        let rest := (cs.drop digits.length).dropWhile (· == ' ')
        let name := String.ofList (rest.takeWhile Char.isAlpha)
        let count : Int := if digits.isEmpty then 1 else digitsValue digits
        if name.isEmpty then throw s!"Invalid frequency: {freq}"
        else match fixedUnitNanos? name with
          | some m => parts fuel (rest.drop name.length) (acc + count * m)
          | none =>
            match calendarFrequency? name with
            | some d => throw s!"{d} is a non-fixed frequency"
            | none => throw s!"Invalid frequency: {freq}"
  if freq.isEmpty then throw s!"Invalid frequency: {freq}"
  parts (freq.length + 1) freq.toList 0

/-- The name of a fixed frequency in its current spelling (`2H` is `2h`, `1h30min` is `90min`). -/
def frequencyText (freq : String) (nanos : Int) : String :=
  let cs := freq.toList.filter (· != ' ')
  let digits := cs.takeWhile Char.isDigit
  let unit := String.ofList (cs.drop digits.length)
  let named (n : Int) (u : String) : String := (if n == 1 then "" else toString n) ++ u
  let current : List (String × String) := [("D", "D"), ("h", "h"), ("H", "h"), ("min", "min"),
    ("T", "min"), ("s", "s"), ("S", "s"), ("ms", "ms"), ("L", "ms"), ("us", "us"), ("U", "us"),
    ("ns", "ns"), ("N", "ns")]
  match current.lookup unit with
  | some u => named (if digits.isEmpty then 1 else digitsValue digits) u
  | none =>
    let units : List (String × Int) := [("D", nsPerDay), ("h", nsPerHour), ("min", nsPerMinute),
      ("s", nsPerSecond), ("ms", 1000000), ("us", 1000)]
    match units.find? fun (_, m) => nanos % m == 0 with
    | some (u, m) => named (nanos / m) u
    | none => named nanos "ns"

end PipeQuery.Time
