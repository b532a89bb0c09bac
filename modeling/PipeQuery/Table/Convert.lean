import PipeQuery.Table.Infer
import PipeQuery.Decimal.Scaled
import PipeQuery.Table.Show
import PipeQuery.Time.Strftime
import PipeQuery.Time.Guess

/-!
# Converting columns

`Column.toNumbers` reads each value as a number (NaN when it does not read); `Column.toInstants`
reads values as instants, by a given or guessed pattern or each on its own, numbers counting
nanoseconds from 1970; `Column.timeField` takes a field of each instant.
-/

namespace PipeQuery

structure NumberSeen where
  /-- a missing value or one that does not read -/
  missing : Bool := false
  /-- a value that forces doubles -/
  float : Bool := false
  /-- an integer -/
  int : Bool := false
  /-- a negative integer -/
  negative : Bool := false
  /-- an integer above the signed 64-bit range -/
  big : Bool := false
  /-- a boolean -/
  bool : Bool := false

/-- One value's readings: as a double, as a signed and as an unsigned 64-bit integer. -/
structure NumberCell where
  float : Float
  int : Int := 0
  uint : Int := 0

/-- The infinity spellings a numeric reading accepts, any ASCII case, nothing around them. -/
def infinityWord? (s : String) : Option Float :=
  let w := String.ofList (s.toList.map Char.toLower)
  if w == "inf" || w == "+inf" || w == "infinity" || w == "+infinity" then some (1.0 / 0.0)
  else if w == "-inf" || w == "-infinity" then some (-(1.0 / 0.0))
  else none

def integralText (s : String) : Int :=
  let cs := (s.toList.dropWhile Decimal.scaledBlank).reverse.dropWhile Decimal.scaledBlank
  match cs.reverse with
  | '-' :: ds => -(Time.digitsNat ds : Int)
  | '+' :: ds => Time.digitsNat ds
  | ds => Time.digitsNat ds

namespace NumberSeen

def sawInt (s : NumberSeen) (n : Int) : NumberSeen :=
  { s with int := true, negative := s.negative || (Seen.int64Min ≤ n && n < 0),
           big := s.big || (Seen.int64Max < n && n ≤ Seen.uint64Max) }

def sawMissing (s : NumberSeen) : NumberSeen :=
  { s with missing := true, float := true }

def takeInt (s : NumberSeen) (n : Int) : NumberSeen × NumberCell :=
  let s := s.sawInt n
  let s := if n ≥ 0 && n > Seen.uint64Max then { s with float := true } else s
  let s := if n < Seen.int64Min || (s.negative && s.big) then { s with float := true } else s
  (s, { float := Num.intToFloat n, int := n, uint := n })

/-- A text met: read as a scaled decimal or an infinity; an integral one is also an integer. -/
def takeText (s : NumberSeen) (t : String) : NumberSeen × NumberCell :=
  let read := match Decimal.readScaled? t with
    | some r => some r
    | none => (infinityWord? t).map fun x => (x, false)
  match read with
  | none => (s.sawMissing, { float := 0.0 / 0.0 })
  | some (x, false) => ({ s with float := true }, { float := x })
  | some (x, true) =>
    let n := integralText t
    let s := s.sawInt n
    let s := if n < Seen.int64Min || n > Seen.uint64Max then { s with float := true } else s
    ({ s with float := s.float || (s.big && s.negative) }, { float := x, int := n, uint := n })

def take (s : NumberSeen) (v : Value) : NumberSeen × NumberCell :=
  match v with
  | .float x => ({ s with missing := s.missing || x.isNaN, float := true }, { float := x })
  | .int n => s.takeInt n
  | .bool b =>
    let n : Int := if b then 1 else 0
    ({ s with bool := true }, { float := if b then 1.0 else 0.0, int := n, uint := n })
  | .str t => if t.isEmpty then (s.sawMissing, { float := 0.0 / 0.0 }) else s.takeText t
  | _ => (s.sawMissing, { float := 0.0 / 0.0 })

end NumberSeen

/-- The integers of a column of integers, booleans or whole doubles all in the signed 64-bit range.
-/
def wholeInts? (cells : Array Value) : Option (Array Value) :=
  match cells[0]? with
  | some (Value.int _) =>
    cells.mapM fun (v : Value) => match v with
      | .int n => if Seen.int64Min ≤ n && n ≤ Seen.int64Max then some (Value.int n) else none
      | .bool b => some (.int (if b then 1 else 0))
      | .float x =>
        if x.isNaN || x.isInf || x < -9223372036854775808.0 || x ≥ 9223372036854775808.0 then none
        else
          let n := Num.truncate x
          if Num.intToFloat n == x then some (.int n) else none
      | _ => none
  | _ => none

/-- Values read as numbers, unreadable ones NaN; a double, missing value or fractional text makes
all doubles. -/
def readNumbers (cells : Array Value) : DType × Array Value :=
  match wholeInts? cells with
  | some ints => (.int64, ints)
  | none =>
    let (seen, out) := cells.foldl (fun (acc : NumberSeen × Array NumberCell) v =>
      let (s, c) := acc.1.take v
      (s, acc.2.push c)) (({} : NumberSeen), #[])
    if seen.float then (.float64, out.map fun c => .float c.float)
    else if seen.int then
      if seen.big then (.uint64, out.map fun c => .int c.uint)
      else (.int64, out.map fun c => .int c.int)
    else if seen.bool then (.bool, out.map fun c => .bool (c.int == 1))
    else (.int64, out.map fun c => .int c.int)

/-- A value read as a number: numbers and booleans as they are, others as a one-value column. -/
def Value.toNumber (v : Value) : Value :=
  match v with
  | .int _ | .float _ | .bool _ => v
  | _ => ((readNumbers #[v]).2)[0]?.getD Value.nan

namespace Column

/-- Each value read as a number; number columns stay, instants and durations give nanoseconds. -/
def toNumbers (c : Column) : Column :=
  match c.dtype with
  | .object =>
    let (dtype, cells) := readNumbers c.cells
    { c with dtype, cells }
  | .datetime | .duration =>
    { c with dtype := .int64, cells := c.cells.map fun v => match v with
      | .time ns | .span ns => .int ns
      | _ => .int Seen.int64Min }
  | _ => c

end Column

def Fault.extend (f : Fault) (more : String) : Fault :=
  { f with text := f.text ++ more }

namespace Time

def patternAdvice (i : Nat) : String :=
  s!", at position {i}. You might want to try:\n" ++
    "    - passing `format` if your strings have a consistent format;\n" ++
    "    - passing `format='ISO8601'` if your strings are all ISO8601 but not necessarily in exactly the same format;\n" ++
    "    - passing `format='mixed'`, and the format will be inferred for each element individually. You might want to use `dayfirst` alongside this."

/-- The instant of a text read on its own, within 64-bit nanoseconds, with the zone's offset. -/
def instantOfText (order : DateOrder) (s : String) : Outcome (Option (Int × Option Int)) := do
  match ← readInstantWith order s with
  | .missing => return none
  | .stamp wall offset fine =>
    if !fitsNanos wall then
      if fine then
        let t := Stamp.ofNanos wall
        let p : IsoParts := { year := t.date.year, month := t.date.month, day := t.date.day }
        let p := { p with hour := t.hour, minute := t.minute, second := t.second }
        throw (Fault.inner .outOfBounds s!"Out of bounds nanosecond timestamp: {partsText p}")
      else throw (outOfNanos s)
    return some (wall - offset.getD 0 * nsPerSecond, offset)

end Time

/-- How the values of a column are read as instants: by a pattern, or each on its own. -/
inductive Reading
  | pattern (fmt : String)
  | loose (order : Time.DateOrder)
  deriving Inhabited

/-- A value standing for a missing instant before reading: nothing, NaN, "not a time" and the
missing marker. -/
def Value.missingInstant : Value → Bool
  | .none | .nat | .na => true
  | .float x => x.isNaN
  | _ => false

/-- One value read as an instant at position `i`; failures forgiven give "not a time". -/
def Value.toInstantBy (how : Reading) (coerce : Bool) (i : Nat) (v : Value) : Outcome Value :=
  let fail (f : Fault) : Outcome Value := if coerce then pure .nat else throw f
  let instant (r : Outcome (Option (Int × Option Int))) (more : String) : Outcome Value :=
    match r with
    | .ok (some (ns, Option.none)) => pure (.time ns)
    | .ok (some (ns, some off)) => pure (.zoned ns off)
    | .ok Option.none => pure .nat
    | .error f => fail (f.extend more)
  let byPattern (fmt s : String) : Outcome Value :=
    instant (do
      match ← Time.readByPattern fmt s with
      | .missing => pure Option.none
      | .stamp wall offset _ => pure (some (wall - offset.getD 0 * Time.nsPerSecond, offset))) (Time.patternAdvice i)
  if v.missingInstant then pure .nat
  else
    match v with
    | .time ns => pure (.time ns)
    | .zoned ns off => pure (.zoned ns off)
    | _ =>
      match how with
      | .pattern fmt =>
        match v with
        | .str s => byPattern fmt s
        | .int n => if n == Seen.int64Min then pure .nat else byPattern fmt (toString n)
        | v => byPattern fmt v.text
      | .loose order =>
        match v with
        | .str s => instant (Time.instantOfText order s) s!", at position {i}"
        | .int n => if n == Seen.int64Min then pure .nat else pure (.time n)
        | .float x =>
          if x.isInf || x.abs ≥ 9223372036854775808.0 then
            fail (Fault.inner .outOfBounds s!"cannot convert input {Value.floatText x} with the unit 'ns', at position {i}")
          else
            let n := Num.truncate x
            if n == Seen.int64Min then pure .nat else pure (.time n)
        | v => fail (Fault.inner .typeError s!"<class '{v.typeName}'> is not convertible to datetime, at position {i}")

/-- The first present value: not missing, nor a text for a missing instant, `now` or `today`. -/
def firstPresent? (cells : Array Value) : Option Value :=
  cells.toList.find? fun v => match v with
    | .str s => !(s.isEmpty || Time.missingTexts.contains s || s == "now" || s == "today")
    | v => !v.missingInstant

/-- How values are read: by the given pattern, by one guessed from the first present text, else each
alone. -/
def Reading.choose (fmt : Option String) (order : Time.DateOrder) (cells : Array Value) : Reading :=
  match fmt with
  | some "mixed" => .loose order
  | some f => .pattern f
  | none =>
    match firstPresent? cells with
    | some (.str s) => match Time.guessPattern order.dayFirst s with
      | some p => .pattern p
      | none => .loose order
    | _ => .loose order

def Reading.check : Reading → Outcome Unit
  | .pattern fmt =>
    match Time.patternProblem? .table fmt with
    | some (.value m) => throw (Fault.inner .valueError m)
    | some (.pattern m) => throw (Fault.inner .regexError m)
    | none => pure ()
  | .loose _ => pure ()

/-- A double cell as nanoseconds, as a cast to instants does: truncated, with NaN and values past 64
bits "not a time". -/
def Value.castToNanos : Value → Value
  | .float x =>
    if x.isNaN || x.isInf || x.abs ≥ 9223372036854775808.0 then .nat
    else
      let n := Num.truncate x
      if n == Seen.int64Min then .nat else .int n
  | v => v

/-- A value read as an instant as a one-value array is: a text alone or by the given pattern, never
a guessed one. -/
def Value.toInstant (coerce : Bool) (fmt : Option String) (v : Value) : Outcome Value := do
  match v with
  | .time ns => pure (.time ns)
  | .bool _ =>
    if coerce then pure .nat
    else throw (Fault.inner .typeError "dtype bool cannot be converted to datetime64[ns]")
  | _ =>
    let v := v.castToNanos
    let how : Reading := match fmt with
      | some "mixed" | Option.none => .loose {}
      | some f => .pattern f
    how.check
    v.toInstantBy how coerce 0

/-- An instant's local time in nanoseconds from 1970-01-01: its own without an offset, else UTC
moved by it. -/
def Value.wallNanos? : Value → Option Int
  | .time ns => some ns
  | .zoned ns off => some (ns + off * Time.nsPerSecond)
  | _ => Option.none

def Value.dropZone : Value → Value
  | .zoned ns _ => .time ns
  | v => v

namespace Column

/-- Instants read from texts: at the one offset they all share, if any; else each kept as its UTC
time. -/
def settleZones (c : Column) : Column :=
  let offsets := (c.cells.toList.filterMap fun v => match v with
    | .zoned _ off => some off
    | _ => Option.none).eraseDups
  let naive := c.cells.any fun v => v matches .time _
  match offsets with
  | [] => c
  | [off] =>
    if !naive then { c with dtype := .zoned off }
    else { c with cells := c.cells.map Value.dropZone }
  | _ => { c with cells := c.cells.map Value.dropZone }

def toInstantsWith (coerce : Bool) (fmt : Option String) (order : Time.DateOrder) (c : Column) :
    Outcome Column := do
  let allMissing : Column := { c with dtype := .datetime, cells := c.cells.map fun _ => .nat }
  match c.dtype with
  | .datetime | .zoned _ => pure c
  | .bool =>
    if coerce then pure allMissing
    else throw (Fault.inner .typeError "dtype bool cannot be converted to datetime64[ns]")
  | .duration =>
    if coerce then pure allMissing
    else throw (Fault.inner .typeError "dtype timedelta64[ns] cannot be converted to datetime64[ns]")
  | d =>
    let cells := if d == .float64 then c.cells.map Value.castToNanos else c.cells
    let how := Reading.choose fmt order cells
    how.check
    let out ← (List.range cells.size).mapM fun i => (cells.getD i .none).toInstantBy how coerce i
    pure (settleZones { c with dtype := .datetime, cells := out.toArray })

def toInstants (coerce : Bool) (fmt : Option String) (c : Column) : Outcome Column :=
  c.toInstantsWith coerce fmt {}

inductive TimeField
  | year | month | day | hour | minute | second | dayOfWeek
  deriving DecidableEq, Repr, Inhabited

def TimeField.of (f : TimeField) (ns : Int) : Int :=
  let s := Time.Stamp.ofNanos ns
  match f with
  | .year => s.date.year
  | .month => s.date.month
  | .day => s.date.day
  | .hour => s.hour
  | .minute => s.minute
  | .second => s.second
  | .dayOfWeek => Time.weekday (ns / Time.nsPerDay)

/-- A field of each instant (of its local time, for an instant at an offset): 32-bit integers, or
doubles with NaN when an instant is missing. -/
def instantField (c : Column) (f : Int → Int) : Column :=
  let cells := c.cells.map fun v => match v.wallNanos? with
    | some ns => Value.int (f ns)
    | none => Value.nan
  if cells.any (·.isMissing) then { c with dtype := .float64, cells := cells.map Value.asFloat }
  else { c with dtype := .int32, cells }

def timeField (f : TimeField) (c : Column) : Column :=
  c.instantField f.of

def formatInstants (fmt : String) (c : Column) : Column :=
  { c with dtype := .object, cells := c.cells.map fun v => match v with
    | .time ns => .str (Time.strftime fmt ns)
    | .zoned ns off => .str (Time.strftimeAt fmt ns off)
    | _ => Value.nan }

def toTexts (c : Column) : Column :=
  { c with dtype := .object, cells := c.texts.map Value.str }

end Column

end PipeQuery
