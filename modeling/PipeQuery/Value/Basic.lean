import PipeQuery.Json
import PipeQuery.Time.Civil
import PipeQuery.Text.Classes

/-!
# Values

The values that cells, literals and results hold: nothing, booleans, integers, doubles, texts,
instants and durations (in nanoseconds) with "not a time", the missing marker, lists and
dictionaries. A list carries an identity (`0` when not yet numbered), which takes no part in its
value, so that tables holding one list see its changes. `Value.toJson` writes a value as JSON,
tagged where JSON has no such value (`{"$ts": …}`, `{"$float": "nan"}`, …).
-/

namespace PipeQuery

inductive Value
  | none
  | bool (b : Bool)
  | int (n : Int)
  | float (x : Float)
  | str (s : String)
  | time (ns : Int)
  /-- An instant at a fixed offset: `ns` counts UTC nanoseconds from 1970-01-01, `offset` the
  seconds local time is ahead. -/
  | zoned (ns offset : Int)
  | nat
  | span (ns : Int)
  | na
  | list (items : List Value) (ident : Nat)
  | dict (members : List (String × Value))
  | complex (re im : Float)
  | other (kind text : String)
  deriving Inhabited

namespace Value

def floatJson (x : Float) : Json :=
  if x.isNaN then .obj [("$float", .str "nan")]
  else if x.isInf then .obj [("$float", .str (if x > 0 then "inf" else "-inf"))]
  else .float x

/-- A part of a complex number as written: the shortest digits that read back, no `.0` when whole
(`3`, `1.5`, `1e+16`, `inf`). -/
def partText (x : Float) : String :=
  Decimal.floatText { Decimal.standard with pointZero := false } x

/-- A complex number as written: `3j` when the real part is a positive zero, else `(re±imj)`. -/
def complexText (re im : Float) : String :=
  if re == 0.0 && !(1.0 / re < 0.0) then partText im ++ "j"
  else
    let imText := partText im
    let imText := if imText.startsWith "-" then imText else "+" ++ imText
    "(" ++ partText re ++ imText ++ "j)"

mutual

def toJson : Value → Json
  | none => .null
  | bool b => .bool b
  | int n => .int n
  | float x => floatJson x
  | str s => .str s
  | time ns => .obj [("$ts", .str (Time.isoText ns))]
  | zoned ns off => .obj [("$ts", .str (Time.isoText (ns + off * Time.nsPerSecond) ++ Time.offsetText off true))]
  | nat => .obj [("$nat", .bool true)]
  | span ns => .obj [("$td_ns", .int ns)]
  | na => .obj [("$na", .bool true)]
  | list items _ => .arr (listJson items)
  | dict members => .obj [("$dict", .arr (membersJson members))]
  | complex re im => .obj [("$other", .str "complex"), ("repr", .str (complexText re im))]
  | other kind text => .obj [("$other", .str kind), ("repr", .str text)]

def listJson : List Value → List Json
  | [] => []
  | v :: vs => toJson v :: listJson vs

def membersJson : List (String × Value) → List Json
  | [] => []
  | (k, v) :: ms => .arr [.str k, toJson v] :: membersJson ms

end

end Value

end PipeQuery

/-!
## The text of a value

Two written forms of a value: `Value.text`, the plain form a value is turned into when it is made
a text (`3`, `2.5`, `True`, `None`, `Alice`, `2024-01-01 00:00:00`), and `Value.repr`, the form
that shows its kind (`'Alice'`, `Timestamp('2024-01-01 00:00:00')`), which lists use for their
items. Doubles are written with the shortest digits that read back.
-/

namespace PipeQuery.Value

open Text

/-- A duration as `D days HH:MM:SS`, with any fraction of a second; a negative one counts days down
and the time up (`-1 days +23:58:00`). -/
def spanText (ns : Int) : String :=
  let days := ns / Time.nsPerDay
  let rest := ns % Time.nsPerDay
  let secs := rest / Time.nsPerSecond
  let nano := (rest % Time.nsPerSecond).toNat
  let frac :=
    if nano % 1000 != 0 then "." ++ Time.padNat 9 nano
    else if nano != 0 then "." ++ Time.padNat 6 (nano / 1000)
    else ""
  let clock := Time.padNat 2 (secs / 3600).toNat ++ ":" ++ Time.padNat 2 (secs % 3600 / 60).toNat
    ++ ":" ++ Time.padNat 2 (secs % 60).toNat ++ frac
  toString days ++ " days " ++ (if ns < 0 then "+" else "") ++ clock

/-- A double as text: shortest digits, `nan`, `inf`, `-inf`. -/
def floatText (x : Float) : String :=
  Decimal.showFloat x

def typeName : Value → String
  | none => "NoneType"
  | bool _ => "bool"
  | int _ => "int"
  | float _ => "float"
  | str _ => "str"
  | time _ | zoned _ _ => "Timestamp"
  | nat => "NaTType"
  | span _ => "Timedelta"
  | na => "NAType"
  | list _ _ => "list"
  | dict _ => "dict"
  | complex _ _ => "complex"
  | other kind _ => kind

def reprWith (plain : String) : Value → String
  | str s => quote s
  | time ns => "Timestamp(" ++ quote (Time.isoText ns " ") ++ ")"
  | zoned ns off =>
    let wall := Time.isoText (ns + off * Time.nsPerSecond) " " ++ Time.offsetText off false
    "Timestamp(" ++ quote wall ++ ", tz=" ++ quote (Time.zoneName off) ++ ")"
  | span ns => "Timedelta(" ++ quote (spanText ns) ++ ")"
  | _ => plain

mutual

def text : Value → String
  | none => "None"
  | bool b => if b then "True" else "False"
  | int n => toString n
  | float x => floatText x
  | str s => s
  | time ns => Time.isoText ns " "
  | zoned ns off => Time.isoText (ns + off * Time.nsPerSecond) " " ++ Time.offsetText off true
  | nat => "NaT"
  | span ns => spanText ns
  | na => "<NA>"
  | list items _ => "[" ++ itemsRepr items ++ "]"
  | dict members => "\x7b" ++ membersRepr members ++ "\x7d"
  | complex re im => complexText re im
  | other _ t => t

def itemsRepr : List Value → String
  | [] => ""
  | [v] => reprWith (text v) v
  | v :: vs => reprWith (text v) v ++ ", " ++ itemsRepr vs

def membersRepr : List (String × Value) → String
  | [] => ""
  | [(k, v)] => quote k ++ ": " ++ reprWith (text v) v
  | (k, v) :: ms => quote k ++ ": " ++ reprWith (text v) v ++ ", " ++ membersRepr ms

end

/-- The text of a value that shows its kind: texts are quoted. -/
def repr (v : Value) : String :=
  reprWith (text v) v

end PipeQuery.Value
