import PipeQuery.Table.Basic
import PipeQuery.Value.Basic
import PipeQuery.Value.Order
import PipeQuery.Decimal.Double
import PipeQuery.Table.Infer
import PipeQuery.Text.Case

/-!
# A column as text

`Column.listing` writes a column as one line per row (label, three blanks, value) and a line
`Name: qty, dtype: int64`, each kind in its own layout; past sixty rows only the first and last
five are listed.
-/

namespace PipeQuery

open Decimal

/-- Right-aligns texts to the longest of them, longer than fifty characters cut to fit. -/
def alignRight (xs : Array String) : Array String :=
  let width := min 50 (xs.foldl (fun w x => max w x.length) 0)
  xs.map fun x =>
    let x := if x.length > width then String.ofList (x.toList.take (width - 3)) ++ "..." else x
    String.ofList (List.replicate (width - x.length) ' ') ++ x

def alignLeft (xs : Array String) : Array String :=
  let width := xs.foldl (fun w x => max w x.length) 0
  xs.map fun x => x ++ String.ofList (List.replicate (width - x.length) ' ')

def hasPointDigits (s : String) : Bool :=
  let body := (s.toList.dropWhile (· == ' ')).dropWhile (fun c => c == '+' || c == '-')
  let (whole, rest) := body.span Char.isDigit
  !whole.isEmpty && (match rest with
    | '.' :: frac => frac.all Char.isDigit
    | _ => false)

/-- Drops the trailing zeros that all written doubles share, keeping one after the point. -/
def trimZeros (xs : Array String) : Array String :=
  let rec go : Nat → Array String → Array String
    | 0, ys => ys
    | fuel + 1, ys =>
      let nums := ys.filter hasPointDigits
      if !nums.isEmpty && nums.all (·.endsWith "0") then
        go fuel (ys.map fun y => if hasPointDigits y then String.ofList y.toList.dropLast else y)
      else ys
  (go 8 xs).map fun y => if hasPointDigits y && y.endsWith "." then y ++ "0" else y

def trimmedFloat (x : Float) : String :=
  let s := String.ofList ((fixedText x 6 true).toList.reverse.dropWhile (· == '0')).reverse
  if s.endsWith "." then s ++ "0" else s

def floatCells (cells : Array Value) : Array String :=
  let xs := cells.map fun v => match v with
    | .float x => x
    | .int n => Num.intToFloat n
    | _ => 0.0 / 0.0
  let write (sci : Bool) : Array String :=
    trimZeros (xs.map fun x =>
      if x.isNaN then "NaN" else if sci then sciText x 6 true else fixedText x 6 true)
  let plain := write false
  let longest := plain.foldl (fun w x => max w x.length) 0
  let large := xs.any fun x => !x.isNaN && x.abs > 1e6
  let small := xs.any fun x => !x.isNaN && x.abs < 1e-6 && x.abs > 0
  if small || (longest > 12 && large) then write true else plain

def looseCell (v : Value) : String :=
  match v with
  | .float x => if x.isNaN then " NaN" else trimmedFloat x
  | .none => " None"
  | .nat => " NaT"
  | .str s => " " ++ ((s.replace "\t" "\\t").replace "\n" "\\n").replace "\r" "\\r"
  | v => " " ++ v.text

/-- The fraction digits a column of instants shows: the finest any needs, nine, six, three or none.
-/
def fractionDigits (cells : Array Value) : Nat :=
  cells.foldl (fun d v => match v with
    | .time ns | .zoned ns _ =>
      let sub := ns % Time.nsPerSecond
      max d (if ns % 1000 != 0 then 9 else if sub % 1000000 != 0 then 6 else if sub != 0 then 3 else 0)
    | _ => d) 0

/-- An instant's wall time in a column: the date alone when `datesOnly`, else with the time and
`digits` fraction digits. -/
def wallCell (datesOnly : Bool) (digits : Nat) (ns : Int) : String :=
  let s := Time.Stamp.ofNanos ns
  if datesOnly then s.date.isoText
  else
    let frac := if digits == 0 then "" else "." ++ Time.padNat digits (s.nano / Nat.pow 10 (9 - digits))
    s.date.isoText ++ " " ++ Time.padNat 2 s.hour ++ ":" ++ Time.padNat 2 s.minute ++ ":" ++
      Time.padNat 2 s.second ++ frac

/-- The text of an instant in a column; one at an offset from UTC shows its local time and the
offset. -/
def stampCell (datesOnly : Bool) (digits : Nat) (v : Value) : String :=
  match v with
  | .time ns => wallCell datesOnly digits ns
  | .zoned ns off => wallCell false digits (ns + off * Time.nsPerSecond) ++ Time.offsetText off true
  | _ => "NaT"

/-- The text of a duration in a column: whole days alone (`2 days`) when `daysOnly`. -/
def spanCell (daysOnly : Bool) (v : Value) : String :=
  match v with
  | .span ns => if daysOnly then toString (ns / Time.nsPerDay) ++ " days" else Value.spanText ns
  | _ => "NaT"

def Column.cellTexts (c : Column) : Array String :=
  match c.dtype with
  | .float64 => floatCells c.cells
  | .datetime =>
    let datesOnly := c.cells.all fun v => match v with
      | .time ns => ns % Time.nsPerDay == 0
      | _ => true
    c.cells.map (stampCell datesOnly (fractionDigits c.cells))
  | .zoned _ | .zone _ => c.cells.map (stampCell false (fractionDigits c.cells))
  | .duration =>
    let daysOnly := c.cells.all fun v => match v with
      | .span ns => ns % Time.nsPerDay == 0
      | _ => true
    c.cells.map (spanCell daysOnly)
  | .int64 | .int32 | .int16 | .int8 | .uint64 | .uint32 | .uint16 | .uint8 | .bool => c.cells.map fun v => " " ++ v.text
  | _ => c.cells.map looseCell

/-- The lines of a column's rows, each led by its row label. -/
def Column.rowLines (c : Column) (index : Array Value) (cut : Bool) : List String :=
  let n := c.size
  let rows := if cut then (Array.range 5) ++ (Array.range 5).map (· + (n - 5)) else Array.range n
  let part := c.pick rows
  let values := alignRight part.cellTexts
  let labels := rows.map fun i => (index.getD i (.int i)).text
  let (values, labels) :=
    if cut then
      let width := (values.getD 4 "").length
      let dots := if width > 3 then "..." else ".."
      let pad := width - dots.length
      let centred := String.ofList (List.replicate (pad / 2) ' ') ++ dots ++
        String.ofList (List.replicate (pad - pad / 2) ' ')
      ((values.extract 0 5).push centred ++ values.extract 5 10,
        (labels.extract 0 5).push "" ++ labels.extract 5 10)
    else (values, labels)
  let labels := alignLeft labels
  (labels.zip values).toList.map fun (l, v) => l ++ "   " ++ v

/-- The text of a whole column with its row labels and a last line with its name and type. -/
def Column.listing (c : Column) (index : Array Value) : String :=
  let n := c.size
  let cut := n > 60
  let lines := c.rowLines index cut
  let parts := (match c.label with
    | .none => []
    | l => ["Name: " ++ l.text]) ++ (if cut then [s!"Length: {n}"] else []) ++ ["dtype: " ++ c.dtype.name]
  let footer := ", ".intercalate parts
  if n == 0 then "Series([], " ++ footer ++ ")"
  else "\n".intercalate lines ++ "\n" ++ footer

/-- The text of columns side by side under their labels. -/
def Column.framed (cols : List Column) (index : Array Value) : String :=
  let labels := alignLeft (index.map (·.text))
  let width := (labels.getD 0 "").length
  let blocks := cols.map fun c => alignRight (#[c.label.text] ++ c.cellTexts.map fun t => String.ofList (t.toList.dropWhile (· == ' ')))
  let line (i : Nat) (lead : String) : String :=
    lead ++ String.join (blocks.map fun b => "  " ++ b.getD i "")
  let header := line 0 (String.ofList (List.replicate width ' '))
  "\n".intercalate (header :: (List.range index.size).map fun i => line (i + 1) (labels.getD i ""))

/-!
## Text operations on columns

Text operations apply to a column of mixed values that is `textual`, value by value: texts are
transformed, missing values stay, other values give NaN. `Column.texts` writes each value as a
whole column is written.
-/

namespace Column

def textual (c : Column) : Bool :=
  c.dtype == .object &&
    let present := c.cells.toList.filter fun v => match v with
      | .none | .na => false
      | .float x => !x.isNaN
      | _ => true
    match present with
    | [] => true
    | .str _ :: _ => true
    | .int _ :: _ => !present.all fun v => match v with
      | .int _ | .float _ => true
      | _ => false
    | .float _ :: _ => !present.all fun v => match v with
      | .int _ | .float _ => true
      | _ => false
    | .bool _ :: _ => !present.all fun v => match v with
      | .bool _ => true
      | _ => false
    | .time _ :: _ => !present.all fun v => match v with
      | .time _ => true
      | _ => false
    | .nat :: _ => false
    | _ => true

/-- A text operation value by value: texts through `f`, missing values kept, others NaN; the kind
inferred unless all were missing. -/
def mapText (f : String → Value) (c : Column) : Column :=
  let cells := c.cells.map fun v => match v with
    | .str s => f s
    | v => if v.isMissing then v else Value.nan
  if c.cells.all (·.isMissing) then { c with cells, dtype := .object }
  else
    let (dtype, cells) := inferCells cells
    { c with cells, dtype }

def textLength (c : Column) : Column :=
  let cells := c.cells.map fun v => match v with
    | .str s => .int s.length
    | .list xs _ => .int xs.length
    | .dict ms => .int ms.length
    | v => if v.isMissing then v else Value.nan
  if c.cells.all (·.isMissing) then { c with cells, dtype := .object }
  else
    let (dtype, cells) := inferCells cells
    { c with cells, dtype }

def texts (c : Column) : Array String :=
  match c.dtype with
  | .datetime =>
    let datesOnly := c.cells.all fun v => match v with
      | .time ns => ns % Time.nsPerDay == 0
      | _ => true
    c.cells.map (stampCell datesOnly (fractionDigits c.cells))
  | .duration =>
    let daysOnly := c.cells.all fun v => match v with
      | .span ns => ns % Time.nsPerDay == 0
      | _ => true
    c.cells.map (spanCell daysOnly)
  | _ => c.cells.map (·.text)

end Column

end PipeQuery
