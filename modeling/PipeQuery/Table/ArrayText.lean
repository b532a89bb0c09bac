import PipeQuery.Table.Show
import PipeQuery.Table.Arith

/-!
# Arrays and row labels as text

`Column.arrayText` writes a column as a plain array: values between brackets, lines of at most 75
characters, `...` past 1000 values, each kind in its own layout (doubles aligned on the point, or
in scientific form for wide ranges). `Column.indexText` writes row labels as `RangeIndex(…)` or
`Index([…], dtype='…')`.
-/

namespace PipeQuery

namespace ArrayText

def shortestOf (x : Float) : Decimal.Dec :=
  (Decimal.Binary.ofBits x.abs.toBits).shortest

/-- A double in positional form, the fewest digits that read back, at most `precision`. -/
def positional (x : Float) (precision : Nat) : String × String :=
  let sign := if x.toBits >>> 63 == 1 then "-" else ""
  if x == 0.0 then (sign ++ "0", "")
  else
    let d := shortestOf x
    let ds := Nat.repr d.digits
    let (whole, frac) :=
      if 0 ≤ d.exp then (ds ++ Decimal.zeros d.exp.toNat, "")
      else
        let k : Int := ds.length + d.exp
        if k > 0 then (String.ofList (ds.toList.take k.toNat), String.ofList (ds.toList.drop k.toNat))
        else ("0", Decimal.zeros (-k).toNat ++ ds)
    if frac.length ≤ precision then (sign ++ whole, frac)
    else
      let t := Decimal.fixedText x.abs precision false
      let (w, f) := match t.splitOn "." with
        | [w, f] => (w, f)
        | _ => (t, "")
      let f := String.ofList ((f.toList.reverse.dropWhile (· == '0')).reverse)
      (sign ++ w, f)

/-- A double in scientific form, the fewest digits that read back, at most `precision`. -/
def scientific (x : Float) (precision : Nat) : String × String × Int :=
  let sign := if x.toBits >>> 63 == 1 then "-" else ""
  if x == 0.0 then (sign ++ "0", "", 0)
  else
    let d := shortestOf x
    let ds := Nat.repr d.digits
    let lead : Int := d.exp + ds.length - 1
    if ds.length - 1 ≤ precision then
      (sign ++ String.ofList (ds.toList.take 1), String.ofList (ds.toList.drop 1), lead)
    else
      let t := Decimal.sciText x.abs precision false
      match t.splitOn "e" with
      | [m, e] =>
        let (w, f) := match m.splitOn "." with
          | [w, f] => (w, f)
          | _ => (m, "")
        let f := String.ofList ((f.toList.reverse.dropWhile (· == '0')).reverse)
        let ev : Int := match e.toList with
          | '-' :: rest => -(String.ofList rest).toNat!
          | '+' :: rest => (String.ofList rest).toNat!
          | rest => (String.ofList rest).toNat!
        (sign ++ w, f, ev)
      | _ => (sign ++ t, "", 0)

def padLeft (s : String) (width : Nat) : String :=
  String.ofList (List.replicate (width - s.length) ' ') ++ s

def padRight (s : String) (width : Nat) : String :=
  s ++ String.ofList (List.replicate (width - s.length) ' ')

def floatWords (xs : List Float) : List String :=
  let finite := xs.filter fun x => !x.isNaN && !x.isInf
  let nonzero := (finite.filter (· != 0.0)).map Float.abs
  let big := nonzero.foldl max 0.0
  let small := nonzero.foldl min (1.0 / 0.0)
  let expForm := !nonzero.isEmpty && (big ≥ 1e8 || small < 0.0001 || big / small > 1000.0)
  let special (x : Float) : String :=
    if x.isNaN then "nan" else if x < 0.0 then "-inf" else "inf"
  if expForm then
    let parts := finite.map fun x => scientific x 8
    let padL := parts.foldl (fun m (w, _, _) => max m w.length) 0
    let padR := parts.foldl (fun m (_, f, _) => max m f.length) 0
    let expDigits := parts.foldl (fun m (_, _, e) => max m (toString e.natAbs).length) 2
    let width := padL + padR + 1 + expDigits + 2
    xs.map fun x =>
      if x.isNaN || x.isInf then padLeft (special x) width
      else
        let (w, f, e) := scientific x 8
        let es := toString e.natAbs
        padLeft w padL ++ "." ++ f ++ String.ofList (List.replicate (padR - f.length) '0') ++ "e" ++
          (if e < 0 then "-" else "+") ++
          String.ofList (List.replicate (expDigits - es.length) '0') ++ es
  else
    let parts := finite.map fun x => positional x 8
    let padR := parts.foldl (fun m (_, f) => max m f.length) 0
    let padL := parts.foldl (fun m (w, _) => max m w.length) 0
    let hasNegInf := xs.any fun x => x.isInf && x < 0.0
    let padL := if finite.length != xs.length then
        max padL (max (3 - (padR + 1)) (3 + (if hasNegInf then 1 else 0) - (padR + 1)))
      else padL
    xs.map fun x =>
      if x.isNaN || x.isInf then padLeft (special x) (padL + padR + 1)
      else
        let (w, f) := positional x 8
        padLeft w padL ++ "." ++ padRight f padR

def words (c : Column) : List String :=
  let cells := c.cells.toList
  if c.dtype.isInteger then
    let texts := cells.map fun v => toString v.toInteger
    let width := texts.foldl (fun m s => max m s.length) 0
    texts.map (padLeft · width)
  else if c.dtype.isFloat then floatWords (cells.map Value.toDouble)
  else if c.dtype == .bool then cells.map fun v => if v.truthy then " True" else "False"
  else if c.dtype == .datetime || c.dtype == .duration then
    let word (v : Value) : Option String :=
      match v with
      | .time ns =>
        let t := Time.Stamp.ofNanos ns
        some ("'" ++ t.date.isoText ++ "T" ++ Time.padNat 2 t.hour ++ ":" ++ Time.padNat 2 t.minute ++
          ":" ++ Time.padNat 2 t.second ++ "." ++ Time.padNat 9 t.nano ++ "'")
      | .span ns => some (toString ns)
      | _ => none
    let texts := cells.map word
    let width := texts.foldl (fun m w => max m ((w.getD "'NaT'").length)) 0
    texts.map fun w => padLeft (w.getD "'NaT'") width
  else cells.map Value.repr

/-- Words joined by blanks between brackets, in lines of at most 75 characters. -/
def bracketed (ws : List String) : String :=
  let width := 74
  let extend (acc : String × String) (w : String) : String × String :=
    let (s, line) := acc
    if line.length + w.length > width && line.length > 1 then
      (s ++ String.ofList (line.toList.reverse.dropWhile (· == ' ')).reverse ++ "\n", " " ++ w)
    else (s, line ++ w)
  match ws.reverse with
  | [] => "[]"
  | last :: restRev =>
    let acc := restRev.reverse.foldl (fun acc w =>
      let (s, line) := extend acc w
      (s, line ++ " ")) ("", " ")
    let (s, line) := extend acc last
    "[" ++ (s ++ line).drop 1 ++ "]"

end ArrayText

def Column.arrayText (c : Column) : String :=
  if c.size > 1000 then
    let shown := { c with cells := c.cells.extract 0 3 ++ c.cells.extract (c.size - 3) c.size }
    let ws := ArrayText.words shown
    ArrayText.bracketed (ws.take 3 ++ ["..."] ++ ws.drop 3)
  else ArrayText.bracketed (ArrayText.words c)

def Column.isRange (c : Column) : Bool :=
  c.size == 0 || c.dtype.isInteger && (c.cells.zipIdx.all fun (v, i) => v matches .int _ && v.toInteger == i)

def Column.indexKind (c : Column) : String :=
  if c.isRange then "RangeIndex" else if c.dtype == .datetime then "DatetimeIndex" else "Index"

/-- The bracketed values of row labels of class `kind`, wrapped past 80 characters, cut past 100
values. -/
def ArrayText.labelSummary (kind : String) (ws : List String) (texts : Bool) : String :=
  let width := 80
  let space2 := "\n" ++ String.ofList (List.replicate (kind.length + 2) ' ')
  let space1 := "\n" ++ String.ofList (List.replicate (kind.length + 1) ' ')
  match ws with
  | [] => "[], "
  | [a] => s!"[{a}], "
  | [a, b] => s!"[{a}, {b}], "
  | _ =>
    let truncated := ws.length > 100
    let (head, tail) := if truncated then (ws.take 10, ws.drop (ws.length - 10)) else ([], ws)
    let fits := (", ".intercalate head).length < width && (", ".intercalate tail).length < width
    let (head, tail) :=
      if !texts && (truncated || !fits) then
        let w := (head ++ tail).foldl (fun m (x : String) => max m x.length) 0
        (head.map fun x => ArrayText.padLeft x w, tail.map fun x => ArrayText.padLeft x w)
      else (head, tail)
    let trimEnd (x : String) : String := String.ofList (x.toList.reverse.dropWhile (· == ' ')).reverse
    let extend (acc : String × String) (value : String) (limit : Nat) : String × String :=
      if (trimEnd acc.2).length + (trimEnd value).length ≥ limit then (acc.1 ++ trimEnd acc.2, space2 ++ value)
      else (acc.1, acc.2 ++ value)
    let acc := head.foldl (fun acc w => extend acc (w ++ ", ") width) ("", space2)
    let acc := if truncated then (acc.1 ++ trimEnd acc.2 ++ space2 ++ "...", space2) else acc
    let acc := (tail.take (tail.length - 1)).foldl (fun acc w => extend acc (w ++ ", ") width) acc
    let (body, line) := extend acc (tail.getLastD "") (width - 2)
    let body := body ++ line ++ "],"
    let body := if body.length > width then body ++ space1 else body ++ " "
    "[" ++ (body.drop space2.length).toString

def Column.indexText (c : Column) (freq : Option String) : String :=
  if c.isRange then s!"RangeIndex(start=0, stop={c.size}, step=1)"
  else
    let kind := c.indexKind
    let datesOnly := c.cells.all fun v => match v with
      | .time ns => Int.emod ns Time.nsPerDay == 0
      | _ => true
    let word (v : Value) : String :=
      match v with
      | .time ns => "'" ++ (if datesOnly then (Time.Stamp.ofNanos ns).date.isoText else Time.isoText ns " ") ++ "'"
      | .nat => "NaT"
      | .float x => Value.floatText x
      | v => v.repr
    let texts := c.cells.all fun v => v matches .str _
    let summary := ArrayText.labelSummary kind (c.cells.toList.map word) texts
    let length := if c.size > 100 then s!", length={c.size}" else ""
    let freq := if c.dtype == .datetime then ", freq=" ++ (freq.map (fun f => "'" ++ f ++ "'")).getD "None" else ""
    s!"{kind}({summary}dtype='{c.dtype.name}'{length}{freq})"

end PipeQuery
