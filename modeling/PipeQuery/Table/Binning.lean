import PipeQuery.Table.Math
import PipeQuery.Text.Numeral
import PipeQuery.Table.Arith

/-!
# Bins of numbers

The bins of `cut`, `qcut` and `value_counts(bins=…)`: each between two neighbouring edges, closed
on one side. `n` bins of equal width span the values, the outer edge moved out by a thousandth of
the span. Edges shown as intervals are rounded to the fewest digits that keep them distinct.
-/

namespace PipeQuery

namespace Binning

/-- `x` to `precision` digits after its first significant one when below one in size, else to
`precision` decimals. -/
def roundFrac (x : Float) (precision : Nat) : Float :=
  if x.isNaN || x.isInf || x == 0.0 then x
  else
    let whole := if x < 0.0 then -((-x).floor) else x.floor
    let frac := x - whole
    let digits : Int :=
      if whole == 0.0 then -(Num.truncate (Float.log10 frac.abs).floor) - 1 + precision
      else precision
    Float.roundTo x digits

def rounded (precision : Nat) (edges : Array Value) : Array Value :=
  edges.map fun v => match v with
    | .float x => .float (roundFrac x precision)
    | v => v

def allDistinct (vs : Array Value) : Bool :=
  let xs := vs.toList
  (List.range xs.length).all fun i =>
    (List.range i).all fun j => (xs.getD i .none).toDouble != (xs.getD j .none).toDouble

/-- Bin edges as intervals show them, rounded to the fewest digits that keep them distinct. -/
def shownEdges (edges : Array Value) (precision : Nat) (right lowest : Bool) : Array Value :=
  let digits := ((List.range (20 - precision)).map (· + precision)).find?
    (fun p => allDistinct (rounded p edges)) |>.getD precision
  let breaks := rounded digits edges
  let breaks := if right && lowest then
      breaks.modify 0 fun v => .float (v.toDouble - 1.0 / Float.powerOfTen digits)
    else breaks
  if breaks.any (· matches .float _) then breaks.map fun v => .float v.toDouble else breaks

def intervalText (lo hi : Value) (right : Bool) : String :=
  (if right then "(" else "[") ++ lo.text ++ ", " ++ hi.text ++ (if right then "]" else ")")

def intervals (edges : Array Value) (right : Bool) : Array Value :=
  (Array.range (edges.size - 1)).map fun i =>
    .other "Interval" (intervalText (edges.getD i .none) (edges.getD (i + 1) .none) right)

def boundsOf? (t : String) : Option (Float × Float × Bool) := do
  let cs := t.toList
  let opening ← cs.head?
  let closing ← cs.getLast?
  let inner := String.ofList ((cs.drop 1).dropLast)
  match Text.splitText inner ", " with
  | [a, b] =>
    let lo ← Text.readFloat? a
    let hi ← Text.readFloat? b
    pure (lo, hi, opening == '(' && closing == ']')
  | _ => none

def holds (t : String) (x : Float) : Bool :=
  match boundsOf? t with
  | some (lo, hi, true) => lo < x && x ≤ hi
  | some (lo, hi, false) => lo ≤ x && x < hi
  | none => false

/-- The bin of each value among ascending `edges`; none for a missing or outside value. -/
def binsOf (edges : Array Float) (right lowest : Bool) (xs : Array Float) : Array (Option Nat) :=
  xs.map fun x =>
    if x.isNaN then none
    else
      let below := (edges.filter fun e => if right then e < x else e ≤ x).size
      let below := if lowest && edges.size > 0 && x == edges.getD 0 0.0 then 1 else below
      if below == 0 || below == edges.size then none else some (below - 1)

def spaced (lo hi : Float) (n : Nat) : Array Float :=
  let step := (hi - lo) / Float.ofNat n
  (Array.range (n + 1)).map fun i => if i == n then hi else Float.ofNat i * step + lo

def evenEdges (lo hi : Float) (n : Nat) (right : Bool) : Array Float :=
  if lo == hi then
    let lo := if lo != 0.0 then lo - 0.001 * lo.abs else lo - 0.001
    let hi := if hi != 0.0 then hi + 0.001 * hi.abs else hi + 0.001
    spaced lo hi n
  else
    let edges := spaced lo hi n
    let adj := (hi - lo) * 0.001
    if right then edges.modify 0 (· - adj) else edges.modify n (· + adj)

end Binning

end PipeQuery
