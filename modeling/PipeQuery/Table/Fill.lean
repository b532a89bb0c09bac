import PipeQuery.Table.Basic
import PipeQuery.Table.Infer
import PipeQuery.Table.Sort

/-!
# Summaries and filling of columns

Sums and spreads of doubles, added in the order that decides their last bits, and the filling of
missing cells.
-/

/-!
## Sums, means and spreads of doubles

The order of additions decides the last bits of a double: `pairwiseSum` adds blocks of up to 128
values with eight running sums and splits longer runs in halves; `runningVariance` is Welford's
update, as group spreads use.
-/

namespace PipeQuery

def plainSum (xs : List Float) : Float :=
  xs.foldl (· + ·) 0.0

/-- The sum of a run of at most 128 values, of at least eight: eight running sums. -/
def blockSum (xs : Array Float) : Float :=
  let n := xs.size
  let whole := n - n % 8
  let r := (List.range 8).map fun k =>
    ((List.range (whole / 8 - 1)).map fun j => xs.getD (8 * (j + 1) + k) 0.0).foldl
      (fun acc x => acc + x) (xs.getD k 0.0)
  let r := r.toArray
  let head := ((r.getD 0 0.0 + r.getD 1 0.0) + (r.getD 2 0.0 + r.getD 3 0.0)) +
    ((r.getD 4 0.0 + r.getD 5 0.0) + (r.getD 6 0.0 + r.getD 7 0.0))
  ((List.range (n - whole)).map fun i => xs.getD (whole + i) 0.0).foldl (· + ·) head

def pairwiseSumAux : Nat → Array Float → Float
  | 0, xs => plainSum xs.toList
  | fuel + 1, xs =>
    let n := xs.size
    if n < 8 then
      -- the first value starts the sum, so that a sum of one value is that value
      match xs.toList with
      | [] => 0.0
      | x :: rest => rest.foldl (· + ·) x
    else if n ≤ 128 then blockSum xs
    else
      let half := n / 2
      let half := half - half % 8
      pairwiseSumAux fuel (xs.extract 0 half) + pairwiseSumAux fuel (xs.extract half n)

def pairwiseSum (xs : Array Float) : Float :=
  pairwiseSumAux (xs.size + 1) xs

/-- The sample variance less `ddof` degrees of freedom, in one pass updating mean and squared
spread; NaN for too few values. -/
def runningVariance (ddof : Nat) (xs : List Float) : Float :=
  let step (acc : Float × Float × Float) (x : Float) : Float × Float × Float :=
    let (n, mean, m2) := acc
    let n := n + 1.0
    let old := mean
    let mean := mean + (x - old) / n
    (n, mean, m2 + (x - old) * (x - mean))
  let (n, _, m2) := xs.foldl step (0.0, 0.0, 0.0)
  if n ≤ Num.intToFloat ddof then 0.0 / 0.0 else m2 / (n - Num.intToFloat ddof)

/-!
## Filling missing cells

`Column.fillWith v` fills the missing cells, widening the type to `object` when it cannot hold
`v`; `Column.padForward` and `Column.padBackward` fill from the nearest present cell. An `object`
column is then settled (`Column.settle`). `Column.mean`, `median` and `mode` summarise present
values.
-/

namespace Column

/-- An `object` column stored as the element type its cells share; other columns as they are. -/
def settle (c : Column) : Column :=
  if c.dtype == .object then Column.infer c.label c.cells else c

def hasMissing (c : Column) : Bool :=
  c.cells.any Value.isMissing

def fillWith (c : Column) (v : Value) : Column :=
  if !c.hasMissing then c.settle
  else
    match c.dtype, v with
    | .float64, .int n => { c with cells := c.cells.map fun x => if x.isMissing then .float (Num.intToFloat n) else x }
    | .float64, .float y => { c with cells := c.cells.map fun x => if x.isMissing then .float y else x }
    | .datetime, .time ns => { c with cells := c.cells.map fun x => if x.isMissing then .time ns else x }
    | _, _ =>
      settle { c with dtype := .object, cells := c.cells.map fun x => if x.isMissing then v else x }

def padCells (cells : List Value) : List Value :=
  let step (acc : Option Value × List Value) (x : Value) : Option Value × List Value :=
    let (last, out) := acc
    if x.isMissing then
      match last with
      | some p => (last, p :: out)
      | none => (last, x :: out)
    else (some x, x :: out)
  (cells.foldl step (none, [])).2.reverse

def padForward (c : Column) : Column :=
  settle { c with cells := (padCells c.cells.toList).toArray }

def padBackward (c : Column) : Column :=
  settle { c with cells := (padCells c.cells.toList.reverse).reverse.toArray }

def fillFirst (c : Column) (v : Value) (limit : Option Nat) : Column :=
  match limit with
  | none => c.fillWith v
  | some k =>
    let missing := (Array.range c.size).filter fun i => (c.cell i).isMissing
    let chosen := missing.extract 0 k
    let filled := c.fillWith v
    { filled with cells := (Array.range c.size).map fun i =>
        if chosen.contains i || !(c.cell i).isMissing then filled.cell i
        else c.cell i }

def between (present : List Nat) (i : Nat) : Bool :=
  match present.head?, present.getLast? with
  | some a, some b => a < i && i < b
  | _, _ => false

/-- Missing cells filled from the nearest present one before (`forward`) or after, within `limit`
and `area`. -/
def padLimited (c : Column) (forward : Bool) (limit : Option Nat) (area : Option String) : Column :=
  let n := c.size
  let order := if forward then List.range n else (List.range n).reverse
  let present := (List.range n).filter fun i => !(c.cell i).isMissing
  let allowed (i : Nat) : Bool :=
    match area with
    | some "inside" => between present i
    | some "outside" => !between present i
    | _ => true
  let step (acc : Array Value × Option Value × Nat) (i : Nat) : Array Value × Option Value × Nat :=
    let (cells, source, run) := acc
    let v := c.cell i
    if !v.isMissing then (cells, some v, 0)
    else
      match source with
      | some s =>
        if limit.all (run < ·) && allowed i then (cells.set! i s, source, run + 1)
        else (cells, source, run + 1)
      | none => (cells, none, run + 1)
  settle { c with cells := (order.foldl step (c.cells, none, 0)).1 }

/-- The missing cells an interpolation leaves, by `limit`, `direction` and `area`. -/
def keptMissing (missing : Array Bool) (limit : Option Nat) (direction : String)
    (area : Option String) : Array Bool :=
  let n := missing.size
  let gap (i : Nat) : Bool := missing.getD i false
  let present := (List.range n).filter (!gap ·)
  let leading (i : Nat) : Bool := present.all (i < ·)
  let trailing (i : Nat) : Bool := present.all (· < i)
  let runBefore (i : Nat) : Nat := ((List.range (i + 1)).reverse.takeWhile gap).length
  let runAfter (i : Nat) : Nat := (((List.range n).filter (· ≥ i)).takeWhile gap).length
  let ahead (l i : Nat) : Bool := runBefore i ≥ l + 1 || (i ≤ l && leading i)
  let behind (l i : Nat) : Bool := runAfter i ≥ l + 1 || (n - 1 - i ≤ l && trailing i)
  (Array.range n).map fun i =>
    if !gap i then false
    else
      let kept := match direction, limit with
        | "forward", some l => leading i || ahead l i
        | "forward", none => leading i
        | "backward", some l => trailing i || behind l i
        | "backward", none => trailing i
        | _, some l => ahead l i && behind l i
        | _, none => false
      kept || (area == some "inside" && (leading i || trailing i)) ||
        (area == some "outside" && !leading i && !trailing i)

/-- The column as doubles with missing cells interpolated linearly by position, then those
`keptMissing` names missing. -/
def interpolateBy (c : Column) (limit : Option Nat) (direction : String) (area : Option String) :
    Column :=
  let missing := c.cells.map (·.isMissing)
  if c.dtype != .float64 || missing.all id || !missing.any id then c
  else
    let value (i : Nat) : Float := ((c.cell i).num?.map Num.toFloat).getD 0.0
    let present := (Array.range c.size).filter fun i => !(c.cell i).isMissing
    let kept := keptMissing missing limit direction area
    let cells := (Array.range c.size).map fun i =>
      if !(c.cell i).isMissing then c.cell i
      else if kept.getD i false then c.cell i
      else
        match present.reverse.find? (· < i), present.find? (· > i) with
        | some b, some a =>
          let slope := (value a - value b) / (Num.intToFloat a - Num.intToFloat b)
          let r := slope * (Num.intToFloat i - Num.intToFloat b) + value b
          let r := if r.isNaN then slope * (Num.intToFloat i - Num.intToFloat a) + value a else r
          .float (if r.isNaN && value a == value b then value b else r)
        | some b, none => .float (value b)
        | none, some a => .float (value a)
        | none, none => c.cell i
    { c with cells }

def presentFloats (c : Column) : List Float :=
  c.cells.toList.filterMap fun x => if x.isMissing then none else x.num?.map Num.toFloat

def zeroFilled (c : Column) : Array Float :=
  c.cells.map fun x => if x.isMissing then 0.0 else ((x.num?.map Num.toFloat).getD 0.0)

/-- The mean of present values: their pairwise sum (missing as `0.0`) over their count; NaN when
none. -/
def mean (c : Column) : Float :=
  let n := c.presentFloats.length
  if n == 0 then 0.0 / 0.0 else pairwiseSum c.zeroFilled / Num.intToFloat n

def median (c : Column) : Float :=
  let xs := c.presentFloats.mergeSort fun a b => a ≤ b
  let n := xs.length
  if n == 0 then 0.0 / 0.0
  else if n % 2 == 1 then xs.getD (n / 2) 0.0
  else (xs.getD (n / 2 - 1) 0.0 + xs.getD (n / 2) 0.0) / 2.0

/-- The most frequent present values as first seen: ascending when all compare, else by first
appearance. -/
def mode (c : Column) : List Value :=
  let present := c.cells.toList.filter (!·.isMissing)
  let counts := present.map fun x => (x, (present.filter (Value.same x)).length)
  let top := (counts.map (·.2)).foldl max 0
  let modes := (counts.filter (·.2 == top)).map (·.1)
  let distinct := modes.foldl (fun acc x => if acc.any (Value.same x) then acc else acc ++ [x]) []
  let comparable (a b : Value) : Bool := (a.num?.isSome && b.num?.isSome) || (a.order? b).isSome
  if distinct.all fun a => distinct.all (comparable a) then
    distinct.mergeSort fun a b => a.sortOrder b != .gt
  else distinct

end Column

end PipeQuery
