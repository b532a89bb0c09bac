import PipeQuery.Table.Basic
import PipeQuery.Value.Arith

/-!
# Windows over a column

A window gives each row a run of rows to summarise: `rolling` (the `size` rows ending at, or
centred on, the row), `expanding` (every row up to it) or `decaying` (weighted down by
`1 - 1 / (1 + com)` per row back); a summary needs `minPeriods` present values. Sums and spreads
are updated as the window moves (Kahan sums, Welford spreads), which decides their last bits.
-/

namespace PipeQuery

inductive Window
  | rolling (size : Nat) (minPeriods : Option Nat) (center : Bool)
  | expanding (minPeriods : Nat)
  | decaying (com : Float) (adjust ignoreMissing : Bool) (minPeriods : Nat)
  deriving Inhabited

namespace Window

def least : Window → Nat
  | rolling size m _ => m.getD size
  | expanding m => m
  | decaying _ _ _ m => m

/-- The run of rows of each of `n` rows: from the first row up to, not including, the second. -/
def bounds (w : Window) (n : Nat) : Array (Nat × Nat) :=
  match w with
  | rolling size _ center =>
    let offset := if center || size == 0 then (size - 1) / 2 else 0
    (Array.range n).map fun i =>
      let stop := i + 1 + offset
      (min n (stop - min stop size), min n stop)
  | _ => (Array.range n).map fun i => (0, i + 1)

end Window

structure RunningSum where
  count : Nat := 0
  total : Float := 0.0
  addError : Float := 0.0
  removeError : Float := 0.0
  same : Nat := 0
  last : Float := 0.0
  negatives : Nat := 0
  deriving Inhabited

namespace RunningSum

def add (s : RunningSum) (v : Float) : RunningSum :=
  if v.isNaN then s
  else
    let y := v - s.addError
    let t := s.total + y
    { s with count := s.count + 1, total := t, addError := (t - s.total) - y,
             same := if v == s.last then s.same + 1 else 1, last := v,
             negatives := if Num.signBit v then s.negatives + 1 else s.negatives }

def remove (s : RunningSum) (v : Float) : RunningSum :=
  if v.isNaN then s
  else
    let y := -v - s.removeError
    let t := s.total + y
    { s with count := s.count - 1, total := t, removeError := (t - s.total) - y,
             negatives := if Num.signBit v then s.negatives - 1 else s.negatives }

def sum (least : Nat) (s : RunningSum) : Float :=
  if s.count == 0 && least == 0 then 0.0
  else if s.count ≥ least then
    if s.same ≥ s.count then s.last * Float.ofNat s.count else s.total
  else 0.0 / 0.0

/-- The mean of at least `least` present values: the last value when all are equal, never of the
wrong sign. -/
def mean (least : Nat) (s : RunningSum) : Float :=
  if s.count ≥ least && s.count > 0 then
    let r := s.total / Float.ofNat s.count
    if s.same ≥ s.count then s.last
    else if s.negatives == 0 && r < 0.0 then 0.0
    else if s.negatives == s.count && r > 0.0 then 0.0
    else r
  else 0.0 / 0.0

end RunningSum

/-- A window's running spread: count, mean, sum of squared distances, rounding errors, and the run
of equal last values. -/
structure RunningSpread where
  count : Float := 0.0
  mean : Float := 0.0
  squares : Float := 0.0
  addError : Float := 0.0
  removeError : Float := 0.0
  same : Nat := 0
  last : Float := 0.0
  deriving Inhabited

namespace RunningSpread

def add (s : RunningSpread) (v : Float) : RunningSpread :=
  if v.isNaN then s
  else
    let count := s.count + 1.0
    let previous := s.mean - s.addError
    let y := v - s.addError
    let t := y - s.mean
    let addError := (t + s.mean) - y
    let mean := if count != 0.0 then s.mean + t / count else 0.0
    { s with count, mean, addError, squares := s.squares + (v - previous) * (v - mean),
             same := if v == s.last then s.same + 1 else 1, last := v }

def remove (s : RunningSpread) (v : Float) : RunningSpread :=
  if v.isNaN then s
  else
    let count := s.count - 1.0
    if count != 0.0 then
      let previous := s.mean - s.removeError
      let y := v - s.removeError
      let t := y - s.mean
      let removeError := (t + s.mean) - y
      let mean := s.mean - t / count
      { s with count, mean, removeError, squares := s.squares - (v - previous) * (v - mean) }
    else { s with count, mean := 0.0, squares := 0.0 }

def variance (least ddof : Nat) (s : RunningSpread) : Float :=
  if s.count ≥ Float.ofNat (max least 1) && s.count > Float.ofNat ddof then
    if s.count == 1.0 || Float.ofNat s.same ≥ s.count then 0.0
    else s.squares / (s.count - Float.ofNat ddof)
  else 0.0 / 0.0

end RunningSpread

/-- Moves a running state along the runs `bounds` of `xs`, reading a result at each row. -/
def slide {σ : Type} (start : Nat → σ) (add remove : σ → Float → σ) (read : σ → Float)
    (xs : Array Float) (bounds : Array (Nat × Nat)) : Array Float :=
  let range (a b : Nat) : List Nat := (List.range (b - a)).map (· + a)
  let step (acc : Array Float × σ × Nat × Nat) (i : Nat) : Array Float × σ × Nat × Nat :=
    let (out, st, s0, e0) := acc
    let (s, e) := bounds.getD i (0, 0)
    let st :=
      if i == 0 || s ≥ e0 then
        (range s e).foldl (fun st j => add st (xs.getD j 0.0)) (start s)
      else
        let st := (range s0 s).foldl (fun st j => remove st (xs.getD j 0.0)) st
        (range e0 e).foldl (fun st j => add st (xs.getD j 0.0)) st
    (out.push (read st), st, s, e)
  ((List.range bounds.size).foldl step (#[], start 0, 0, 0)).1

/-- One step of a sum carrying its rounding error: the new total and error after adding `v`. -/
def carried (total error v : Float) : Float × Float :=
  let y := v - error
  let t := total + y
  (t, t - total - y)

structure RunningPowers where
  count : Nat := 0
  sums : Array Float := #[0.0, 0.0, 0.0, 0.0]
  addErrors : Array Float := #[0.0, 0.0, 0.0, 0.0]
  removeErrors : Array Float := #[0.0, 0.0, 0.0, 0.0]
  same : Nat := 0
  last : Float := 0.0
  deriving Inhabited

namespace RunningPowers

def powers (v : Float) : Array Float :=
  #[v, v * v, v * v * v, v * v * v * v]

/-- Adds (with `sign` `-1`, subtracts) a value's powers to the sums, carrying each sum's error. -/
def moved (sums errors : Array Float) (sign v : Float) : Array Float × Array Float :=
  let steps := (List.range 4).map fun k =>
    carried (sums.getD k 0.0) (errors.getD k 0.0) (sign * (powers v).getD k 0.0)
  (steps.toArray.map (·.1), steps.toArray.map (·.2))

def add (s : RunningPowers) (v : Float) : RunningPowers :=
  if v.isNaN then s
  else
    let (sums, addErrors) := moved s.sums s.addErrors 1.0 v
    { s with count := s.count + 1, sums, addErrors,
             same := if v == s.last then s.same + 1 else 1, last := v }

def remove (s : RunningPowers) (v : Float) : RunningPowers :=
  if v.isNaN then s
  else
    let (sums, removeErrors) := moved s.sums s.removeErrors (-1.0) v
    { s with count := s.count - 1, sums, removeErrors }

/-- The sample skewness with at least `least` values present. -/
def skew (least : Nat) (s : RunningPowers) : Float :=
  if s.count ≥ max least 3 then
    let n := Float.ofNat s.count
    let a := s.sums.getD 0 0.0 / n
    let b := s.sums.getD 1 0.0 / n - a * a
    let c := s.sums.getD 2 0.0 / n - a * a * a - 3.0 * a * b
    if s.same ≥ s.count then 0.0
    else if b ≤ 1e-14 then 0.0 / 0.0
    else
      let r := b.sqrt
      (n * (n - 1.0)).sqrt * c / ((n - 2.0) * r * r * r)
  else 0.0 / 0.0

/-- The sample excess kurtosis with at least `least` values present. -/
def kurt (least : Nat) (s : RunningPowers) : Float :=
  if s.count ≥ max least 4 then
    if s.same ≥ s.count then -3.0
    else
      let n := Float.ofNat s.count
      let a := s.sums.getD 0 0.0 / n
      let r := a * a
      let b := s.sums.getD 1 0.0 / n - r
      let r := r * a
      let c := s.sums.getD 2 0.0 / n - r - 3.0 * a * b
      let r := r * a
      let d := s.sums.getD 3 0.0 / n - r - 6.0 * b * a * a - 4.0 * c * a
      if b ≤ 1e-14 then 0.0 / 0.0
      else
        let k := (n * n - 1.0) * d / (b * b) - 3.0 * Float.pow (n - 1.0) 2.0
        k / ((n - 2.0) * (n - 3.0))
  else 0.0 / 0.0

end RunningPowers

namespace Window

/-- The values less the rounded mean of the present ones, when the least is not far below it, so
higher moments lose less. -/
def nearZero (xs : Array Float) : Array Float :=
  let present := xs.toList.filter (!·.isNaN)
  let least := present.foldl (fun m x => if x < m then x else m) (1.0 / 0.0)
  let mean := present.foldl (· + ·) 0.0 / Float.ofNat present.length
  if !present.isEmpty && least - mean > -1e5 then xs.map (· - mean.round) else xs

def skews (w : Window) (xs : Array Float) : Array Float :=
  let ys := nearZero xs
  let start (s : Nat) : RunningPowers := { last := xs.getD s 0.0 }
  slide start RunningPowers.add RunningPowers.remove (RunningPowers.skew w.least) ys (w.bounds xs.size)

def kurts (w : Window) (xs : Array Float) : Array Float :=
  let ys := nearZero xs
  let start (s : Nat) : RunningPowers := { last := xs.getD s 0.0 }
  slide start RunningPowers.add RunningPowers.remove (RunningPowers.kurt w.least) ys (w.bounds xs.size)

end Window

namespace Window

def sums (w : Window) (xs : Array Float) : Array Float :=
  let bs := w.bounds xs.size
  let start (s : Nat) : RunningSum := { last := xs.getD s 0.0 }
  slide start RunningSum.add RunningSum.remove (RunningSum.sum w.least) xs bs

def means (w : Window) (xs : Array Float) : Array Float :=
  let bs := w.bounds xs.size
  let start (s : Nat) : RunningSum := { last := xs.getD s 0.0 }
  slide start RunningSum.add RunningSum.remove (RunningSum.mean w.least) xs bs

def variances (w : Window) (ddof : Nat) (xs : Array Float) : Array Float :=
  let bs := w.bounds xs.size
  let start (s : Nat) : RunningSpread := { last := xs.getD s 0.0 }
  slide start RunningSpread.add RunningSpread.remove (RunningSpread.variance w.least ddof) xs bs

def runs (w : Window) (xs : Array Float) : Array (Option (List Float)) :=
  (w.bounds xs.size).map fun (s, e) =>
    let present := ((List.range (e - s)).map fun j => xs.getD (s + j) 0.0).filter (!·.isNaN)
    if present.length ≥ w.least && !present.isEmpty then some present else none

def extremes (w : Window) (larger : Bool) (xs : Array Float) : Array Float :=
  (w.runs xs).map fun r => match r with
    | some (x :: rest) => rest.foldl (fun m y => if larger then (if y > m then y else m)
        else (if y < m then y else m)) x
    | _ => 0.0 / 0.0

def medians (w : Window) (xs : Array Float) : Array Float :=
  (w.runs xs).map fun r => match r with
    | some vs =>
      let sorted := (vs.mergeSort fun a b => a ≤ b).toArray
      let n := sorted.size
      if n % 2 == 1 then sorted.getD (n / 2) 0.0
      else (sorted.getD (n / 2) 0.0 + sorted.getD (n / 2 - 1) 0.0) / 2.0
    | none => 0.0 / 0.0

/-- The quantile `q` of each row's run, between the two nearest ranks linearly. -/
def quantiles (w : Window) (q : Float) (xs : Array Float) : Array Float :=
  (w.runs xs).map fun r => match r with
    | some vs =>
      let sorted := (vs.mergeSort fun a b => a ≤ b).toArray
      let n := sorted.size
      if n == 1 then sorted.getD 0 0.0
      else
        let spot := q * Float.ofNat (n - 1)
        let i := (Num.truncate spot).toNat
        let lo := sorted.getD i 0.0
        if spot == Float.ofNat i then lo
        else
          let hi := sorted.getD (i + 1) 0.0
          lo + (hi - lo) * (spot - Float.ofNat i)
    | none => 0.0 / 0.0

def counts (w : Window) (xs : Array Float) : Array Float :=
  sums w (xs.map fun x => if x.isNaN then 0.0 else 1.0)

def decayingMeans (com : Float) (adjust ignoreMissing : Bool) (least : Nat) (xs : Array Float) :
    Array Float :=
  let alpha := 1.0 / (1.0 + com)
  let factor := 1.0 - alpha
  let fresh := if adjust then 1.0 else alpha
  let least := max least 1
  match xs.toList with
  | [] => #[]
  | first :: rest =>
    let firstCount := if first.isNaN then 0 else 1
    let out0 := if firstCount ≥ least then first else 0.0 / 0.0
    let step (acc : Array Float × Float × Float × Nat) (cur : Float) : Array Float × Float × Float × Nat :=
      let (out, weighted, oldWeight, count) := acc
      let present := !cur.isNaN
      let count := if present then count + 1 else count
      let (weighted, oldWeight) :=
        if !weighted.isNaN then
          if present || !ignoreMissing then
            let oldWeight := oldWeight * factor
            if present then
              let w := if weighted != cur then
                  (oldWeight * weighted + fresh * cur) / (oldWeight + fresh)
                else weighted
              (w, if adjust then oldWeight + fresh else 1.0)
            else (weighted, oldWeight)
          else (weighted, oldWeight)
        else if present then (cur, oldWeight)
        else (weighted, oldWeight)
      (out.push (if count ≥ least then weighted else 0.0 / 0.0), weighted, oldWeight, count)
    (rest.foldl step (#[out0], first, 1.0, firstCount)).1

/-- A decaying window's weighted sums: the old sum shrinks by `1 - 1 / (1 + com)` per row, present
values added. -/
def decayingSums (com : Float) (ignoreMissing : Bool) (least : Nat) (xs : Array Float) :
    Array Float :=
  let factor := 1.0 - 1.0 / (1.0 + com)
  let least := max least 1
  match xs.toList with
  | [] => #[]
  | first :: rest =>
    let firstCount := if first.isNaN then 0 else 1
    let out0 := if firstCount ≥ least then first else 0.0 / 0.0
    let step (acc : Array Float × Float × Nat) (cur : Float) : Array Float × Float × Nat :=
      let (out, weighted, count) := acc
      let present := !cur.isNaN
      let count := if present then count + 1 else count
      let weighted :=
        if !weighted.isNaN then
          if present || !ignoreMissing then
            let weighted := factor * weighted
            if present then weighted + cur else weighted
          else weighted
        else if present then cur
        else weighted
      (out.push (if count ≥ least then weighted else 0.0 / 0.0), weighted, count)
    (rest.foldl step (#[out0], first, firstCount)).1

structure DecayingSpread where
  mean : Float
  spread : Float := 0.0
  weights : Float := 1.0
  squares : Float := 1.0
  oldWeight : Float := 1.0
  count : Nat

/-- The weighted variances of a decaying window, unbiased by the weights unless `bias`. -/
def decayingVariances (com : Float) (adjust ignoreMissing bias : Bool) (least : Nat)
    (xs : Array Float) : Array Float :=
  let alpha := 1.0 / (1.0 + com)
  let factor := 1.0 - alpha
  let fresh := if adjust then 1.0 else alpha
  let least := max least 1
  let read (s : DecayingSpread) : Float :=
    if s.count ≥ least then
      if bias then s.spread
      else
        let numerator := s.weights * s.weights
        let denominator := numerator - s.squares
        if denominator > 0.0 then numerator / denominator * s.spread else 0.0 / 0.0
    else 0.0 / 0.0
  match xs.toList with
  | [] => #[]
  | first :: rest =>
    let s0 : DecayingSpread := { mean := first, count := if first.isNaN then 0 else 1 }
    let out0 := if s0.count ≥ least then (if bias then 0.0 else 0.0 / 0.0) else 0.0 / 0.0
    let step (acc : Array Float × DecayingSpread) (cur : Float) : Array Float × DecayingSpread :=
      let (out, s) := acc
      let present := !cur.isNaN
      let s := { s with count := if present then s.count + 1 else s.count }
      let s :=
        if !s.mean.isNaN then
          if present || !ignoreMissing then
            let s := { s with weights := s.weights * factor,
                              squares := s.squares * (factor * factor),
                              oldWeight := s.oldWeight * factor }
            if present then
              let old := s.mean
              let mean := if old != cur then (s.oldWeight * old + fresh * cur) / (s.oldWeight + fresh)
                else old
              let spread := (s.oldWeight * (s.spread + (old - mean) * (old - mean)) +
                fresh * ((cur - mean) * (cur - mean))) / (s.oldWeight + fresh)
              let weights := s.weights + fresh
              let squares := s.squares + fresh * fresh
              let oldWeight := s.oldWeight + fresh
              if adjust then { s with mean, spread, weights, squares, oldWeight }
              else { s with mean, spread, weights := weights / oldWeight,
                            squares := squares / (oldWeight * oldWeight), oldWeight := 1.0 }
            else s
          else s
        else if present then { s with mean := cur }
        else s
      (out.push (read s), s)
    (rest.foldl step (#[out0], s0)).1

end Window

end PipeQuery
