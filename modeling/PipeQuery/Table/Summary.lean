import PipeQuery.Table.Fill
import PipeQuery.Table.Concat
import PipeQuery.Table.Arith
import PipeQuery.Time.Civil

/-!
# Summaries of columns

The summaries `stats` computes, of a whole column (`Summary.whole`) or of each group of rows
(`Summary.groups`). The two add doubles in different orders, which decides the last bits: a whole
column sums pairwise (`pairwiseSum`) with a two-pass spread, a group sums with compensation
(`groupSum`) with Welford's spread. Missing values are skipped. `first` and `last` exist for
groups only.
-/

namespace PipeQuery

inductive Summary
  | count | sum | mean | min | max | first | last | values | distinct
  | stdev | variance | median | percentile (p : Nat)
  deriving DecidableEq, Repr, Inhabited

/-- The sum of doubles, each addition's rounding error carried into the next; an infinite value
restarts the error. -/
def groupSum (xs : List Float) : Float :=
  let step (acc : Float × Float) (x : Float) : Float × Float :=
    let (s, c) := acc
    let y := x - c
    let t := s + y
    let c := t - s - y
    (t, if c.isNaN then 0.0 else c)
  (xs.foldl step (0.0, 0.0)).1

/-- The value at fraction `q` of sorted values, linear between the two nearest ranks. -/
def linearQuantile (sorted : Array Float) (q : Float) : Float :=
  let n := sorted.size
  if n == 0 then 0.0 / 0.0
  else
    let v := Num.intToFloat (n - 1) * q
    let (lo, hi) :=
      if v ≥ Num.intToFloat (n - 1) then (n - 1, n - 1)
      else if v < 0.0 then (0, 0)
      else let f := (Num.truncate v.floor).toNat; (f, f + 1)
    let base := if v ≥ Num.intToFloat (n - 1) then -1.0 else if v < 0.0 then 0.0 else v.floor
    let t := v - base
    let a := sorted.getD lo 0.0
    let b := sorted.getD hi 0.0
    let d := b - a
    if t ≥ 0.5 then b - d * (1.0 - t) else a + d * t

/-- The value at fraction `q` of sorted values, by `lower`, `higher`, `nearest`, `midpoint` or
`linear` between ranks. -/
def pickQuantile (sorted : Array Float) (q : Float) (how : String) : Float :=
  let n := sorted.size
  let spot := Num.intToFloat (n - 1) * q
  let rankAt (x : Float) : Float :=
    let i := Num.truncate x
    sorted.getD (if i < 0 then 0 else min i.toNat (n - 1)) 0.0
  if n == 0 then 0.0 / 0.0
  else
    match how with
    | "lower" => rankAt spot.floor
    | "higher" => rankAt spot.ceil
    | "nearest" => rankAt (Num.intToFloat (Num.roundHalfEven spot))
    | "midpoint" =>
      if spot.floor == spot.ceil then
        let a := rankAt spot.floor
        a + (a - a) * 0.0
      else
        let a := rankAt spot.floor
        let b := rankAt (spot.floor + 1.0)
        b - (b - a) * 0.5
    | _ => linearQuantile sorted q

/-- The variance with `ddof` degrees of freedom removed, in two passes of pairwise sums. -/
def twoPassVariance (ddof : Nat) (c : Column) : Float :=
  let present := c.cells.map (!·.isMissing)
  let count := (present.filter id).size
  if count ≤ ddof then 0.0 / 0.0
  else
    let xs := c.zeroFilled
    let avg := pairwiseSum xs / Num.intToFloat count
    let squares := (xs.zip present).map fun (x, p) => if p then (avg - x) * (avg - x) else 0.0
    pairwiseSum squares / Num.intToFloat (count - ddof)

def roundedAway (x : Float) : Float :=
  if x.abs < 1e-14 then 0.0 else x

/-- A column's present values less their mean, missing ones `0.0`, with the present count. -/
def centred (c : Column) : Array Float × Float :=
  let present := c.cells.map (!·.isMissing)
  let count := Num.intToFloat (present.filter id).size
  let xs := c.zeroFilled
  let avg := pairwiseSum xs / count
  ((xs.zip present).map fun (x, p) => if p then x - avg else 0.0, count)

/-- The standard error of the mean: the root of the variance (`ddof` removed) over the root of the
present count. -/
def standardError (ddof : Nat) (c : Column) : Float :=
  let count := (c.cells.filter (!·.isMissing)).size
  (twoPassVariance ddof c).sqrt / (Num.intToFloat count).sqrt

/-- The sample skewness of the present values: NaN below three values, zero when the spread rounds
away. -/
def skewness (c : Column) : Float :=
  let (d, n) := centred c
  let d2 := d.map fun x => x * x
  let m2 := roundedAway (pairwiseSum d2)
  let m3 := roundedAway (pairwiseSum ((d2.zip d).map fun (a, b) => a * b))
  if n < 3.0 then 0.0 / 0.0
  else if m2 == 0.0 then 0.0
  else n * Float.pow (n - 1.0) 0.5 / (n - 2.0) * (m3 / Float.pow m2 1.5)

/-- The sample excess kurtosis of present values: NaN below four values, zero when the spread rounds
away. -/
def kurtosis (c : Column) : Float :=
  let (d, n) := centred c
  let d2 := d.map fun x => x * x
  let m2 := pairwiseSum d2
  let m4 := pairwiseSum (d2.map fun x => x * x)
  let adj := 3.0 * ((n - 1.0) * (n - 1.0)) / ((n - 2.0) * (n - 3.0))
  let numerator := roundedAway (n * (n + 1.0) * (n - 1.0) * m4)
  let denominator := roundedAway ((n - 2.0) * (n - 3.0) * (m2 * m2))
  if n < 4.0 then 0.0 / 0.0
  else if denominator == 0.0 then 0.0
  else numerator / denominator - adj

namespace Summary

/-- The summary a lower-case function name stands for; `perc`/`p`/`percentile` take digits of any
script. -/
def ofName? (name : String) : Option Summary :=
  match name with
  | "count" => some .count
  | "sum" => some .sum
  | "avg" | "mean" => some .mean
  | "min" => some .min
  | "max" => some .max
  | "first" => some .first
  | "last" => some .last
  | "values" => some .values
  | "dc" | "distinct_count" => some .distinct
  | "stdev" | "std" | "stddev" => some .stdev
  | "var" => some .variance
  | "median" => some .median
  | _ =>
    let digits := (["percentile", "perc", "p"].findSome? fun p =>
      if name.startsWith p then some (String.ofList (name.toList.drop p.length)) else none)
    -- the digits may be followed by one line feed, which ends the name
    let digits := digits.map fun ds => if ds.endsWith "\n" then (ds.dropEnd 1).toString else ds
    match digits with
    | some ds =>
      if !ds.isEmpty && ds.all Text.isDecimalDigit then
        some (.percentile (Text.digitsValue (ds.toList.map Text.decimalValue)))
      else none
    | none => none

end Summary

/-- Whether two values are one entry among distinct values: NaNs are one, each missing marker one,
others when equal. -/
def Value.sameEntry (x y : Value) : Bool :=
  match x, y with
  | .float a, .float b => (a.isNaN && b.isNaN) || a == b
  | .none, .none | .nat, .nat | .na, .na => true
  | _, _ => !x.isMissing && !y.isMissing && Value.same x y && x.kindRank == y.kindRank

/-- A column's values each once, by first appearance; each kind of missing value counts once. -/
def uniqueValues (cells : List Value) : List Value :=
  cells.foldl (fun acc x => if acc.any (Value.sameEntry x) then acc else acc ++ [x]) []

def distinctCount (cells : List Value) : Nat :=
  (uniqueValues (cells.filter (!·.isMissing))).length

def extreme (larger : Bool) (cells : List Value) : Outcome (Option Value) :=
  cells.foldlM (fun acc x =>
    if x.isMissing then pure acc
    else
      match acc with
      | none => pure (some x)
      | some y => do
        let swap ← Value.compareBy (if larger then .gt else .lt) x y
        pure (some (if swap then x else y))) none

def quantileOf (c : Column) (p : Nat) : Outcome Value := do
  let q := Float.ofNat p / 100.0
  if q > 1.0 then throw (Fault.inner .valueError "percentiles should all be in the interval [0, 1]")
  match c.dtype with
  | .object | .datetime | .duration =>
    if c.dtype == .object && !(c.cells.all fun v => v.isMissing || v.num?.isSome) then
      throw (Fault.inner .typeError "unsupported operand type(s) for -: 'str' and 'str'")
    else pure ()
  | _ => pure ()
  let xs := (c.presentFloats.mergeSort fun a b => a ≤ b).toArray
  pure (.float (linearQuantile xs q))

def numbersOnly (c : Column) (what : String) : Outcome Unit :=
  if c.dtype == .datetime || c.dtype == .duration then
    throw (Fault.inner .typeError s!"datetime64 type does not support {what} operations")
  else if c.dtype == .object && !(c.cells.all fun v => v.isMissing || v.num?.isSome) then
    throw (Fault.inner .typeError s!"Could not convert string to numeric")
  else pure ()

/-- Adds the values of a column of mixed values in turn, missing values as `0`. -/
def looseSum (cells : List Value) : Outcome Value :=
  match cells.map (fun v => if v.isMissing then Value.int 0 else v) with
  | [] => pure (.int 0)
  | x :: rest => rest.foldlM (Value.arith .add) x

namespace Summary

def whole (s : Summary) (c : Column) : Outcome Value := do
  let cells := c.cells.toList
  let n := (cells.filter (!·.isMissing)).length
  match s with
  | .count => pure (.int n)
  | .sum =>
    match c.dtype with
    | .int64 | .int32 | .int16 | .int8 | .uint64 | .uint32 | .uint16 | .uint8 | .bool =>
      let total := cells.foldl (fun acc v => acc + v.toInteger) 0
      pure (.int (if c.dtype == .uint64 then DType.uint64.wrapInt total else wrap64 total))
    | .float64 => pure (.float (pairwiseSum c.zeroFilled))
    | .object => looseSum cells
    | _ => throw (Fault.inner .typeError s!"'{c.dtype.name}' with dtype {c.dtype.name} does not support reduction 'sum'")
  | .mean =>
    numbersOnly c "mean"
    pure (.float c.mean)
  | .min | .max =>
    match c.dtype with
    | .object =>
      if cells.any (·.isMissing) && cells.any (fun v => !v.isMissing && v.num?.isNone) then
        throw (Fault.inner .typeError "'<=' not supported between instances of 'str' and 'float'")
      match ← extreme (s == .max) cells with
      | some v => pure v
      | none => pure Value.nan
    | d =>
      match ← extreme (s == .max) cells with
      | some v => pure v
      | none => pure d.missingCell
  | .first | .last =>
    let name := if s == .first then "first" else "last"
    throw (Fault.inner .typeError s!"NDFrame.{name}() missing 1 required positional argument: 'offset'")
  | .values => pure (.list (uniqueValues cells) 0)
  | .distinct => pure (.int (distinctCount cells))
  | .stdev =>
    numbersOnly c "std"
    pure (.float (twoPassVariance 1 c).sqrt)
  | .variance =>
    numbersOnly c "var"
    pure (.float (twoPassVariance 1 c))
  | .median =>
    numbersOnly c "median"
    pure (.float c.median)
  | .percentile p => quantileOf c p

/-- The summary of each group of rows of a column, one cell per group. -/
def groups (s : Summary) (c : Column) (groups : List (List Nat)) : Outcome Column := do
  let part (rows : List Nat) : Column := c.pick rows.toArray
  let floats (rows : List Nat) : List Float := (part rows).presentFloats
  let make (dtype : DType) (cells : List Value) : Column :=
    { label := c.label, dtype, cells := cells.toArray }
  match s with
  | .count => pure (make .int64 (groups.map fun rows => .int ((part rows).cells.filter (!·.isMissing)).size))
  | .sum =>
    match c.dtype with
    | .int64 | .int32 | .int16 | .int8 | .uint64 | .uint32 | .uint16 | .uint8 | .bool =>
      let dtype : DType := match c.dtype with
        | .int32 => .int32
        | .uint64 => .uint64
        | _ => .int64
      pure (make dtype (groups.map fun rows =>
        .int (dtype.wrapInt ((part rows).cells.foldl (fun acc v => acc + v.toInteger) 0))))
    | .float64 => pure (make .float64 (groups.map fun rows => .float (groupSum (floats rows))))
    | .object => return make .object (← groups.mapM fun rows =>
        looseSum ((part rows).cells.toList.filter (!·.isMissing)))
    | _ => throw (Fault.inner .typeError "datetime64 type does not support sum operations")
  | .mean =>
    numbersOnly c "mean"
    pure (make .float64 (groups.map fun rows =>
      let xs := floats rows
      .float (if xs.isEmpty then 0.0 / 0.0 else groupSum xs / Num.intToFloat xs.length)))
  | .min | .max =>
    let cells ← groups.mapM fun rows => do
      match ← extreme (s == .max) (part rows).cells.toList with
      | some v => pure v
      | none => pure c.dtype.missingCell
    pure (make c.dtype cells)
  | .first | .last =>
    pure (make c.dtype (groups.map fun rows =>
      let present := (part rows).cells.toList.filter (!·.isMissing)
      let pick := if s == .first then present.head? else present.getLast?
      pick.getD c.dtype.missingCell))
  | .values => pure (make .object (groups.map fun rows => .list (uniqueValues (part rows).cells.toList) 0))
  | .distinct => pure (make .int64 (groups.map fun rows => .int (distinctCount (part rows).cells.toList)))
  | .stdev =>
    numbersOnly c "std"
    pure (make .float64 (groups.map fun rows => .float (runningVariance 1 (floats rows)).sqrt))
  | .variance =>
    numbersOnly c "var"
    pure (make .float64 (groups.map fun rows => .float (runningVariance 1 (floats rows))))
  | .median =>
    numbersOnly c "median"
    pure (make .float64 (groups.map fun rows => .float (part rows).median))
  | .percentile p => return make .float64 (← groups.mapM fun rows => quantileOf (part rows) p)

end Summary

end PipeQuery
