import PipeQuery.Calc.Methods

/-!
# Calculations: the rest of the array library

More members of `np`: the weighted `average`, `ptp`, percentiles and quantiles and the summaries
that skip NaN; rearranging routines (`concatenate`, `argsort`, `histogram`, `unique` with its
places and counts, ...); element-wise functions of bits and signs; and `reduce`/`accumulate`,
which fold an element-wise function of two arguments over an array. A series given to a summary
such as `sum` or `mean` is asked for its own summary, so its own checks of the arguments apply.
-/

namespace PipeQuery.Calc

namespace ArrayLibrary

open Libraries

def nan : Float := 0.0 / 0.0

def doubles (name : String) (d : Datum) : Outcome (Array Float) :=
  (valuesOf d).mapM fun v =>
    match v with
    | .int _ | .bool _ | .float _ => pure v.toDouble
    | .none | .na => pure nan
    | _ => throw (noLoop name)

def doubleArray (xs : Array Float) : Datum :=
  .array { label := .none, dtype := .float64, cells := xs.map Value.float } .values

def intArray (ns : Array Int) : Datum :=
  .array { label := .none, dtype := .int64, cells := ns.map Value.int } .values

def valueArray (cells : Array Value) : Datum :=
  .array (Column.infer .none cells) .values

def flag (d : Option Datum) (default : Bool) : Outcome Bool :=
  match d with
  | some (.scalar .none) | none => pure default
  | some x => x.truth

def given (d : Option Datum) : Option Datum :=
  match d with
  | some (.scalar .none) => none
  | d => d

def kindOf (d : Datum) : DType :=
  (Operand.ofDatum d).settled

/-- The result of an element-wise function: a series when an input is, a plain array otherwise. -/
def answered (inputs : List Datum) (r : Datum) : Datum :=
  if inputs.any isSeries then r else asValues r

/-- `np.average(a, weights, returned)`. -/
def average (a : Datum) (weights : Option Datum) (returned : Bool) : Outcome Datum := do
  let xs ← doubles "add" a
  let (avg, total) ← match given weights with
    | none => pure (pairwiseSum xs / Float.ofNat xs.size, Float.ofNat xs.size)
    | some w => do
      let ws ← doubles "multiply" w
      if ws.size != xs.size then
        throw (Fault.inner .typeError "Axis must be specified when shapes of a and weights differ.")
      let total := pairwiseSum ws
      if total == 0.0 then
        throw (Fault.inner .zeroDivisionError "Weights sum to zero, can't be normalized")
      pure (pairwiseSum ((xs.zip ws).map fun (x, w) => x * w) / total, total)
  let avg := Datum.element (.float avg) .float64
  if returned then pure (.seq false [avg, .element (.float total) .float64]) else pure avg

/-- `np.ptp(a)`: the largest value less the smallest; NaN when a value is missing. -/
def ptp (a : Datum) : Outcome Datum := do
  let vs := valuesOf a
  if vs.any (·.isMissing) then return .element Value.nan .float64
  if kindOf a == .bool then
    throw boolSubtract
  match ← extreme true vs.toList, ← extreme false vs.toList with
  | some hi, some lo =>
    match hi, lo with
    | .int m, .int n => pure (.element (.int (wrap64 (m - n))) .int64)
    | _, _ => pure (single (← Value.arith .sub hi lo))
  | _, _ =>
    if isSeries a then pure (.element Value.nan .float64)
    else throw (Fault.inner .valueError
      "zero-size array to reduction operation maximum which has no identity")

def presentDoubles (name : String) (a : Datum) : Outcome (Array Float) := do
  pure ((← doubles name a).filter fun x => !x.isNaN)

/-- The variance of doubles less `ddof` degrees of freedom, NaN skipped. -/
def spreadOf (ddof : Int) (xs : Array Float) : Float :=
  let present := xs.filter fun x => !x.isNaN
  let count := present.size
  if (count : Int) ≤ ddof then nan
  else
    let avg := pairwiseSum present / Float.ofNat count
    let squares := present.map fun x => (x - avg) * (x - avg)
    pairwiseSum squares / Num.intToFloat ((count : Int) - ddof)

def middleOf (sorted : Array Float) : Float :=
  let n := sorted.size
  if n == 0 then nan
  else if n % 2 == 1 then sorted.getD (n / 2) nan
  else
    let a := sorted.getD (n / 2 - 1) nan
    let b := sorted.getD (n / 2) nan
    (a + b) / 2.0

def ascending (xs : Array Float) : Array Float :=
  (xs.toList.mergeSort fun a b => a ≤ b).toArray

/-- The first place of the largest (or smallest) double; NaN is the far end and never wins. -/
def extremePlace (larger : Bool) (xs : Array Float) : Nat :=
  let better (x y : Float) : Bool := if larger then x > y else x < y
  let pick (acc : Option (Nat × Float)) (e : Float × Nat) : Option (Nat × Float) :=
    let (x, i) := e
    if x.isNaN then acc
    else match acc with
      | none => some (i, x)
      | some (j, y) => if better x y then some (i, x) else some (j, y)
  match (xs.zipIdx.foldl pick none) with
  | some (i, _) => i
  | none => 0

def quantileMethods : List String :=
  ["inverted_cdf", "averaged_inverted_cdf", "closest_observation", "interpolated_inverted_cdf",
   "hazen", "weibull", "linear", "median_unbiased", "normal_unbiased", "lower", "higher",
   "midpoint", "nearest"]

/-- `np.percentile`, `np.quantile` and their NaN-skipping forms. -/
def quantiles (name : String) (a q : Datum) (how : String) : Outcome Datum := do
  let percent := name.endsWith "percentile"
  let skip := name.startsWith "nan"
  let qs ← doubles "divide" q
  let qs := if percent then qs.map (· / 100.0) else qs
  if qs.any fun x => x.isNaN || x < 0.0 || x > 1.0 then
    throw (Fault.inner .valueError
      (if percent then "Percentiles must be in the range [0, 100]"
       else "Quantiles must be in the range [0, 1]"))
  if !quantileMethods.contains how then
    throw (Fault.inner .valueError s!"'{how}' is not a valid method. Use one of: dict_keys(['inverted_cdf', 'averaged_inverted_cdf', 'closest_observation', 'interpolated_inverted_cdf', 'hazen', 'weibull', 'linear', 'median_unbiased', 'normal_unbiased', 'lower', 'higher', 'midpoint', 'nearest'])")
  let xs ← doubles "add" a
  let missing := xs.any (·.isNaN)
  let sorted := ascending (xs.filter fun x => !x.isNaN)
  let keepsInts := kindOf a |>.isInteger
  let picked := how == "lower" || how == "higher" || how == "nearest"
  let at1 (f : Float) : Value :=
    if missing && !skip then Value.nan
    else
      let r := pickQuantile sorted f how
      if keepsInts && picked && !r.isNaN then .int (Num.truncate r) else .float r
  let vs := qs.map at1
  if isArray q then pure (valueArray vs) else pure (single (vs.getD 0 Value.nan))

/-- `np.concatenate(arrays)`: the values one after the other, of the kind they share. -/
def concatenate (arrays : Datum) : Outcome Datum := do
  let parts ← arrays.items?
  if parts.any fun d => !isArray d then
    throw (Fault.inner .valueError "zero-dimensional arrays cannot be concatenated")
  if parts.isEmpty then throw (Fault.inner .valueError "need at least one array to concatenate")
  let kind ← match Operand.commonOf (parts.map fun d => (Operand.ofDatum d).strong) with
    | .ok k => pure k
    | .error msg => throw (Fault.inner .typeError msg)
  let cells := parts.foldl (fun acc d => acc ++ valuesOf d) #[]
  pure (.array (Operand.arrayOf kind cells) .values)

/-- `np.roll(a, shift)`: values moved `shift` places, those falling off one end coming back at the
other. -/
def roll (a : Datum) (shift : Int) : Datum :=
  let vs := valuesOf a
  let n := vs.size
  let o := ownerOf #[] a
  if n == 0 then .array { o.col with label := .none } .values
  else
    let k := Int.emod shift n
    let cells := (Array.range n).map fun (i : Nat) =>
      vs.getD (Int.emod ((i : Int) - k) n).toNat .none
    .array { o.col with label := .none, cells } .values

def sortsBefore (a b : Float) : Bool :=
  a < b || (b.isNaN && !a.isNaN)

/-- The first place in ascending doubles `xs` whose value is not before `key` (`right`: is after
it). -/
def searchDoubles (xs : Array Float) (key : Float) (right : Bool) : Nat :=
  let goRight (v : Float) : Bool := if right then !(sortsBefore key v) else sortsBefore v key
  let step (bounds : Nat × Nat) (_ : Nat) : Nat × Nat :=
    let (lo, hi) := bounds
    if lo < hi then
      let mid := lo + (hi - lo) / 2
      if goRight (xs.getD mid nan) then (mid + 1, hi) else (lo, mid)
    else bounds
  ((List.range (xs.size + 1)).foldl step (0, xs.size)).1

/-- Which way bin edges go: `1` up (or all equal), `-1` down, `0` neither, after the leading equal
edges. -/
def monotonicity (edges : Array Float) : Int :=
  match edges.toList with
  | [] => 1
  | first :: rest =>
    match rest.dropWhile (· == first) with
    | [] => 1
    | next :: later =>
      let pairs := (next :: later).zip later
      if first < next then (if pairs.any fun (a, b) => a > b then 0 else 1)
      else (if pairs.any fun (a, b) => a < b then 0 else -1)

def digitize (x bins : Datum) (right : Bool) : Outcome Datum := do
  let edges ← doubles "searchsorted" bins
  let xs ← doubles "searchsorted" x
  let mono := monotonicity edges
  if mono == 0 then throw (Fault.inner .valueError "bins must be monotonically increasing or decreasing")
  let place (v : Float) : Int :=
    if mono == -1 then
      (edges.size : Int) - searchDoubles edges.reverse v right
    else searchDoubles edges v (!right)
  let ns := xs.map place
  if isArray x then pure (intArray ns) else pure (.element (.int (ns.getD 0 0)) .int64)

/-- Whether doubles are close: within `atol + rtol * |y|`, `y` finite, or equal; NaNs alike with
`sameNaN`. -/
def closeTo (rtol atol : Float) (sameNaN : Bool) (x y : Float) : Bool :=
  ((x - y).abs ≤ atol + rtol * y.abs && !y.isNaN && !y.isInf) || x == y
    || (sameNaN && x.isNaN && y.isNaN)

/-- `x` with the sign bit of `y`, so that `-0.0` counts as negative. -/
def copySign (x y : Float) : Float :=
  if y.toBits >>> 63 == 1 then -x.abs else x.abs

def wholeIn (name : String) (v : Value) : Outcome Int :=
  match v with
  | .int n => pure n
  | .bool t => pure (if t then 1 else 0)
  | _ => throw (noLoop name)

def divisorOf (name : String) (a b : Value) : Outcome Value := do
  let m ← wholeIn name a
  let n ← wholeIn name b
  let g : Int := (Int.gcd m n : Nat)
  if name == "gcd" then pure (.int g)
  else pure (.int (if g == 0 then 0 else wrap64 (m / g * n).natAbs))

/-- `np.ediff1d(a, to_end, to_begin)`: neighbours' differences, between `to_begin` and `to_end`. -/
def ediff1d (rows : Array Value) (a : Datum) (toEnd toBegin : Option Datum) : Outcome Datum := do
  let o := ownerOf rows a
  let c := o.col
  if c.dtype == .bool then
    throw boolSubtract
  let fits (name : String) (d : Datum) : Outcome (Array Value) := do
    let k := kindOf d
    let ok := k == c.dtype || (c.dtype.isFloat && (k.isInteger || k == .bool || k.isFloat))
      || (c.dtype.isInteger && (k.isInteger || k == .bool))
    if !ok then throw (Fault.inner .typeError
      s!"dtype of `{name}` must be compatible with input `ary` under the `same_kind` rule.")
    pure ((valuesOf d).map fun v => if c.dtype.isFloat then Value.float v.toDouble else v)
  let front ← match given toBegin with
    | some d => fits "to_begin" d
    | none => pure #[]
  let back ← match given toEnd with
    | some d => fits "to_end" d
    | none => pure #[]
  let steps ← (List.range (c.size - 1)).mapM fun i => do
    match c.cell (i + 1), c.cell i with
    | .int m, .int n => pure (Value.int (wrap64 (m - n)))
    | x, y => Value.arith .sub x y
  pure (.array { c with label := .none, cells := front ++ steps.toArray ++ back } .values)

/-- The equally spaced edges from `a` to `b` in `parts` steps, the last one exactly `b`. -/
def evenEdges (a b : Float) (parts : Nat) : Array Float :=
  let step := (b - a) / Float.ofNat parts
  (Array.range (parts + 1)).map fun i =>
    if i == parts then b
    else if step == 0.0 then Float.ofNat i / Float.ofNat parts * (b - a) + a
    else Float.ofNat i * step + a

/-- The counts of values in equal bins from `first` to `last`. -/
def evenCounts (xs : Array Float) (edges : Array Float) (first last : Float) (bins : Nat) :
    Array Int :=
  let kept := xs.filter fun x => x ≥ first && x ≤ last
  let slot (x : Float) : Nat :=
    let f := (x - first) / (last - first) * Float.ofNat bins
    let i := (Num.truncate f).toNat
    let i := if i == bins then i - 1 else i
    let i := if x < edges.getD i nan then i - 1 else i
    if x ≥ edges.getD (i + 1) nan && i != bins - 1 then i + 1 else i
  kept.foldl (fun acc x => acc.modify (slot x) (· + 1)) (Array.replicate bins 0)

/-- The counts of values between neighbouring ascending `edges`, the last bin closed on both sides.
-/
def edgeCounts (xs : Array Float) (edges : Array Float) : Array Int :=
  let sorted := ascending xs
  let n := edges.size
  let below := (edges.toList.take (n - 1)).map fun e => searchDoubles sorted e false
  let upto := (edges.toList.drop (n - 1)).map fun e => searchDoubles sorted e true
  let cum := (below ++ upto).toArray
  (Array.range (n - 1)).map fun i => (cum.getD (i + 1) 0 : Int) - cum.getD i 0

def histogram (a : Datum) (bins : Option Datum) (range : Option Datum) : Outcome Datum := do
  let xs ← doubles "histogram" a
  let fromRange : Outcome (Option (Float × Float)) := do
    match given range with
    | none => pure none
    | some r =>
      match (← r.items?).map valuesOf with
      | [lo, hi] =>
        let lo := (lo.getD 0 .none).toDouble
        let hi := (hi.getD 0 .none).toDouble
        if lo > hi then throw (Fault.inner .valueError "max must be larger than min in range parameter.")
        if lo.isNaN || lo.isInf || hi.isNaN || hi.isInf then
          throw (Fault.inner .valueError
            s!"supplied range of [{Value.floatText lo}, {Value.floatText hi}] is not finite")
        pure (some (lo, hi))
      | _ => throw (Fault.inner .valueError "too many values to unpack (expected 2)")
  match given bins with
  | some b =>
    if isArray b then
      let edges ← doubles "histogram" b
      let pairs := edges.toList.zip (edges.toList.drop 1)
      if pairs.any fun (x, y) => x > y then
        throw (Fault.inner .valueError "`bins` must increase monotonically, when an array")
      let counts := edgeCounts xs edges
      let edgeColumn : Column := { label := .none, dtype := kindOf b, cells := valuesOf b }
      let edgeArray : Datum := .array edgeColumn .values
      return .seq false [intArray counts, edgeArray]
  | none => pure ()
  let count ← match given bins with
    | none => pure (10 : Int)
    | some (.scalar (.int n)) | some (.element (.int n) _) => pure n
    | some _ => throw (Fault.inner .typeError "`bins` must be an integer, a string, or an array")
  if count < 1 then throw (Fault.inner .valueError "`bins` must be positive, when an integer")
  let parts := count.toNat
  let (first, last) ← match ← fromRange with
    | some r => pure r
    | none =>
      if xs.isEmpty then pure (0.0, 1.0)
      else
        let lo := xs.foldl (fun m x => if x.isNaN || m.isNaN then nan else if x < m then x else m) (xs.getD 0 nan)
        let hi := xs.foldl (fun m x => if x.isNaN || m.isNaN then nan else if x > m then x else m) (xs.getD 0 nan)
        if lo.isNaN || lo.isInf || hi.isNaN || hi.isInf then
          let shown (x : Float) : String :=
            if kindOf a |>.isInteger then Value.text (.int (Num.truncate x)) else Value.floatText x
          throw (Fault.inner .valueError s!"autodetected range of [{shown lo}, {shown hi}] is not finite")
        pure (lo, hi)
  let (first, last) := if first == last then (first - 0.5, last + 0.5) else (first, last)
  let edges := evenEdges first last parts
  pure (.seq false [intArray (evenCounts xs edges first last parts), doubleArray edges])

/-- `np.unique` with `return_index`, `return_inverse` or `return_counts`: distinct values, then each
list asked. -/
def uniqueWith (a : Datum) (firsts inverse counts : Bool) : Outcome Datum := do
  let vs := valuesOf a
  let order := (Array.range vs.size).toList.mergeSort fun i j =>
    (vs.getD i .none).sortOrder (vs.getD j .none) != .gt
  let sameEntry (x y : Value) : Bool := Value.sameEntry x y || (x.isMissing && y.isMissing)
  let groups := order.foldl (fun (acc : Array (Array Nat)) i =>
    match acc.back? with
    | some g =>
      if sameEntry (vs.getD (g.getD 0 0) .none) (vs.getD i .none) then acc.pop.push (g.push i)
      else acc.push #[i]
    | none => #[#[i]]) #[]
  let o := ownerOf #[] a
  let distinctCells := groups.map fun g => vs.getD (g.getD 0 0) .none
  let distinct : Datum := .array { o.col with label := .none, cells := distinctCells } .values
  let firstPlaces := intArray (groups.map fun g => (g.foldl min (g.getD 0 0) : Nat))
  let slotOf := groups.zipIdx.foldl (fun (acc : Array Int) (g, k) =>
    g.foldl (fun acc i => acc.set! i k) acc) (Array.replicate vs.size 0)
  let parts := [some distinct, if firsts then some firstPlaces else none,
    if inverse then some (intArray slotOf) else none,
    if counts then some (intArray (groups.map fun g => (g.size : Int))) else none]
  pure (.seq false (parts.filterMap id))

/-- The element-wise functions of the array library, which have `reduce` and `accumulate`. -/
def ufuncNames : List String :=
  ["add", "subtract", "multiply", "divide", "true_divide", "floor_divide", "mod", "remainder",
   "fmod", "maximum", "minimum", "fmax", "fmin", "logical_and", "logical_or", "logical_xor",
   "logical_not", "bitwise_and", "bitwise_or", "bitwise_xor", "invert", "left_shift",
   "right_shift", "gcd", "lcm", "copysign", "hypot", "arctan2", "isnan", "isinf", "isfinite",
   "signbit", "sign", "square", "negative", "trunc", "rint", "sin", "cos", "tan", "arcsin",
   "arccos", "arctan", "sinh", "cosh", "tanh", "arcsinh", "arccosh", "arctanh", "cbrt", "exp2",
   "log2", "log1p", "expm1", "deg2rad", "rad2deg", "degrees", "radians", "fabs"]

def isUfunc (f : String) : Bool :=
  ["abs", "ceil", "floor", "sqrt", "log", "log10", "exp", "pow"].contains f
    || (f.startsWith "numpy." && ufuncNames.contains (f.drop 6).toString)

def ufuncName (f : String) : String :=
  match f with
  | "abs" => "absolute"
  | "pow" => "power"
  | f => if f.startsWith "numpy." then (f.drop 6).toString else f

def inputCount (name : String) : Nat :=
  if ["add", "subtract", "multiply", "divide", "true_divide", "floor_divide", "mod", "remainder",
      "fmod", "maximum", "minimum", "fmax", "fmin", "logical_and", "logical_or", "logical_xor",
      "bitwise_and", "bitwise_or", "bitwise_xor", "left_shift", "right_shift", "gcd", "lcm",
      "copysign", "hypot", "arctan2", "power"].contains name then 2 else 1

def step (name : String) (a b : Value) : Outcome Value := do
  let whole (op : ArithOp) : Outcome Value := do
    match a, b with
    | .int m, .int n =>
      match op with
      | .add => pure (.int (wrap64 (m + n)))
      | .sub => pure (.int (wrap64 (m - n)))
      | .mul => pure (.int (wrap64 (m * n)))
      | _ => Value.arith op a b
    | _, _ =>
      if a.isMissing || b.isMissing then
        match op with
        | .add | .sub | .mul | .div => pure Value.nan
        | _ => Value.arith op a b
      else Value.arith op a b
  match name with
  | "add" => whole .add
  | "subtract" => whole .sub
  | "multiply" => whole .mul
  | "divide" | "true_divide" =>
    let x := a.toDouble
    let y := b.toDouble
    pure (.float (x / y))
  | "maximum" | "minimum" | "fmax" | "fmin" =>
    extremeOf (name == "maximum" || name == "fmax") (name.startsWith "f") a b
  | "logical_and" => pure (.bool (a.truthy && b.truthy))
  | "logical_or" => pure (.bool (a.truthy || b.truthy))
  | "logical_xor" => pure (.bool (a.truthy != b.truthy))
  | "bitwise_and" | "bitwise_or" | "bitwise_xor" =>
    match a, b with
    | .bool x, .bool y =>
      pure (.bool (if name == "bitwise_and" then x && y else if name == "bitwise_or" then x || y else x != y))
    | _, _ =>
      let m ← wholeIn name a
      let n ← wholeIn name b
      pure (.int (bitOp (if name == "bitwise_and" then .bitAnd else if name == "bitwise_or" then .bitOr else .bitXor) m n))
  | "gcd" | "lcm" => divisorOf name a b
  | _ => throw (Fault.inner .valueError s!"reduce only supported for binary functions")

def identity? (name : String) : Option Value :=
  match name with
  | "add" | "bitwise_or" | "bitwise_xor" | "gcd" => some (.int 0)
  | "multiply" | "lcm" => some (.int 1)
  | "logical_and" => some (.bool true)
  | "logical_or" | "logical_xor" => some (.bool false)
  | "bitwise_and" => some (.int (-1))
  | _ => none

/-- The name under which a series answers the fold of an element-wise function itself. -/
def seriesFold? (name : String) : Option String :=
  match name with
  | "add" => some "sum"
  | "multiply" => some "prod"
  | "maximum" => some "max"
  | "minimum" => some "min"
  | _ => none

/-- `f.reduce(a)`: the values of `a` folded by `f`; doubles are summed pairwise, as the library
does. -/
def reduce (call : Datum → List Datum → Outcome Datum) (rows : Array Value) (f : String)
    (a : Datum) : Outcome Datum := do
  let name := ufuncName f
  if inputCount name != 2 then
    throw (Fault.inner .valueError "reduce only supported for binary functions")
  if isSeries a then
    if let some m := seriesFold? name then
      return ← Methods.call call (ownerOf rows a) m [] [("skipna", .scalar (.bool false))]
  let vs := valuesOf a
  let kind := kindOf a
  if name == "add" && kind.isFloat then
    return .element (.float (pairwiseSum (vs.map fun v => if v.isMissing then nan else v.toDouble))) kind
  match vs.toList with
  | [] =>
    match identity? name with
    | some v => pure (single (if kind.isFloat then Value.float v.toDouble else v))
    | none => throw (Fault.inner .valueError
        s!"zero-size array to reduction operation {name} which has no identity")
  | first :: rest =>
    let r ← rest.foldlM (step name) first
    match r with
    | .int _ | .float _ | .bool _ =>
      let k := (Column.infer .none #[r]).dtype
      pure (.element r (if kind.isInteger && k.isInteger then kind else k))
    | r => pure (.scalar r)

/-- `f.accumulate(a)`: each partial fold of `a` by `f`; a series keeps its row labels. -/
def accumulate (rows : Array Value) (f : String) (a : Datum) : Outcome Datum := do
  let name := ufuncName f
  if inputCount name != 2 then
    throw (Fault.inner .valueError "accumulate only supported for binary functions")
  let o := ownerOf rows a
  let vs := valuesOf a
  let (_, cells) ← vs.foldlM (fun (acc : Option Value × Array Value) v => do
    match acc.1 with
    | none => pure (some v, acc.2.push v)
    | some r =>
      let r ← step name r v
      pure (some r, acc.2.push r)) (none, #[])
  let c := Column.infer .none cells
  let c := if o.col.dtype.isFloat then { c with dtype := o.col.dtype, cells := c.cells.map Value.asFloat }
    else c
  if isSeries a then pure (o.wrap { c with label := o.col.label }) else pure (.array c .values)

/-- The arguments a series summary refuses: unknown ones, then known ones with another value than it
takes. -/
def seriesChecks (fname : String) (known : List (String × Value)) (kwargs : List (String × Datum)) :
    Outcome Unit := do
  for (k, _) in kwargs do
    if !(known.any (·.1 == k)) then
      throw (Fault.inner .typeError s!"{fname}() got an unexpected keyword argument '{k}'")
  for (k, v) in kwargs do
    match known.find? (·.1 == k), v with
    | some (_, .none), .scalar .none => pure ()
    | some (_, .bool b), .scalar (.bool c) => if b != c then throw (Fault.inner .valueError
        s!"the '{k}' parameter is not supported in the pandas implementation of {fname}()")
    | some _, _ => throw (Fault.inner .valueError
        s!"the '{k}' parameter is not supported in the pandas implementation of {fname}()")
    | none, _ => pure ()

def summaryKeys (name : String) : List (String × Value) :=
  let base : List (String × Value) := [("dtype", .none), ("out", .none)]
  match name with
  | "sum" | "prod" => base ++ [("axis", .none), ("keepdims", .bool false), ("initial", .none)]
  | "min" | "max" | "amin" | "amax" => base ++ [("axis", .none), ("keepdims", .bool false)]
  | "std" | "var" => base ++ [("keepdims", .bool false)]
  | "any" | "all" => [("out", .none), ("keepdims", .bool false)]
  | _ => base

def summaryParams (name : String) : List String :=
  match name with
  | "sum" | "prod" => ["a", "axis", "dtype", "out", "keepdims", "initial", "where"]
  | "min" | "max" | "amin" | "amax" => ["a", "axis", "out", "keepdims", "initial", "where"]
  | "mean" => ["a", "axis", "dtype", "out", "keepdims", "where"]
  | "std" | "var" => ["a", "axis", "dtype", "out", "ddof", "keepdims", "where", "mean", "correction"]
  | _ => ["a", "axis", "out", "keepdims", "where"]

def names : List String :=
  ["average", "ptp", "nanstd", "nanvar", "nanmedian", "nanprod", "nanargmax", "nanargmin",
   "nancumsum", "nancumprod", "percentile", "quantile", "nanpercentile", "nanquantile",
   "concatenate", "flip", "roll", "argsort", "searchsorted", "digitize", "isclose", "allclose",
   "copysign", "gcd", "lcm", "bitwise_and", "bitwise_or", "bitwise_xor", "left_shift",
   "right_shift", "invert", "bitwise_not", "signbit", "fix", "ediff1d", "histogram"]

def call (rows : Array Value) (callback : Datum → List Datum → Outcome Datum) (name : String)
    (rawArgs : List Datum) (rawKwargs : List (String × Datum)) : Outcome Datum := do
  let seriesGiven := (rawArgs ++ rawKwargs.map (·.2)).any isSeries
  -- the functions made elsewhere take plain arrays as columns
  let args := rawArgs.map Datum.plain
  let kwargs := rawKwargs.map fun (k, v) => (k, v.plain)
  let callArray (rows : Array Value) (callback : Datum → List Datum → Outcome Datum)
      (name : String) (args : List Datum) (kwargs : List (String × Datum)) : Outcome Datum := do
    let r ← Libraries.callArray rows callback name args kwargs
    pure (if seriesGiven then r else asValues r)
  let p (i : Nat) (k : String) : Option Datum := param rawArgs rawKwargs i k
  let need := needParam name rawArgs rawKwargs
  let x := (p 0 "a").getD (.scalar .none)
  let summaries := ["sum", "prod", "min", "max", "amin", "amax", "mean", "std", "var", "any", "all"]
  if summaries.contains name && isSeries x then
    let params := summaryParams name
    for (k, _) in kwargs do
      if !params.contains k then
        throw (Fault.raised .typeError s!"{name}() got an unexpected keyword argument '{k}'")
    let fname := if name == "amin" then "min" else if name == "amax" then "max" else name
    let passed := kwargs.filter fun (k, _) => !(["a", "axis", "ddof"].contains k)
      && !(k == "dtype" && (fname == "any" || fname == "all"))
    seriesChecks fname (summaryKeys fname) passed
    return ← callArray rows callback name args (kwargs.filter fun (k, _) => k == "ddof" || k == "axis")
  if name == "unique" then
    let firsts ← flag (p 1 "return_index") false
    let inverse ← flag (p 2 "return_inverse") false
    let counts ← flag (p 3 "return_counts") false
    if firsts || inverse || counts then return ← uniqueWith (← need 0 "ar") firsts inverse counts
  if !names.contains name then return ← callArray rows callback name args kwargs
  match name with
  | "average" => average (← need 0 "a") (p 2 "weights") (← flag (p 3 "returned") false)
  | "ptp" => ptp (← need 0 "a")
  | "nanstd" | "nanvar" =>
    let ddof ← match given (p 4 "ddof") with
      | some d => Strings.intArg d
      | none => pure 0
    let v := spreadOf ddof (← doubles "add" (← need 0 "a"))
    pure (.element (.float (if name == "nanstd" then v.sqrt else v)) .float64)
  | "nanmedian" =>
    pure (.element (.float (middleOf (ascending (← presentDoubles "add" (← need 0 "a"))))) .float64)
  | "nanprod" =>
    let a ← need 0 "a"
    if (kindOf a).isFloat || (valuesOf a).any (·.isMissing) then
      let xs ← presentDoubles "multiply" a
      pure (.element (.float (xs.foldl (· * ·) 1.0)) .float64)
    else
      let ns ← (valuesOf a).mapM (wholeIn "multiply")
      pure (.element (.int (ns.foldl (fun acc n => wrap64 (acc * n)) 1)) .int64)
  | "nanargmax" | "nanargmin" =>
    let xs ← doubles name (← need 0 "a")
    if xs.all (·.isNaN) then throw (Fault.inner .valueError "All-NaN slice encountered")
    pure (.element (.int (extremePlace (name == "nanargmax") xs)) .int64)
  | "nancumsum" | "nancumprod" =>
    let a ← need 0 "a"
    let fill := if name == "nancumsum" then Value.int 0 else Value.int 1
    let filled := (valueArray ((valuesOf a).map fun v =>
      if v.isMissing then (if (kindOf a).isFloat || (kindOf a) == .object then Value.float fill.toDouble else fill)
      else v))
    let r ← callArray rows callback (if name == "nancumsum" then "cumsum" else "cumprod") [filled] []
    pure (asValues r)
  | "percentile" | "quantile" | "nanpercentile" | "nanquantile" =>
    let how := match given (p 3 "method") with
      | some (.scalar (.str s)) => s
      | _ => "linear"
    quantiles name (← need 0 "a") (← need 1 "q") how
  | "concatenate" => concatenate (← need 0 "arrays")
  | "flip" =>
    let m ← need 0 "m"
    if isSeries m then
      let o := ownerOf rows m
      pure (.series { o.col with cells := o.col.cells.reverse } o.labels.reverse)
    else
      let o := ownerOf rows m
      pure (.array { o.col with label := .none, cells := o.col.cells.reverse } .values)
  | "roll" =>
    let shift ← match p 1 "shift" with
      | some d => Strings.intArg d
      | none => throw (Fault.raised .typeError "roll() missing required argument 'shift' (pos 2)")
    pure (roll (← need 0 "a") shift)
  | "argsort" =>
    let a ← need 0 "a"
    if isSeries a then Methods.call callback (ownerOf rows a) "argsort" [] []
    else
      let vs := valuesOf a
      let order := (Array.range vs.size).toList.mergeSort fun i j =>
        let x := vs.getD i .none
        let y := vs.getD j .none
        if x.isMissing then y.isMissing
        else y.isMissing || x.sortOrder y != .gt
      pure (intArray (order.toArray.map fun (i : Nat) => (i : Int)))
  | "searchsorted" =>
    let a ← need 0 "a"
    let v ← need 1 "v"
    let right ← match given (p 2 "side") with
      | some (.scalar (.str "right")) => pure true
      | some (.scalar (.str "left")) | none => pure false
      | some (.scalar (.str s)) => throw (Fault.inner .valueError
          s!"side must be 'left' or 'right' (got '{s}')")
      | some _ => throw (Fault.inner .typeError "side must be a string")
    if isSeries a then
      Methods.call callback (ownerOf rows a) "searchsorted" [v]
        [("side", .scalar (.str (if right then "right" else "left")))]
    else
      let places ← Methods.searchSorted (valuesOf a) (valuesOf v).toList right
      let ns := places.toArray.map fun (i : Nat) => (i : Int)
      if isArray v then pure (intArray ns) else pure (.element (.int (ns.getD 0 0)) .int64)
  | "digitize" =>
    digitize (← need 0 "x") (← need 1 "bins") (← flag (p 2 "right") false)
  | "isclose" | "allclose" =>
    let a ← need 0 "a"
    let b ← need 1 "b"
    let number (d : Option Datum) (default : Float) : Outcome Float := do
      match given d with
      | some d => pure ((← doubles "multiply" d).getD 0 default)
      | none => pure default
    let rtol ← number (p 2 "rtol") 1e-05
    let atol ← number (p 3 "atol") 1e-08
    let sameNaN ← flag (p 4 "equal_nan") false
    let xs ← doubles "isfinite" a
    let ys ← doubles "isfinite" b
    let n := max xs.size ys.size
    let at1 (zs : Array Float) (d : Datum) (i : Nat) : Float :=
      if isArray d then zs.getD i nan else zs.getD 0 nan
    let truths := (Array.range n).map fun i => closeTo rtol atol sameNaN (at1 xs a i) (at1 ys b i)
    if name == "allclose" then pure (.scalar (.bool (truths.all id)))
    else if isArray a || isArray b then
      pure (.array { label := .none, dtype := .bool, cells := truths.map Value.bool } .values)
    else pure (.element (.bool (truths.getD 0 false)) .bool)
  | "copysign" =>
    let a ← need 0 "x1"
    let b ← need 1 "x2"
    let r ← pairwise rows (fun u v => do
      match u, v with
      | .int _, _ | .float _, _ | .bool _, _ =>
        match v with
        | .int _ | .float _ | .bool _ => pure (.float (copySign u.toDouble v.toDouble))
        | _ => throw (noLoop name)
      | _, _ => throw (noLoop name)) a b
    pure (answered [a, b] r)
  | "gcd" | "lcm" =>
    let a ← need 0 "x1"
    let b ← need 1 "x2"
    pure (answered [a, b] (← pairwise rows (divisorOf name) a b))
  | "bitwise_and" | "bitwise_or" | "bitwise_xor" | "left_shift" | "right_shift" =>
    let a ← need 0 "x1"
    let b ← need 1 "x2"
    let op : BinOp := match name with
      | "bitwise_and" => .bitAnd
      | "bitwise_or" => .bitOr
      | "bitwise_xor" => .bitXor
      | "left_shift" => .shiftLeft
      | _ => .shiftRight
    pure (answered [a, b] (← Datum.binary rows op a.plain b.plain))
  | "invert" | "bitwise_not" =>
    let a ← need 0 "x"
    if (kindOf a).isFloat then throw (noLoop "invert")
    pure (answered [a] (← a.plain.invert))
  | "signbit" =>
    let a ← need 0 "x"
    pure (answered [a] (← eachTest rows name (fun f => f.toBits >>> 63 == 1) a))
  | "fix" =>
    let a ← need 0 "x"
    let r ← eachNumber rows name true (fun f => if f < 0.0 then f.ceil else f.floor) id a
    pure (answered [a] r)
  | "ediff1d" => ediff1d rows (← need 0 "ary") (p 1 "to_end") (p 2 "to_begin")
  | _ => histogram (← need 0 "a") (p 1 "bins") (p 2 "range")

end ArrayLibrary

end PipeQuery.Calc
