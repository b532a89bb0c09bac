import PipeQuery.Calc.Libraries
import PipeQuery.Calc.Windows
import PipeQuery.Table.Merge

/-!
# Calculations: further methods of columns

The methods of a column beyond the plain summaries of `Members.call`: moments (`sem`, `skew`,
`kurt`), picking with `keep` (`nlargest`, `duplicated`, `take`, `reindex`, ...), searching and
ordering, methods of two columns (`dot`, `corr`, `cov`, ...), conversions, `agg`/`apply` given
names of methods, and the windows of `Calc.Windows`.
-/

namespace PipeQuery.Calc

namespace Methods

def seriesFault (name : String) : Fault :=
  Fault.raised .attributeError s!"'Series' object has no attribute '{name}'"

def flagOr (d : Option Datum) (default : Bool) : Outcome Bool :=
  match d with
  | some x => x.truth
  | none => pure default

def presentRows (c : Column) : Array Nat :=
  (Array.range c.size).filter fun i => !(c.cell i).isMissing

def stableOrder (c : Column) (rows : Array Nat) : Array Nat :=
  (rows.toList.mergeSort fun i j => (c.cell i).sortOrder (c.cell j) != .gt).toArray

/-- The rows `nlargest`/`nsmallest` keeps of `n`, ties by `keep`, then missing rows. -/
def selectN (c : Column) (n : Int) (largest : Bool) (keep : String) : Outcome (Array Nat) := do
  let method := if largest then "nlargest" else "nsmallest"
  if !(["first", "last", "all"].contains keep) then
    throw (Fault.inner .valueError "keep must be either \"first\", \"last\" or \"all\"")
  if !((c.dtype.isNumeric || c.dtype.isTimeLike || c.dtype matches .nullable _) && c.dtype != .complex128) then
    throw (Fault.inner .typeError s!"Cannot use method '{method}' with dtype {c.dtype.name}")
  if n ≤ 0 then return #[]
  let missing := (Array.range c.size).filter fun i => (c.cell i).isMissing
  if n ≥ c.size then
    return (orderByKey c (!largest) (Array.range c.size)).extract 0 n.toNat
  let present := presentRows c
  let rows := if keep == "last" then present.reverse else present
  let before (i j : Nat) : Bool :=
    let o := (c.cell i).sortOrder (c.cell j)
    if largest then o != .lt else o != .gt
  let sorted := (rows.toList.mergeSort before).toArray
  let k := min n.toNat sorted.size
  if k == 0 then return missing.extract 0 n.toNat
  let kth := sorted.getD (k - 1) 0
  let within := sorted.filter fun i =>
    let o := (c.cell i).sortOrder (c.cell kth)
    if largest then o != .lt else o != .gt
  if keep == "all" then
    let total := if within.size < n.toNat && n.toNat ≤ missing.size + within.size then
        missing.size + within.size
      else within.size
    pure ((within ++ missing).extract 0 total)
  else pure ((within.extract 0 n.toNat ++ missing).extract 0 n.toNat)

/-- Which rows repeat an earlier row (`keep = "first"`), a later one (`"last"`), or any other
(`False`). -/
def repeated (c : Column) (keep : Datum) : Outcome (Array Bool) := do
  let same (i j : Nat) : Bool := Value.sameEntry (c.cell i) (c.cell j)
  let n := c.size
  match keep with
  | .scalar (.str "first") => pure ((Array.range n).map fun i => (List.range i).any (same i))
  | .scalar (.str "last") =>
    pure ((Array.range n).map fun i => ((List.range n).filter (· > i)).any (same i))
  | .scalar (.bool false) =>
    pure ((Array.range n).map fun i => ((List.range n).filter (· != i)).any (same i))
  | _ => throw (Fault.inner .valueError "keep must be either \"first\", \"last\" or False")

def sortsBefore (a b : Value) : Outcome Bool :=
  match a, b with
  | .float x, _ => if x.isNaN then pure false else
      match b with
      | .float y => pure (x < y || y.isNaN)
      | _ => (Value.compareBy .lt a b).mapError Fault.surfaced
  | _, .float y => if y.isNaN then pure true else (Value.compareBy .lt a b).mapError Fault.surfaced
  | _, _ => (Value.compareBy .lt a b).mapError Fault.surfaced

/-- The array library's binary search in `xs` for each key (`right`: the first position after it).
-/
def searchSorted (xs : Array Value) (keys : List Value) (right : Bool) : Outcome (List Nat) := do
  let n := xs.size
  let search (lo hi : Nat) (key : Value) : Outcome Nat := do
    let mut lo := lo
    let mut hi := hi
    for _ in List.range (2 * n + 2) do
      if lo < hi then
        let mid := lo + (hi - lo) / 2
        let v := xs.getD mid .none
        let goRight ← if right then do pure !(← sortsBefore key v) else sortsBefore v key
        if goRight then lo := mid + 1 else hi := mid
    pure lo
  match keys with
  | [] => pure []
  | first :: _ =>
    let step (acc : List Nat × Nat × Nat × Value) (key : Value) : Outcome (List Nat × Nat × Nat × Value) := do
      let (out, lo, hi, last) := acc
      let (lo, hi) ← if ← sortsBefore last key then pure (lo, n)
        else pure (0, if hi < n then hi + 1 else n)
      let r ← search lo hi key
      pure (out ++ [r], r, hi, key)
    let (out, _, _, _) ← keys.foldlM step ([], 0, n, first)
    pure out

/-- The positions of `c`'s present values in a stable sort; missing values give `-1`, positions
counting present values. -/
def argsorted (c : Column) : Outcome (Array Value) := do
  let present := presentRows c
  if c.dtype == .object then
    for i in present do
      for j in present do
        let _ ← (Value.compareBy .lt (c.cell i) (c.cell j)).mapError Fault.surfaced
  let order := stableOrder c present
  let rank := order.map fun i => present.findIdx? (· == i)
  let ranks := rank.map fun r => r.getD 0
  let slots := (Array.range c.size).map fun i =>
    if (c.cell i).isMissing then Value.int (-1) else Value.int 0
  let presentSlots := (Array.range c.size).filter fun i => !(c.cell i).isMissing
  pure ((presentSlots.zip ranks).foldl (fun acc (slot, r) => acc.set! slot (.int r)) slots)

def dotDoubles (xs ys : Array Float) : Float :=
  (xs.zip ys).foldl (fun acc (x, y) => acc + x * y) 0.0

def meanOf (xs : Array Float) : Float :=
  pairwiseSum xs / Float.ofNat xs.size

/-- The entries of `cov` for two lists of doubles less `ddof` degrees of freedom. -/
def covariances (xs ys : Array Float) (ddof : Nat) : Float × Float × Float :=
  let dx := xs.map (· - meanOf xs)
  let dy := ys.map (· - meanOf ys)
  let fact := Float.ofNat xs.size - Float.ofNat ddof
  let scale := 1.0 / (if fact ≤ 0.0 then 0.0 else fact)
  (dotDoubles dx dx * scale, dotDoubles dx dy * scale, dotDoubles dy dy * scale)

/-- The correlation `corrcoef` gives (entry `[0, 1]`, or `[1, 0]` with `swap`), kept within
`[-1, 1]`. -/
def pearson (xs ys : Array Float) (swap : Bool) : Float :=
  let (cxx, cxy, cyy) := covariances xs ys 1
  let sx := cxx.sqrt
  let sy := cyy.sqrt
  let r := if swap then cxy / sy / sx else cxy / sx / sy
  if r.isNaN then r else if r > 1.0 then 1.0 else if r < -1.0 then -1.0 else r

/-- The ranks of doubles from one, ties sharing the mean of their ranks. -/
def averageRanks (xs : Array Float) : Array Float :=
  xs.map fun x =>
    let below := (xs.filter (· < x)).size
    let ties := (xs.filter (· == x)).size
    Float.ofNat below + (Float.ofNat ties + 1.0) / 2.0

/-- Kendall's tau-b: concordant less discordant pairs over the roots of the pairs not tied in each
list; NaN when one is all ties. -/
def kendall (xs ys : Array Float) : Float :=
  let n := xs.size
  let pairs := (List.range n).flatMap fun i => ((List.range n).filter (· > i)).map fun j => (i, j)
  let sign (a b : Float) : Int := if a < b then -1 else if a > b then 1 else 0
  let balance : Int := pairs.foldl (fun acc (i, j) =>
    acc + sign (xs.getD i 0.0) (xs.getD j 0.0) * sign (ys.getD i 0.0) (ys.getD j 0.0)) 0
  let tiedX := (pairs.filter fun (i, j) => xs.getD i 0.0 == xs.getD j 0.0).length
  let tiedY := (pairs.filter fun (i, j) => ys.getD i 0.0 == ys.getD j 0.0).length
  let total := pairs.length
  if tiedX == total || tiedY == total then 0.0 / 0.0
  else
    let tau := Num.intToFloat balance / (Float.ofNat (total - tiedX)).sqrt /
      (Float.ofNat (total - tiedY)).sqrt
    if tau > 1.0 then 1.0 else if tau < -1.0 then -1.0 else tau

def doublesOf (c : Column) : Outcome (Array Float) :=
  c.cells.mapM fun v => do
    if v.isMissing then pure (0.0 / 0.0)
    else match ← doubleOf v with
      | .float x => pure x
      | _ => pure (0.0 / 0.0)

/-- Two columns' values paired by row label (the inner join, in the first's order), as doubles. -/
def paired (a : Owner) (b : Owner) : Outcome (Array Float × Array Float) := do
  let xs ← doublesOf a.col
  let ys ← doublesOf b.col
  if a.labels.size == b.labels.size && (a.labels.zip b.labels).all fun (x, y) => Value.sameEntry x y then
    pure (xs, ys)
  else
    let hits := (Array.range a.labels.size).filterMap fun i =>
      (b.labels.findIdx? (Value.sameEntry (a.labels.getD i .none))).map fun j => (i, j)
    pure (hits.map (fun (i, _) => xs.getD i 0.0), hits.map (fun (_, j) => ys.getD j 0.0))

def bothPresent (xs ys : Array Float) : Array Float × Array Float :=
  let keep := (xs.zip ys).filter fun (x, y) => !x.isNaN && !y.isNaN
  (keep.map (·.1), keep.map (·.2))

/-- A double in the interchange text of columns: ten decimals at most, trailing zeros dropped but
one. -/
def jsonDouble (x : Float) : String :=
  if x.isNaN || x.isInf then "null"
  else
    let neg := x < 0.0
    let v := x.abs
    if v > 1e16 - 1.0 || (v != 0.0 && v < 1e-15) then Value.floatText x
    else
      let scale := 10000000000.0
      let whole := v.floor
      let tmp := (v - whole) * scale
      let frac := tmp.floor
      let diff := tmp - frac
      let fracN : Nat := (Num.truncate frac).toNat
      let fracN := if diff > 0.5 || (diff == 0.5 && (fracN == 0 || fracN % 2 == 1)) then fracN + 1 else fracN
      let (wholeN, fracN) := if fracN ≥ 10000000000 then ((Num.truncate whole).toNat + 1, 0)
        else ((Num.truncate whole).toNat, fracN)
      let digits := toString fracN
      let padded := String.ofList (List.replicate (10 - digits.length) '0') ++ digits
      let trimmed := (padded.toList.reverse.dropWhile (· == '0')).reverse
      let fracText := if trimmed.isEmpty then "0" else String.ofList trimmed
      (if neg then "-" else "") ++ toString wholeN ++ "." ++ fracText

/-- A text as the interchange text quotes it: ASCII only, with the forward slash escaped too. -/
def jsonText (s : String) : String :=
  let escape (c : Char) : String :=
    match c with
    | '"' => "\\\""
    | '\\' => "\\\\"
    | '/' => "\\/"
    | '\n' => "\\n"
    | '\r' => "\\r"
    | '\t' => "\\t"
    | '\x08' => "\\b"
    | '\x0c' => "\\f"
    | c =>
      if c.toNat < 32 || c.toNat > 126 then
        if c.toNat > 0xFFFF then
          let v := c.toNat - 0x10000
          "\\u" ++ Text.hexPadded 4 (0xD800 + v / 0x400) ++ "\\u" ++ Text.hexPadded 4 (0xDC00 + v % 0x400)
        else "\\u" ++ Text.hexPadded 4 c.toNat
      else c.toString
  "\"" ++ String.join (s.toList.map escape) ++ "\""

def jsonValue (v : Value) : String :=
  match v with
  | .none | .na | .nat => "null"
  | .bool b => if b then "true" else "false"
  | .int n => toString n
  | .float x => jsonDouble x
  | .str s => jsonText s
  | .time ns => toString (ns / 1000000)
  | .span ns => toString (ns / 1000000)
  | v => jsonText v.text

def jsonKey (v : Value) : String :=
  match v with
  | .str s => jsonText s
  | .float x => jsonText (Value.floatText x)
  | v => jsonText v.text

/-- The type `convert_dtypes` gives a column. -/
def convertedType (c : Column) : DType :=
  let present := c.cells.toList.filter (!·.isMissing)
  let allWhole := present.all fun v => match v with
    | .int _ => true
    | .float x => !x.isInf && x.floor == x
    | _ => false
  match c.dtype with
  | .bool => .nullable .bool
  | .float64 | .float32 => if allWhole then .nullable .int64 else .nullable .float64
  | .object =>
    if !present.isEmpty && present.all (· matches .str _) then .text
    else if !present.isEmpty && present.all (· matches .bool _) then .nullable .bool
    else if !present.isEmpty && present.all (fun v => v matches .int _ || v matches .float _) then
      if allWhole then .nullable .int64 else .nullable .float64
    else .object
  | d => if d.isInteger then .nullable d else d

def converted (c : Column) : Column :=
  match convertedType c with
  | .nullable inner =>
    { c with dtype := .nullable inner, cells := c.cells.map fun v =>
        if v.isMissing then .na
        else if inner == .bool then .bool v.truthy
        else if inner.isInteger then .int v.toInteger
        else .float v.toDouble }
  | .text => { c with dtype := .text, cells := c.cells.map fun v => if v.isMissing then .na else v }
  | _ => c

def validLabel (o : Owner) (last : Bool) : Datum :=
  let rows := presentRows o.col
  let pick := if last then rows.back? else rows[0]?
  match pick with
  | some i => .scalar (o.labels.getD i .none)
  | none => .scalar .none

/-- Whether values go up (`up`) or down throughout, never across a missing value. -/
def monotonic (c : Column) (up : Bool) : Bool :=
  if c.cells.any (·.isMissing) then false
  else
    let steps := (List.range (c.size - 1)).map fun i => (c.cell i, c.cell (i + 1))
    steps.all fun (a, b) =>
      match Value.compareBy (if up then .le else .ge) a b with
      | .ok r => r
      | .error _ => false

def labelsOf (d : Datum) : Outcome (Array Value) := do
  match d with
  | .column c | .series c _ | .array c _ => pure c.cells
  | d => return ((← d.items?).map fun x => match x with
      | .scalar v | .element v _ => v
      | _ => .none).toArray

def rowOf (labels : Array Value) (l : Value) : Option Nat :=
  labels.findIdx? (Value.sameEntry l)

def property? (o : Owner) (name : String) : Option Datum :=
  match name with
  | "is_monotonic_increasing" => some (.scalar (.bool (monotonic o.col true)))
  | "is_monotonic_decreasing" => some (.scalar (.bool (monotonic o.col false)))
  | "nbytes" => some (.scalar (.int (o.col.size * Libraries.itemSize o.col.dtype)))
  | "axes" => some (.seq true [.array (Column.infer .none o.labels) (.labels none)])
  | "flags" => some (.scalar (.other "Flags" "<Flags(allows_duplicate_labels=True)>"))
  | _ => none

def names : List String :=
  ["sem", "skew", "kurt", "kurtosis", "rolling", "expanding", "ewm", "to_dict", "searchsorted",
   "repeat", "take", "dot", "corr", "cov", "autocorr", "argsort", "equals", "first_valid_index",
   "last_valid_index", "convert_dtypes", "combine_first", "divmod", "rdivmod", "reindex",
   "truncate", "to_json", "pipe", "infer_objects", "set_axis", "compare", "asof", "ravel", "keys",
   "get", "squeeze", "add_prefix", "add_suffix", "drop", "nlargest", "nsmallest", "duplicated",
   "drop_duplicates", "agg", "aggregate", "apply", "transform", "factorize", "filter",
   "rename_axis", "swapaxes", "transpose", "xs", "pop", "case_when", "combine", "align",
   "to_string", "to_csv", "memory_usage", "reindex_like", "droplevel", "bool", "first", "last",
   "at_time", "between_time", "tz_localize", "tz_convert", "to_period", "to_timestamp", "resample",
   "set_flags", "view", "groupby"]

/-- What `getattr(c, name)` gives for a column: a method bound to it, or an attribute's value. -/
def member (o : Owner) (name : String) : Outcome Datum :=
  match property? o name with
  | some d => pure d
  | none => if names.contains name then pure (.bound o.datum name) else Members.property o name

def summaryOf? (f : Datum) : Option String :=
  match f with
  | .function name =>
    match name with
    | "numpy.sum" | "numpy.nansum" => some "sum"
    | "numpy.mean" | "numpy.nanmean" => some "mean"
    | "numpy.prod" | "numpy.nanprod" => some "prod"
    | "numpy.std" | "numpy.nanstd" => some "std"
    | "numpy.var" | "numpy.nanvar" => some "var"
    | "numpy.median" | "numpy.nanmedian" => some "median"
    | "numpy.max" | "numpy.nanmax" => some "max"
    | "numpy.min" | "numpy.nanmin" => some "min"
    | "numpy.all" => some "all"
    | "numpy.any" => some "any"
    | "numpy.cumsum" | "numpy.nancumsum" => some "cumsum"
    | "numpy.cumprod" | "numpy.nancumprod" => some "cumprod"
    | _ => none
  | _ => none

def functionName (f : Datum) : String :=
  match f with
  | .scalar (.str s) => s
  | .function name => ((name.splitOn ".").getLastD name)
  | .closure name .. => name
  | _ => "<lambda>"

/-- A value as a field of comma-separated text, quoted when it holds a comma, a quote or a line
break. -/
def csvField (v : Value) : String :=
  match v with
  | .str t =>
    if t.any (fun ch => ch == ',' || ch == '"' || ch == '\n' || ch == '\r') then
      "\"" ++ t.replace "\"" "\"\"" ++ "\""
    else t
  | v => if v.isMissing then "" else v.text

/-- The bytes of a value as an object: texts by their widest character, whole numbers by thirty-bit
digits. -/
def objectSize (v : Value) : Nat :=
  match v with
  | .str t =>
    let widest := t.foldl (fun m ch => max m ch.toNat) 0
    if widest < 128 then 49 + t.length
    else if widest < 256 then 73 + t.length
    else if widest < 65536 then 74 + 2 * t.length
    else 76 + 4 * t.length
  | .int n => if n == 0 then 24 else 24 + 4 * ((n.natAbs.log2 / 30) + 1)
  | .bool b => if b then 28 else 24
  | .float _ => 24
  | .none => 16
  | _ => 48

/-- The bytes the row labels take: a range `0, 1, …` as its three bounds, other labels eight bytes
each. -/
def labelBytes (labels : Array Value) : Nat :=
  let isRange := (labels.zipIdx).all fun (l, i) => l matches .int _ && l.toInteger == (i : Int)
  if isRange then 48 + 24 + (if labels.isEmpty then 24 else objectSize (.int labels.size)) + 28
  else 8 * labels.size

def indexKind (labels : Array Value) : String :=
  if (labels.zipIdx).all (fun (l, i) => l matches .int _ && l.toInteger == (i : Int)) then "RangeIndex"
  else "Index"

/-- A value's eight bytes read as another eight-byte kind: integers as two's complement, doubles as
their bits. -/
def reinterpreted (source target : DType) (v : Value) : Value :=
  let bits : Option UInt64 := match v with
    | .int n => some (UInt64.ofInt n)
    | .float x => some x.toBits
    | .time ns | .span ns => some (UInt64.ofInt ns)
    | _ => none
  match bits with
  | none => v
  | some b =>
    let signed : Int :=
      if b.toNat ≥ 9223372036854775808 then (b.toNat : Int) - 18446744073709551616 else b.toNat
    if source == target then v
    else match target with
      | .float64 => .float (Float.ofBits b)
      | .uint64 => .int b.toNat
      | .datetime => if signed == -9223372036854775808 then .nat else .time signed
      | .duration => if signed == -9223372036854775808 then .nat else .span signed
      | _ => .int signed

/-- Calls the column method `name`; `depth` bounds methods named by text that `agg`, `apply`,
`transform` call in turn. -/
def callWith (call : Datum → List Datum → Outcome Datum) : Nat → Owner → String → List Datum →
    List (String × Datum) → Outcome Datum
  | 0, _, name, _, _ => throw (seriesFault name)
  | depth + 1, o, name, args, kwargs => do
    let c := o.col
    let p := param args kwargs
    let given (i : Nat) (k : String) : Option Datum := Windows.given (p i k)
    let labelsOut : Option (Array Value) := if o.aligned then none else some o.labels
    let wrapAs (col : Column) (labels : Array Value) : Datum :=
      if o.aligned && labels.size == o.labels.size &&
          (labels.zip o.labels).all (fun (a, b) => Value.sameEntry a b) then .column col
      else .series col labels
    let skipna ← flagOr (given 1 "skipna") true
    let anyMissing := c.cells.any (·.isMissing)
    let nanResult : Datum := .element Value.nan .float64
    -- a text naming a method of the column or a function of `np`
    let byName (s : String) (rest : List Datum) (kw : List (String × Datum)) : Outcome Datum := do
      match property? o s with
      | some d => pure d
      | none =>
        if names.contains s || Members.methodNames.contains s then
          callWith call depth o s rest kw
        else
          match Members.property o s with
          | .ok (.bound _ _) => callWith call depth o s rest kw
          | .ok d => pure d
          | .error _ =>
            match Libraries.member "numpy" s with
            | .ok f => call f (o.datum :: rest)
            | .error _ => throw (Fault.inner .attributeError
                s!"'{s}' is not a valid function for 'Series' object")
    match name with
    | "sem" | "skew" | "kurt" | "kurtosis" =>
      let short := if name == "kurtosis" then "kurt" else name
      if c.dtype.isTimeLike then
        throw (Fault.inner .typeError s!"reduction operation '{short}' not allowed for this dtype")
      let xs ← doublesOf c
      let col : Column := { label := c.label, dtype := .float64, cells := xs.map Value.float }
      if !skipna && anyMissing then return nanResult
      let r ← match name with
        | "sem" => do
          let ddof ← match given 2 "ddof" with
            | some d => Strings.intArg d
            | none => pure 1
          pure (standardError ddof.toNat col)
        | "skew" => pure (skewness col)
        | _ => pure (kurtosis col)
      pure (.element (.float r) .float64)
    | "rolling" | "expanding" | "ewm" => Windows.openOn o name args kwargs
    | "to_dict" =>
      pure (.mapping ((o.labels.zip c.cells).toList.map fun (l, v) => (.scalar l, .scalar v)))
    | "searchsorted" => do
      let side ← match given 1 "side" with
        | some (.scalar (.str s)) =>
          if s == "left" || s == "right" then pure s
          else throw (Fault.inner .valueError
            s!"side must be 'left' or 'right' (got '{s}')")
        | _ => pure "left"
      match p 0 "value" with
      | some (.scalar v) | some (.element v _) =>
        let r ← searchSorted c.cells [v] (side == "right")
        pure (.element (.int (r.headD 0)) .int64)
      | some d =>
        let keys ← labelsOf d
        let r ← searchSorted c.cells keys.toList (side == "right")
        pure (.array { label := .none, dtype := .int64, cells := (r.map fun (k : Nat) => Value.int (Int.ofNat k)).toArray } .values)
      | none => throw (Fault.raised .typeError
          "Series.searchsorted() missing 1 required positional argument: 'value'")
    | "repeat" =>
      let counts ← match p 0 "repeats" with
        | some (.scalar (.int k)) | some (.element (.int k) _) =>
          if k < 0 then throw (Fault.inner .valueError "negative dimensions are not allowed")
          else pure (Array.replicate c.size k.toNat)
        | some d => do
          let ks ← labelsOf d
          if ks.size != c.size then throw (Fault.inner .valueError
            s!"operands could not be broadcast together with shape ({c.size},) ({ks.size},)")
          pure (ks.map fun v => v.toInteger.toNat)
        | none => throw (Fault.raised .typeError
            "Series.repeat() missing 1 required positional argument: 'repeats'")
      let rows := (Array.range c.size).flatMap fun i => Array.replicate (counts.getD i 0) i
      pure (o.rows rows)
    | "take" =>
      let positions ← match p 0 "indices" with
        | some d => labelsOf d
        | none => throw (Fault.raised .typeError
            "Series.take() missing 1 required positional argument: 'indices'")
      let n : Int := c.size
      let rows ← positions.mapM fun v => do
        let k := v.toInteger
        let k' := if k < 0 then k + n else k
        if k' < 0 || k' ≥ n then
          throw (Fault.inner .indexError s!"index {k} is out of bounds for axis 0 with size {c.size}")
        pure k'.toNat
      pure (o.rows rows)
    | "dot" =>
      match p 0 "other" with
      | some other =>
        match ← Datum.dot o.datum other with
        | .scalar v => pure (.element v (if v matches .int _ then .int64 else .float64))
        | d => pure d
      | none => throw (Fault.raised .typeError "Series.dot() missing 1 required positional argument: 'other'")
    | "corr" | "cov" | "autocorr" =>
      let other ← match name with
        | "autocorr" => do
          let lag ← match given 0 "lag" with
            | some d => Strings.intArg d
            | none => pure 1
          pure (o.wrap (shifted c lag none))
        | _ => match p 0 "other" with
          | some d => pure d
          | none => throw (Fault.raised .typeError
              s!"Series.{name}() missing 1 required positional argument: 'other'")
      let b ← match Owner.of? o.labels other with
        | some b => pure (if other matches .column _ then { b with labels := o.labels } else b)
        | none => throw (Fault.inner .attributeError s!"'{other.kindName}' object has no attribute 'dtype'")
      let (xs, ys) ← paired o b
      let (xs, ys) := bothPresent xs ys
      let least ← match given (if name == "cov" then 1 else 2) "min_periods" with
        | some d => Strings.intArg d
        | none => pure 1
      if xs.size == 0 || (xs.size : Int) < least then return nanResult
      if name == "cov" then
        let ddof ← match given 2 "ddof" with
          | some d => Strings.intArg d
          | none => pure 1
        let (_, cxy, _) := covariances xs ys ddof.toNat
        return .element (.float cxy) .float64
      let method ← match given 1 "method" with
        | some (.scalar (.str m)) => pure m
        | some _ | none => pure "pearson"
      match method with
      | "pearson" => pure (.element (.float (pearson xs ys false)) .float64)
      | "spearman" =>
        if xs.size ≤ 1 then return nanResult
        pure (.element (.float (pearson (averageRanks xs) (averageRanks ys) true)) .float64)
      | "kendall" => pure (.element (.float (kendall xs ys)) .float64)
      | m => throw (Fault.inner .valueError
          s!"Unknown method '{m}', expected one of 'kendall', 'spearman', 'pearson'.")
    | "argsort" =>
      let ranks ← argsorted c
      pure (o.wrap { label := c.label, dtype := .int64, cells := ranks })
    | "equals" =>
      match p 0 "other" with
      | some other =>
        match Owner.of? o.labels other with
        | some b =>
          let sameLabels := b.sameLabels o
          let sameCells := b.col.size == c.size &&
            (b.col.cells.zip c.cells).all fun (x, y) => Value.sameEntry x y || (x.isMissing && y.isMissing)
          pure (.scalar (.bool (sameLabels && b.col.dtype == c.dtype && sameCells)))
        | none => pure (.scalar (.bool false))
      | none => throw (Fault.raised .typeError "NDFrame.equals() missing 1 required positional argument: 'other'")
    | "first_valid_index" => pure (validLabel o false)
    | "last_valid_index" => pure (validLabel o true)
    | "convert_dtypes" => pure (o.wrap (converted c))
    | "infer_objects" =>
      if c.dtype == .object then
        let r := Column.infer c.label c.cells
        pure (o.wrap (if r.dtype == .object || r.dtype.isNumeric then r else c))
      else pure o.datum
    | "combine_first" =>
      let other ← match p 0 "other" with
        | some d => pure d
        | none => throw (Fault.raised .typeError
            "Series.combine_first() missing 1 required positional argument: 'other'")
      match Owner.of? o.labels other with
      | some b =>
        let cells := (Array.range c.size).map fun i =>
          let v := c.cell i
          if v.isMissing then
            match rowOf b.labels (o.labels.getD i .none) with
            | some j => b.col.cell j
            | none => v
          else v
        let extra := (Array.range b.col.size).filter fun j =>
          (rowOf o.labels (b.labels.getD j .none)).isNone
        let allCells := cells ++ extra.map b.col.cell
        let labels := o.labels ++ extra.map fun j => b.labels.getD j .none
        let col := if c.dtype == b.col.dtype then { c with cells := allCells }
          else if c.dtype.isNumeric && b.col.dtype.isNumeric then
            let r := Column.infer c.label allCells
            if r.dtype.isInteger && (c.dtype.isFloat || b.col.dtype.isFloat) then
              { r with dtype := .float64, cells := r.cells.map Value.asFloat }
            else r
          else Column.infer c.label allCells
        if extra.isEmpty then pure (o.wrap col) else pure (.series col labels)
      | none => throw (Fault.inner .attributeError s!"'{other.kindName}' object has no attribute 'dtype'")
    | "divmod" | "rdivmod" =>
      let other := (p 0 "other").getD (.scalar .none)
      let (l, r) := if name == "divmod" then (o.datum, other) else (other, o.datum)
      let q ← Datum.binary o.labels .floorDiv l r
      let m ← Datum.binary o.labels .mod l r
      pure (.seq false [q, m])
    | "reindex" =>
      let wanted ← match p 0 "index" with
        | some d => labelsOf d
        | none => pure o.labels
      let distinct := (List.range o.labels.size).all fun i =>
        !((List.range i).any fun j => Value.sameEntry (o.labels.getD i .none) (o.labels.getD j .none))
      if !distinct then throw (Fault.inner .valueError "cannot reindex on an axis with duplicate labels")
      let rows := wanted.map (rowOf o.labels)
      let col := match given 3 "fill_value" with
        | some (.scalar v) | some (.element v _) =>
          if rows.all Option.isSome then c.pick (rows.map (·.getD 0))
          else Column.infer c.label (rows.map fun r => match r with
            | some i => c.cell i
            | none => v)
        | _ => c.takeOr rows
      pure (wrapAs col wanted)
    | "truncate" =>
      if !monotonic { label := .none, dtype := .object, cells := o.labels } true then
        throw (Fault.inner .valueError "truncate requires a sorted index")
      let before := given 0 "before"
      let after := given 1 "after"
      let bound (d : Option Datum) : Option Value := match d with
        | some (.scalar v) | some (.element v _) => some v
        | _ => none
      if let (some b, some a) := (bound before, bound after) then
        if (Value.compareBy .gt b a).toOption == some true then
          throw (Fault.inner .valueError s!"Truncate: {a.text} must be after {b.text}")
      let rows := (Array.range c.size).filter fun i =>
        let l := o.labels.getD i .none
        (match bound before with
          | some b => (Value.compareBy .ge l b).toOption == some true
          | none => true) &&
        (match bound after with
          | some a => (Value.compareBy .le l a).toOption == some true
          | none => true)
      pure (o.rows rows)
    | "to_json" =>
      let entries := (o.labels.zip c.cells).toList.map fun (l, v) => jsonKey l ++ ":" ++ jsonValue v
      pure (.scalar (.str ("\x7b" ++ ",".intercalate entries ++ "\x7d")))
    | "pipe" =>
      match args with
      | f :: rest => call f (o.datum :: rest)
      | [] => throw (Fault.raised .typeError "NDFrame.pipe() missing 1 required positional argument: 'func'")
    | "set_axis" =>
      let labels ← match p 0 "labels" with
        | some d => labelsOf d
        | none => throw (Fault.raised .typeError
            "Series.set_axis() missing 1 required positional argument: 'labels'")
      if labels.size != c.size then throw (Fault.inner .valueError
        s!"Length mismatch: Expected axis has {c.size} elements, new values have {labels.size} elements")
      pure (wrapAs c labels)
    | "compare" =>
      let other ← match p 0 "other" with
        | some d => pure d
        | none => throw (Fault.raised .typeError
            "Series.compare() missing 1 required positional argument: 'other'")
      match Owner.of? o.labels other with
      | some b =>
        let sameLabels := b.sameLabels o
        if !sameLabels then throw (Fault.inner .valueError
          "Can only compare identically-labeled Series objects")
        let differ := (Array.range c.size).map fun i =>
          let x := c.cell i
          let y := b.col.cell i
          !((x.isMissing && y.isMissing) || (Value.compareBy .eq x y).toOption == some true)
        let rows := (Array.range c.size).filter fun i => differ.getD i false
        let widen (col : Column) : Column :=
          if differ.all id then col
          else if col.dtype.isInteger || col.dtype == .bool then
            { col with dtype := .float64, cells := col.cells.map Value.asFloat }
          else col
        let first := { widen c with label := .str "self" }.pick rows
        let second := { widen b.col with label := .str "other" }.pick rows
        pure (.frame [first, second] (rows.map fun i => o.labels.getD i .none))
      | none => throw (Fault.inner .attributeError s!"'{other.kindName}' object has no attribute '_mgr'")
    | "asof" =>
      let whereAt ← match p 0 "where" with
        | some (.scalar v) | some (.element v _) => pure v
        | _ => throw (Fault.raised .typeError "Series.asof() missing 1 required positional argument: 'where'")
      if !monotonic { label := .none, dtype := .object, cells := o.labels } true then
        throw (Fault.inner .valueError "asof requires a sorted index")
      let upTo := (Array.range c.size).filter fun i =>
        (Value.compareBy .le (o.labels.getD i .none) whereAt).toOption == some true
      match (upTo.filter fun i => !(c.cell i).isMissing).back? with
      | some i => pure (reduced c (c.cell i))
      | none => pure (.element Value.nan .float64)
    | "ravel" => pure (.array c .values)
    | "keys" => pure (.array (Column.infer .none o.labels) (.labels none))
    | "get" =>
      let key := (p 0 "key").getD (.scalar .none)
      let default := (p 1 "default").getD (.scalar .none)
      match key with
      | .scalar v | .element v _ =>
        match rowOf o.labels v with
        | some i => pure (reduced c (c.cell i))
        | none => pure default
      | _ => pure default
    | "squeeze" => if c.size == 1 then pure (reduced c (c.cell 0)) else pure o.datum
    | "add_prefix" | "add_suffix" =>
      let front := name == "add_prefix"
      let part := if front then "prefix" else "suffix"
      let affix ← match p 0 part with
        | some (.scalar (.str s)) => pure s
        | some d => pure (d.texts o.labels 8).1
        | none => throw (Fault.raised .typeError
            s!"NDFrame.{name}() missing 1 required positional argument: '{part}'")
      let labels := o.labels.map fun l =>
        Value.str (if front then affix ++ l.text else l.text ++ affix)
      pure (.series c labels)
    | "drop" =>
      let target ← match p 0 "labels", Windows.given ((kwargs.find? (·.1 == "index")).map (·.2)) with
        | some d, _ | none, some d => pure d
        | none, none => throw (Fault.inner .valueError
            "Need to specify at least one of 'labels', 'index' or 'columns'")
      let drops ← match target with
        | .scalar v | .element v _ => pure #[v]
        | d => labelsOf d
      let missing := drops.filter fun l => (rowOf o.labels l).isNone
      if !missing.isEmpty then
        let shown := ", ".intercalate (missing.toList.map fun v => (Datum.scalar v).texts o.labels 8 |>.2)
        throw (Fault.inner .keyError s!"[{shown}] not found in axis")
      let rows := (Array.range c.size).filter fun i =>
        !(drops.any (Value.sameEntry (o.labels.getD i .none)))
      pure (o.rows rows)
    | "factorize" => Libraries.callTable o.labels "factorize" (o.datum :: args) kwargs
    | "filter" =>
      let items := given 0 "items"
      let like := given 1 "like"
      let regex := given 2 "regex"
      if ([items, like, regex].filter Option.isSome).length > 1 then
        throw (Fault.inner .typeError
          "Keyword arguments `items`, `like`, or `regex` are mutually exclusive")
      let textAt (i : Nat) : String := (o.labels.getD i .none).text
      match items, like, regex with
      | some d, _, _ =>
        let wanted := (← labelsOf d).filter fun l => (rowOf o.labels l).isSome
        pure (wrapAs (c.pick (wanted.filterMap (rowOf o.labels))) wanted)
      | none, some (.scalar (.str part)), _ =>
        pure (o.rows ((Array.range c.size).filter fun i => (textAt i).contains part))
      | none, none, some (.scalar (.str pattern)) =>
        match Regex.compile pattern false with
        | .ok re => pure (o.rows ((Array.range c.size).filter fun i => (re.search? (textAt i)).isSome))
        | .error f => throw (f.fault pattern)
      | none, some d, _ | none, none, some d =>
        throw (Fault.inner .typeError s!"'in <string>' requires string as left operand, not {d.kindName}")
      | none, none, none => throw (Fault.inner .typeError "Must pass either `items`, `like`, or `regex`")
    | "rename_axis" | "transpose" => pure o.datum
    | "swapaxes" =>
      if args.length + kwargs.length < 2 then
        throw (Fault.raised .typeError
          "NDFrame.swapaxes() missing 2 required positional arguments: 'axis1' and 'axis2'")
      pure o.datum
    | "droplevel" =>
      throw (Fault.inner .valueError
        "Cannot remove 1 levels from an index with 1 levels: at least one level must be left.")
    | "xs" | "pop" =>
      let key ← match p 0 (if name == "xs" then "key" else "item") with
        | some d => pure d
        | none => throw (Fault.raised .typeError (if name == "xs" then
            "NDFrame.xs() missing 1 required positional argument: 'key'"
            else "Series.pop() missing 1 required positional argument: 'item'"))
      match key with
      | .scalar v | .element v _ =>
        match rowOf o.labels v with
        | some i => pure (reduced c (c.cell i))
        | none => throw (Fault.inner .keyError ((Datum.scalar v).texts o.labels 8).2)
      | d => throw (Fault.inner .typeError s!"unhashable type: '{d.kindName}'")
    | "case_when" =>
      let caselist ← match p 0 "caselist" with
        | some d => pure d
        | none => throw (Fault.raised .typeError
            "Series.case_when() missing 1 required positional argument: 'caselist'")
      let entries ← match caselist with
        | .seq true xs => pure xs
        | d => throw (Fault.inner .typeError
            s!"The caselist argument should be a list; instead got <class '{d.kindName}'>")
      if entries.isEmpty then throw (Fault.inner .valueError
        "provide at least one boolean condition, with a corresponding replacement.")
      let pairs ← entries.zipIdx.mapM fun (x, i) => match x with
        | .seq false [cond, repl] => pure (cond, repl)
        | .seq false xs => throw (Fault.inner .valueError
            s!"Argument {i} must have length 2; a condition and replacement; instead got length {xs.length}.")
        | d => throw (Fault.inner .typeError
            s!"Argument {i} must be a tuple; instead got <class '{d.kindName}'>.")
      let applied (d : Datum) : Outcome Datum :=
        if d matches .closure .. || d matches .function _ then call d [o.datum] else pure d
      let pairs ← pairs.mapM fun (cond, repl) => do return (← applied cond, ← applied repl)
      pairs.reverse.foldlM (fun cur (cond, repl) => do
        match Owner.of? o.labels cur with
        | some now => Members.call call now "mask" [cond, repl] []
        | none => pure cur) o.datum
    | "combine" =>
      let other ← match p 0 "other" with
        | some d => pure d
        | none => throw (Fault.raised .typeError
            "Series.combine() missing 2 required positional arguments: 'other' and 'func'")
      let f ← match p 1 "func" with
        | some d => pure d
        | none => throw (Fault.raised .typeError
            "Series.combine() missing 1 required positional argument: 'func'")
      let fill := (given 2 "fill_value").getD (.scalar .none)
      let elementOf (col : Column) (i : Nat) : Datum := reduced col (col.cell i)
      let (labels, pairs) ← match Owner.of? o.labels other with
        | some b =>
          let same := b.sameLabels o
          let labels := if same then o.labels else Libraries.unionLabels o.labels b.labels
          let side (w : Owner) (l : Value) : Datum := match rowOf w.labels l with
            | some i => elementOf w.col i
            | none => fill
          pure (labels, labels.map fun l => (side o l, side b l))
        | none => pure (o.labels, (Array.range c.size).map fun i => (elementOf c i, other))
      let results ← pairs.mapM fun (x, y) => call f [x, y]
      let values := results.map fun r => match r with
        | .scalar v | .element v _ => v
        | r => r.toCell o.labels 8
      let r := Column.infer c.label values
      let whole := r.cells.all fun v => match v with
        | .float x => x.isFinite && x == x.floor
        | _ => true
      let r := if c.dtype.isInteger && r.dtype == .float64 && whole then
          { r with dtype := c.dtype, cells := r.cells.map fun v => Value.int v.toInteger }
        else if c.dtype.isFloat && r.dtype.isInteger then
          { r with dtype := .float64, cells := r.cells.map Value.asFloat }
        else r
      pure (wrapAs r labels)
    | "align" =>
      let other ← match p 0 "other" with
        | some d => pure d
        | none => throw (Fault.raised .typeError
            "Series.align() missing 1 required positional argument: 'other'")
      match Owner.of? o.labels other with
      | some b =>
        let same := b.sameLabels o
        if same then pure (.seq false [o.datum, b.datum])
        else
          let labels := Libraries.unionLabels o.labels b.labels
          let moved (w : Owner) : Datum :=
            .series (w.col.takeOr (labels.map (rowOf w.labels))) labels
          pure (.seq false [moved o, moved b])
      | none => throw (Fault.inner .typeError s!"unsupported type: <class '{other.kindName}'>")
    | "to_string" =>
      if c.size == 0 then pure (.scalar (.str "Series([], )"))
      else pure (.scalar (.str ("\n".intercalate (c.rowLines o.labels false))))
    | "to_csv" =>
      let head := match c.label with
        | .none => "0"
        | l => csvField (.str l.text)
      let timed := c.dtype.isTimeLike || c.dtype matches .zoned _
      let texts := if timed then c.cellTexts.map fun t => String.ofList (t.toList.dropWhile (· == ' '))
        else c.cells.map csvField
      let texts := if timed then (texts.zip c.cells).map fun (t, v) => if v.isMissing then "" else t
        else texts
      let lines := (o.labels.zip texts).toList.map fun (l, t) => csvField l ++ "," ++ t
      pure (.scalar (.str (String.join ((("," ++ head) :: lines).map (· ++ "\n")))))
    | "memory_usage" =>
      let withLabels ← flagOr (given 0 "index") true
      let deep ← flagOr (given 1 "deep") false
      let values := c.size * Libraries.itemSize c.dtype +
        (if deep && c.dtype == .object then c.cells.foldl (fun n v => n + objectSize v) 0 else 0)
      pure (.element (.int (values + (if withLabels then labelBytes o.labels else 0))) .int64)
    | "reindex_like" =>
      match p 0 "other" with
      | some other =>
        match Owner.of? o.labels other with
        | some b => callWith call depth o "reindex" [.array (Column.infer .none b.labels) (.labels none)] []
        | none => throw (Fault.inner .attributeError s!"'{other.kindName}' object has no attribute 'index'")
      | none => throw (Fault.raised .typeError
          "NDFrame.reindex_like() missing 1 required positional argument: 'other'")
    | "nlargest" | "nsmallest" =>
      let n ← match given 0 "n" with
        | some d => Strings.intArg d
        | none => pure 5
      let keep ← match given 1 "keep" with
        | some (.scalar (.str s)) => pure s
        | some d => pure (d.texts o.labels 8).1
        | none => pure "first"
      pure (o.rows (← selectN c n (name == "nlargest") keep))
    | "duplicated" | "drop_duplicates" =>
      let keep := (given 0 "keep").getD (.scalar (.str "first"))
      let marks ← repeated c keep
      if name == "duplicated" then
        pure (o.wrap { label := c.label, dtype := .bool, cells := marks.map Value.bool })
      else
        let rows := (Array.range c.size).filter fun i => !(marks.getD i false)
        if ← flagOr (given 2 "ignore_index") false then
          pure (.series (c.pick rows) (Table.rangeIndex rows.size))
        else pure (o.rows rows)
    | "agg" | "aggregate" | "apply" | "transform" =>
      let f ← match p 0 "func" with
        | some f => pure f
        | none => throw (Fault.raised .typeError
            s!"Series.{name}() missing 1 required positional argument: 'func'")
      let rest := args.drop 1
      let kw := kwargs.filter (·.1 != "func")
      let checked (r : Datum) : Outcome Datum :=
        if name == "transform" then
          match r with
          | .column _ => pure r
          | .series col ls =>
            if ls.size == o.labels.size && (ls.zip o.labels).all (fun (a, b) => Value.sameEntry a b) then
              pure (o.wrap col)
            else throw (Fault.inner .valueError "Function did not transform")
          | _ => throw (Fault.inner .valueError "Function did not transform")
        else pure r
      match f with
      | .scalar (.str s) => checked (← byName s rest kw)
      | .seq _ fs =>
        if name == "transform" then
          throw (Fault.inner .valueError "Function did not transform")
        if fs.isEmpty then throw (Fault.inner .valueError "No objects to concatenate")
        let results ← fs.mapM fun g => do
          match g with
          | .scalar (.str s) => byName s [] []
          | g =>
            match summaryOf? g with
            | some s => callWith call depth o s [] []
            | none => call g [o.datum]
        let values := results.map fun r => match r with
          | .scalar v | .element v _ => v
          | r => r.toCell o.labels 8
        let labels := (fs.map fun g => Value.str (functionName g)).toArray
        pure (.series (Column.infer c.label values.toArray) labels)
      | f =>
        match summaryOf? f, name == "apply" with
        | some s, false =>
          if rest.isEmpty && kw.isEmpty then checked (← callWith call depth o s [] [])
          else Members.call call o name args kwargs
        | _, _ =>
          if name == "agg" || name == "aggregate" then
            match Members.call call o name args kwargs with
            | .ok r => pure r
            | .error e =>
              if e.kind == .valueError || e.kind == .attributeError || e.kind == .typeError then
                call f (o.datum :: rest)
              else throw e
          else checked (← Members.call call o name args kwargs)
    | "bool" =>
      match c.size, (c.cells[0]? : Option Value) with
      | 1, some (.bool b) => pure (.scalar (.bool b))
      | 1, _ => throw (Fault.inner .valueError "bool cannot act on a non-boolean single element Series")
      | _, _ => throw (Fault.inner .valueError
          "The truth value of a Series is ambiguous. Use a.empty, a.bool(), a.item(), a.any() or a.all().")
    | "first" | "last" =>
      if (p 0 "offset").isNone then
        throw (Fault.inner .typeError s!"NDFrame.{name}() missing 1 required positional argument: 'offset'")
      throw (Fault.inner .typeError s!"'{name}' only supports a DatetimeIndex index")
    | "at_time" =>
      if (p 0 "time").isNone then
        throw (Fault.inner .typeError "NDFrame.at_time() missing 1 required positional argument: 'time'")
      throw (Fault.inner .typeError "Index must be DatetimeIndex")
    | "between_time" =>
      match p 0 "start_time", p 1 "end_time" with
      | none, none => throw (Fault.inner .typeError
          "NDFrame.between_time() missing 2 required positional arguments: 'start_time' and 'end_time'")
      | none, _ => throw (Fault.inner .typeError
          "NDFrame.between_time() missing 1 required positional argument: 'start_time'")
      | _, none => throw (Fault.inner .typeError
          "NDFrame.between_time() missing 1 required positional argument: 'end_time'")
      | _, _ => throw (Fault.inner .typeError "Index must be DatetimeIndex")
    | "tz_localize" | "tz_convert" =>
      if (p 0 "tz").isNone then
        throw (Fault.inner .typeError s!"NDFrame.{name}() missing 1 required positional argument: 'tz'")
      if o.labels.isEmpty then return o.datum
      throw (Fault.inner .typeError "index is not a valid DatetimeIndex or PeriodIndex")
    | "to_period" | "to_timestamp" =>
      throw (Fault.inner .typeError s!"unsupported Type {indexKind o.labels}")
    | "resample" =>
      if (p 0 "rule").isNone then
        throw (Fault.inner .typeError "Series.resample() missing 1 required positional argument: 'rule'")
      throw (Fault.inner .typeError ("Only valid with DatetimeIndex, TimedeltaIndex or PeriodIndex, " ++
        s!"but got an instance of '{indexKind o.labels}'"))
    | "groupby" => do
      let dropna ← flagOr (given 7 "dropna") true
      let sorted ← flagOr (given 4 "sort") true
      let keyOf (k : Value) : Option Value := if dropna && k.isMissing then none else some k
      -- keys given one per row, or looked up by the rows' labels among the table's rows
      let positional (vals : Array Value) : Outcome (Array (Option Value)) :=
        if vals.size != c.size then throw (Fault.inner .valueError "Grouper and axis must be same length")
        else pure (vals.map keyOf)
      let keys ← match given 0 "by", given 2 "level" with
        | none, none => throw (Fault.inner .typeError "You have to supply one of 'by' and 'level'")
        | none, some _ => pure (o.labels.map keyOf)
        | some (.column k), _ =>
          if o.aligned then positional k.cells
          else pure (o.labels.map fun l => match l with
            | .int i => if 0 ≤ i && i < k.size then keyOf (k.cell i.toNat) else none
            | _ => none)
        | some (.series k ls), _ => pure (o.labels.map fun l => match rowOf ls l with
            | some i => keyOf (k.cell i)
            | none => none)
        | some (.array k _), _ => positional k.cells
        | some (.seq _ items), _ => positional (items.map fun x => Members.cellOf x 0).toArray
        | some (.mapping entries), _ => pure (o.labels.map fun l =>
            match entries.find? (fun (k, _) => match k with
              | .scalar v | .element v _ => Value.sameEntry v l
              | _ => false) with
            | some (_, v) => keyOf (Members.cellOf v 0)
            | none => none)
        | some (.scalar v), _ => throw (Fault.inner .keyError ((Datum.scalar v).texts o.labels 8).2)
        | some f, _ => o.labels.mapM fun l => do return keyOf (Members.cellOf (← call f [.scalar l]) 0)
      pure (.grouped { keys, sorted } c labelsOut)
    | "set_flags" => pure o.datum
    | "view" =>
      match p 0 "dtype" with
      | none | some (.scalar .none) => pure o.datum
      | some d => do
        let kind ← kindNamed d
        let target ← match dtypeNamed? kind with
          | some t => pure t
          | none => throw (Fault.inner .typeError s!"data type '{kind}' not understood")
        let width := Libraries.itemSize c.dtype
        let size := Libraries.itemSize target
        if size != width then
          if size > width && (c.size * width) % size != 0 then
            throw (Fault.inner .valueError ("When changing to a larger dtype, its size must be a divisor " ++
              "of the total size in bytes of the last axis of the array."))
          let count := c.size * width / size
          throw (Fault.inner .valueError
            s!"Length of values ({count}) does not match length of index ({c.size})")
        return o.wrap { c with dtype := target, cells := c.cells.map (reinterpreted c.dtype target) }
    | _ =>
      -- plain summaries: `skipna` off makes a missing value win, `min_count` asks for values
      if ["sum", "prod", "product", "mean", "median", "min", "max", "std", "var"].contains name &&
          (c.dtype.isNumeric || c.dtype matches .nullable _) then
        if !skipna && anyMissing then return nanResult
        if name == "sum" || name == "prod" || name == "product" then
          let least ← match given 3 "min_count" with
            | some d => Strings.intArg d
            | none => pure 0
          if ((presentRows c).size : Int) < least then return nanResult
      Members.call call o name args kwargs

def call (call : Datum → List Datum → Outcome Datum) (o : Owner) (name : String)
    (args : List Datum) (kwargs : List (String × Datum)) : Outcome Datum :=
  callWith call 3 o name args kwargs

end Methods

end PipeQuery.Calc
