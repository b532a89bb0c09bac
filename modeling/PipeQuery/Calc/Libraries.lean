import PipeQuery.Calc.Members
import PipeQuery.Calc.Promotion
import PipeQuery.Value.Elementary
import PipeQuery.Time.Span

/-!
# Calculations: the array and table libraries

The members of `np` (constants, kinds for `astype`, element-wise functions, `maximum`/`fmax` and
their kin, the summaries, which over a column skip missing values, and the makers of arrays) and
of `pd` (`NaT`, `NA`, `to_numeric`, `to_datetime`, `isna`, `notna`, `Series`, `Timestamp`). An
array made here has no row labels: it is set into the table by position.
-/

namespace PipeQuery.Calc

namespace Libraries

def threeOfFour : Fault :=
  Fault.inner .valueError "Of the four parameters: start, end, periods, and freq, exactly three must be specified"

def noLoop (name : String) : Fault :=
  Fault.inner .typeError
    s!"ufunc '{name}' not supported for the input types, and the inputs could not be safely coerced to any supported types according to the casting rule ''safe''"

def floatFunction? (name : String) : Option (Float → Float) :=
  match name with
  | "sin" => some Float.sin
  | "cos" => some Float.cos
  | "tan" => some Float.tan
  | "arcsin" => some Float.asin
  | "arccos" => some Float.acos
  | "arctan" => some Float.atan
  | "sinh" => some Float.sinh
  | "cosh" => some Float.cosh
  | "tanh" => some Float.tanh
  | "arcsinh" => some Float.asinh
  | "arccosh" => some Float.acosh
  | "arctanh" => some Float.atanh
  | "cbrt" => some Num.cbrt
  | "exp2" => some Float.exp2
  | "log2" => some Float.log2
  | "log1p" => some Num.log1p
  | "expm1" => some Num.expm1
  | "deg2rad" | "radians" => some Num.toRadians
  | "rad2deg" | "degrees" => some Num.toDegrees
  | "fabs" => some Float.abs
  | _ => none

def tableFunctions : List String :=
  ["to_numeric", "to_datetime", "isna", "isnull", "notna", "notnull", "Series", "Timestamp",
   "Timedelta", "to_timedelta", "date_range", "unique", "factorize", "concat", "cut", "qcut",
   "get_dummies", "Categorical", "DataFrame", "array", "timedelta_range", "eval", "DateOffset"]

def offsetNames : List String :=
  ["DateOffset", "MonthEnd", "MonthBegin", "QuarterEnd", "QuarterBegin", "YearEnd", "YearBegin",
   "Week", "BusinessDay", "BDay", "Day", "Hour", "Minute", "Second", "Milli", "Micro", "Nano"]

def member (lib name : String) : Outcome Datum :=
  let missing : Outcome Datum :=
    throw (Fault.raised .attributeError s!"module '{lib}' has no attribute '{name}'")
  match lib with
  | "numpy" =>
    match name with
    | "nan" | "NaN" | "NAN" => pure (.scalar Value.nan)
    | "inf" | "Inf" | "infty" | "PINF" => pure (.scalar (.float (1.0 / 0.0)))
    | "NINF" => pure (.scalar (.float (-1.0 / 0.0)))
    | "pi" => pure (.scalar (.float 3.141592653589793))
    | "e" => pure (.scalar (.float 2.718281828459045))
    | "int64" | "int32" | "int16" | "int8" | "uint64" | "uint32" | "uint16" | "uint8"
    | "float64" | "float32" | "float16" | "complex128" | "complex64" | "bool_" | "str_"
    | "object_" | "half" | "single" | "double" | "byte" | "ubyte" | "short" | "ushort" | "intc"
    | "uintc" | "intp" | "uintp" =>
      pure (.scalar (.other "type" (if name.endsWith "_" then (name.dropEnd 1).toString else name)))
    | _ =>
      match sharedName? name with
      | some f => pure (.function f)
      | none => if arrayFunctions.contains name then pure (.function ("numpy." ++ name)) else missing
  | "pandas.offsets" =>
    if offsetNames.contains name then pure (.function ("pandas.offsets." ++ name)) else missing
  | _ =>
    match name with
    | "NaT" => pure (.scalar .nat)
    | "NA" => pure (.scalar .na)
    | "offsets" => pure (.library "pandas.offsets")
    | _ => if tableFunctions.contains name then pure (.function ("pandas." ++ name)) else missing

/-- Two sets of row labels together, each once: ascending when all are numbers or all texts, else by
first appearance. -/
def unionLabels (a b : Array Value) : Array Value :=
  let all := a ++ b.filter fun l => !(a.any (Value.sameEntry l))
  let numbers := all.all fun v => v matches .int _ || v matches .float _
  let texts := all.all fun v => v matches .str _
  if numbers || texts then (all.toList.mergeSort fun x y => x.sortOrder y != .gt).toArray else all

def valuesOf (d : Datum) : Array Value :=
  match d with
  | .column c | .series c _ | .array c _ => c.cells
  | .seq _ items => (items.map fun x => match x with
    | .scalar v | .element v _ => v
    | x => x.toCell #[] 8).toArray
  | .scalar v | .element v _ => #[v]
  | _ => #[]

def isArray (d : Datum) : Bool :=
  d matches .column _ || d matches .series _ _ || d matches .seq _ _ || d matches .array _ _

/-- An array-like datum as a column of the rows `rows`, a sequence a column of its own values. -/
def ownerOf (rows : Array Value) (d : Datum) : Owner :=
  match Owner.of? rows d, d with
  | some o, _ => o
  | none, .array c _ => { col := c, labels := Table.rangeIndex c.size, aligned := false }
  | none, _ =>
    let c := Column.infer .none (valuesOf d)
    { col := c, labels := Table.rangeIndex c.size, aligned := false }

def single (v : Value) : Datum :=
  match v with
  | .int _ => .element v .int64
  | .float _ => .element v .float64
  | .bool _ => .element v .bool
  | v => .scalar v

/-- `f` row by row over two data, one array-like: the result keeps a column's row labels and takes
the kind its values make. -/
def pairwise (rows : Array Value) (f : Value → Value → Outcome Value) (a b : Datum) :
    Outcome Datum := do
  if !(isArray a || isArray b) then
    return single (← f (valuesOf a).toList.head! (valuesOf b).toList.head!)
  let n := max (valuesOf a).size (valuesOf b).size
  let cellAt (d : Datum) (i : Nat) : Value :=
    let vs := valuesOf d
    if vs.size == 1 && !isArray d then vs.getD 0 .none else vs.getD i .none
  let cells ← (List.range n).mapM fun i => f (cellAt a i) (cellAt b i)
  let lead := if a matches .column _ || a matches .series _ _ then a else b
  match Owner.of? rows lead with
  | some o => pure (o.wrap (Column.infer o.col.label cells.toArray))
  | none => pure (.column (Column.infer .none cells.toArray))

/-- The larger (or smaller) of two values; NaN on a side gives NaN unless `skipNaN`, then the other.
-/
def extremeOf (larger skipNaN : Bool) (x y : Value) : Outcome Value := do
  if x.isMissing || y.isMissing then
    if skipNaN then pure (if x.isMissing then y else x)
    else pure (if x.isMissing then x.asFloat else y.asFloat)
  else
    let better ← (Value.compareBy (if larger then .lt else .gt) x y).mapError Fault.surfaced
    let r := if better then y else x
    let floats := x matches .float _ || y matches .float _
    pure (if floats then r.asFloat else r)

/-- A double function of each number of a datum: a column stays one, values become the array kind's.
-/
def eachNumber (rows : Array Value) (name : String) (keepInts : Bool) (f : Float → Float)
    (g : Int → Int) (d : Datum) : Outcome Datum := do
  let on (v : Value) : Outcome Value :=
    match v with
    | .int n => pure (if keepInts then .int (g n) else .float (f (Num.intToFloat n)))
    | .bool b => pure (if keepInts then .int (g (if b then 1 else 0)) else .float (f (if b then 1.0 else 0.0)))
    | .float x => pure (.float (f x))
    | .none | .na => pure Value.nan
    | _ => throw (noLoop name)
  if isArray d then
    let o := ownerOf rows d
    let cells ← o.col.cells.mapM on
    pure (o.wrap (Column.infer o.col.label cells))
  else return single (← on ((valuesOf d).getD 0 .none))

def eachTest (rows : Array Value) (name : String) (f : Float → Bool) (d : Datum) : Outcome Datum := do
  let on (v : Value) : Outcome Bool :=
    match v with
    | .int _ | .bool _ | .float _ => pure (f v.toDouble)
    | _ => throw (noLoop name)
  if isArray d then
    let o := ownerOf rows d
    let cells ← o.col.cells.mapM on
    pure (o.wrap { label := o.col.label, dtype := .bool, cells := cells.map Value.bool })
  else return .element (.bool (← on ((valuesOf d).getD 0 .none))) .bool

def floatSign (f : Float) : Float :=
  if f.isNaN then f else if f > 0.0 then 1.0 else if f < 0.0 then -1.0 else 0.0

def intSign (n : Int) : Int :=
  if n > 0 then 1 else if n < 0 then -1 else 0

def conditionRows (n : Nat) (d : Datum) : Outcome (Array Bool) :=
  if isArray d then pure ((valuesOf d).map fun v => !v.isMissing && v.truthy || (v matches .float _ && v.isMissing))
  else do
    let b ← d.truth
    pure (Array.replicate n b)

/-- The array `where` and `select` make of the values they pick. -/
def pickedArray (kind : Operand) (cells : Array Value) : Column :=
  let made := Operand.arrayOf kind cells
  if kind == .array .object then
    let seen := Column.infer .none cells
    if seen.dtype == .datetime || seen.dtype == .duration then seen else made
  else made

def countArg (d : Option Datum) (default : Int) : Outcome Int :=
  match d with
  | some x => Strings.intArg x
  | none => pure default

def arange (args : List Datum) : Outcome Datum := do
  let nums := args.map fun d => (valuesOf d).getD 0 .none
  let (start, stop, step) := match nums with
    | [b] => (Value.int 0, b, Value.int 1)
    | [a, b] => (a, b, .int 1)
    | a :: b :: c :: _ => (a, b, c)
    | [] => (.int 0, .int 0, .int 1)
  match start, stop, step with
  | .int a, .int b, .int s =>
    if s == 0 then throw (Fault.inner .zeroDivisionError "division by zero")
    let count := max 0 ((b - a + s - (if s > 0 then 1 else -1)) / s)
    let cells := (Array.range count.toNat).map fun (i : Nat) => Value.int (a + (i : Int) * s)
    pure (.column { label := .none, dtype := .int64, cells })
  | _, _, _ =>
    let a := start.toDouble
    let b := stop.toDouble
    let s := step.toDouble
    if s == 0.0 then throw (Fault.inner .zeroDivisionError "division by zero")
    let count := ((b - a) / s).ceil
    let k := if count > 0.0 then count.toUInt64.toNat else 0
    -- the second value is `a + s`; the others step by the distance between the first two
    let delta := (a + s) - a
    let cells := (Array.range k).map fun i =>
      Value.float (if i == 1 then a + s else a + Float.ofNat i * delta)
    pure (.column { label := .none, dtype := .float64, cells })

def ofKind (kind : Option Datum) (c : Column) : Outcome Datum := do
  match kind with
  | none | some (.scalar .none) => pure (.column c)
  | some d =>
    let k ← kindNamed d
    let c := if (dtypeNamed? k).any DType.isInteger then
        { c with cells := c.cells.map fun v => match v with
          | .float x => .float x.floor
          | v => v }
      else c
    pure (.column (← castTo c k))

def arrayCall (rows : Array Value) (call : Datum → List Datum → Outcome Datum) (name : String)
    (args : List Datum) (kwargs : List (String × Datum)) : Outcome Datum := do
  let p := param args kwargs
  let need := needParam name args kwargs
  let x := (p 0 "a").getD (.scalar .none)
  let summary (method : String) (extra : List (String × Datum)) : Outcome Datum := do
    match x with
    | .scalar v | .element v _ =>
      pure (match method with
        | "count" | "any" | "all" => single (.bool v.truthy)
        | "mean" | "median" | "std" | "var" =>
          single (.float (if method == "std" || method == "var" then 0.0 else v.toDouble))
        | _ => single v)
    | d => Members.call call (ownerOf rows d) method [] extra
  -- a summary a column answers itself refuses the arguments it does not take
  let refuseFor (method : String) (keys : List String) : Outcome Unit := do
    if isArray x && !(x matches .seq _ _) then
      for k in keys do
        match kwargs.find? (·.1 == k) with
        | some (_, .scalar .none) | none => pure ()
        | some _ => throw (Fault.inner .valueError
            s!"the '{k}' parameter is not supported in the pandas implementation of {method}()")
  match floatFunction? name with
  | some f => eachNumber rows name false f id x
  | none =>
  match name with
  | "hypot" | "arctan2" =>
    let f : Float → Float → Float := if name == "hypot" then Num.hypot else Float.atan2
    pairwise rows (fun a b => do
      match a.num?, b.num? with
      | some m, some n => pure (.float (f m.toFloat n.toFloat))
      | _, _ =>
        if a.isMissing || b.isMissing then pure Value.nan
        else throw (noLoop name))
      (← need 0 "x1") (← need 1 "x2")
  | "logical_and" | "logical_or" | "logical_xor" =>
    let f : Bool → Bool → Bool := match name with
      | "logical_and" => (· && ·)
      | "logical_or" => (· || ·)
      | _ => (· != ·)
    let truthOf (v : Value) : Bool := v.truthy || v matches .float _ && v.isMissing
    pairwise rows (fun a b => pure (.bool (f (truthOf a) (truthOf b)))) (← need 0 "x1") (← need 1 "x2")
  | "logical_not" =>
    let truthOf (v : Value) : Bool := v.truthy || v matches .float _ && v.isMissing
    let cells := (valuesOf x).map fun v => Value.bool (!truthOf v)
    if isArray x then pure (.column { label := .none, dtype := .bool, cells })
    else pure (single (cells.getD 0 (.bool false)))
  | "isin" => do
    let tests := valuesOf (← need 1 "test_elements")
    let cells := (valuesOf (← need 0 "element")).map fun v =>
      Value.bool (tests.any fun w => Value.same v w && !v.isMissing)
    if isArray x then pure (.column { label := .none, dtype := .bool, cells })
    else pure (single (cells.getD 0 (.bool false)))
  | "diff" => do
    let n ← countArg (p 1 "n") 1
    if n < 0 then throw (Fault.inner .valueError s!"order must be non-negative but got {n}")
    let o := ownerOf rows x
    let step (c : Column) : Outcome Column := do
      if c.dtype == .bool then throw boolSubtract
      let cells ← (List.range (c.size - 1)).mapM fun i => Value.arith .sub (c.cell (i + 1)) (c.cell i)
      pure { c with label := .none, cells := cells.toArray }
    let c ← (List.range n.toNat).foldlM (fun c _ => step c) o.col
    pure (.column c)
  | "maximum" | "minimum" | "fmax" | "fmin" =>
    pairwise rows (extremeOf (name == "maximum" || name == "fmax") (name.startsWith "f"))
      (← need 0 "x1") (← need 1 "x2")
  | "add" | "subtract" | "multiply" | "divide" | "true_divide" | "floor_divide" | "mod"
  | "remainder" =>
    let op : BinOp := match name with
      | "add" => .add | "subtract" => .sub | "multiply" => .mul
      | "floor_divide" => .floorDiv | "mod" | "remainder" => .mod
      | _ => .div
    Datum.binary rows op (← need 0 "x1") (← need 1 "x2")
  | "where" =>
    match args with
    | [c, a, b] => do
      let n := [c, a, b].foldl (fun m d => max m (if isArray d then (valuesOf d).size else 1)) 1
      let truths ← conditionRows n c
      let kind ← match Operand.commonOf [Operand.ofDatum a, Operand.ofDatum b] with
        | .ok k => pure k
        | .error msg => throw (Fault.inner .typeError msg)
      let cellAt (d : Datum) (i : Nat) : Value :=
        if isArray d then (valuesOf d).getD i .none else (valuesOf d).getD 0 .none
      let cells := (Array.range n).map fun i => if truths.getD i false then cellAt a i else cellAt b i
      if !(isArray c || isArray a || isArray b) then return single (kind.cast (cells.getD 0 .none))
      pure (.column (pickedArray kind cells))
    | [c] => do
      let truths ← conditionRows (valuesOf c).size c
      let places := (truths.zipIdx.filter (·.1)).map fun (_, i) => Value.int i
      pure (.seq false [.column { label := .none, dtype := .int64, cells := places }])
    | _ => throw (Fault.inner .valueError "either both or neither of x and y should be given")
  | "select" => do
    let conds ← (← need 0 "condlist").items?
    let choices ← (← need 1 "choicelist").items?
    let fallback := (p 2 "default").getD (.scalar (.int 0))
    if conds.length != choices.length then
      throw (Fault.inner .valueError "list of cases must be same length as list of conditions")
    if conds.isEmpty then
      throw (Fault.inner .valueError "select with an empty condition list is not possible")
    let kind ← match Operand.commonOf ((choices ++ [fallback]).map Operand.ofDatum) with
      | .ok k => pure k
      | .error msg => throw (Fault.inner .typeError
          s!"Choicelist and default value do not have a common dtype: {msg}")
    for (d, i) in conds.zipIdx do
      if Operand.ofDatum d != .array .bool then
        throw (Fault.inner .typeError s!"invalid entry {i} in condlist: should be boolean ndarray")
    let n := (conds ++ choices).foldl (fun m d => max m (if isArray d then (valuesOf d).size else 1)) 1
    let truths ← conds.mapM (conditionRows n)
    let cellAt (d : Datum) (i : Nat) : Value :=
      if isArray d then (valuesOf d).getD i .none else (valuesOf d).getD 0 .none
    let cells := (Array.range n).map fun i =>
      match ((truths.zip choices).find? fun (t, _) => t.getD i false) with
      | some (_, d) => cellAt d i
      | none => cellAt fallback i
    pure (.column (pickedArray kind cells))
  | "clip" => Members.call call (ownerOf rows x) "clip" [(p 1 "a_min").getD (.scalar .none),
      (p 2 "a_max").getD (.scalar .none)] []
  | "isnan" => eachTest rows name Float.isNaN x
  | "isinf" => eachTest rows name Float.isInf x
  | "isfinite" => eachTest rows name (fun f => !f.isNaN && !f.isInf) x
  | "sign" => eachNumber rows name true floatSign intSign x
  | "square" => eachNumber rows name true (fun f => f * f) (fun n => wrap64 (n * n)) x
  | "negative" => eachNumber rows name true (fun f => -f) (fun n => wrap64 (-n)) x
  | "trunc" => eachNumber rows name false (fun f => if f < 0.0 then -((-f).floor) else f.floor) id x
  | "rint" => eachNumber rows name false Float.roundEven id x
  | "sum" | "nansum" => do
    refuseFor "sum" ["dtype", "out"]
    summary "sum" []
  | "mean" | "nanmean" => do
    refuseFor "mean" ["dtype", "out"]
    summary "mean" []
  | "std" | "var" => do
    refuseFor name ["dtype", "out"]
    summary name [("ddof", (p 4 "ddof").getD (.scalar (.int 0)))]
  | "min" | "amin" | "nanmin" => summary "min" []
  | "max" | "amax" | "nanmax" => summary "max" []
  | "prod" => summary "prod" []
  | "any" => summary "any" []
  | "all" => summary "all" []
  | "median" =>
    if isArray x && (valuesOf x).any (·.isMissing) then pure (.element Value.nan .float64)
    else summary "median" []
  | "count_nonzero" =>
    pure (.scalar (.int ((valuesOf x).toList.filter fun v => !v.isMissing && v.truthy || v.isMissing).length))
  | "argmax" | "argmin" => do
    let vs := valuesOf x
    match vs.findIdx? (·.isMissing) with
    | some i => pure (.element (.int i) .int64)
    | none =>
      match ← extreme (name == "argmax") vs.toList with
      | some best => pure (.element (.int ((vs.findIdx? fun v => v.sortOrder best == .eq).getD 0)) .int64)
      | none => throw (Fault.inner .valueError s!"attempt to get {name} of an empty sequence")
  | "cumsum" | "cumprod" => Members.call call (ownerOf rows x) name [] []
  | "arange" => arange args
  | "zeros" | "ones" => do
    let n ← countArg (p 0 "shape") 0
    let cells := Array.replicate n.toNat (Value.float (if name == "ones" then 1.0 else 0.0))
    ofKind (p 1 "dtype") { label := .none, dtype := .float64, cells }
  | "full" => do
    let n ← countArg (p 0 "shape") 0
    let v := (valuesOf ((p 1 "fill_value").getD (.scalar .none))).getD 0 .none
    ofKind (p 2 "dtype") (Column.infer .none (Array.replicate n.toNat v))
  | "linspace" => do
    let a := ((valuesOf (← need 0 "start")).getD 0 .none).toDouble
    let b := ((valuesOf (← need 1 "stop")).getD 0 .none).toDouble
    let n ← countArg (p 2 "num") 50
    if n < 0 then throw (Fault.inner .valueError s!"Number of samples, {n}, must be non-negative.")
    let endpoint ← match p 3 "endpoint" with
      | some d => d.truth
      | none => pure true
    let retstep ← match p 4 "retstep" with
      | some d => d.truth
      | none => pure false
    let n := n.toNat
    let parts : Int := if endpoint then (n : Int) - 1 else n
    let delta := b - a
    let step := if parts > 0 then delta / Num.intToFloat parts else 0.0 / 0.0
    -- a step too small to hold is taken as the fraction of the whole distance
    let at1 (i : Nat) : Float :=
      if parts ≤ 0 then Float.ofNat i * delta + a
      else if step == 0.0 then Float.ofNat i / Num.intToFloat parts * delta + a
      else Float.ofNat i * step + a
    let cells := (Array.range n).map fun i =>
      Value.float (if endpoint && i + 1 == n && n > 1 then b else at1 i)
    let made ← ofKind (p 5 "dtype") { label := .none, dtype := .float64, cells }
    if retstep then pure (.seq false [made, .element (.float step) .float64]) else pure made
  | "array" | "asarray" => do
    let arr := match x with
      | .column c | .series c _ => c
      | .element v k => { label := .none, dtype := k, cells := #[v] }
      | d => Operand.arrayOf (Operand.ofDatum d).strong (valuesOf d)
    match p 1 "dtype" with
    | some (.scalar .none) | none => pure (.column { arr with label := .none })
    | some d => return .column (← castTo { arr with label := .none } (← kindNamed d))
  | "unique" | "sort" =>
    let vs := valuesOf x
    let vs := if name == "unique" then (uniqueValues vs.toList).toArray else vs
    let present := (vs.toList.filter (!·.isMissing)).mergeSort fun a b => a.sortOrder b != .gt
    let missing := vs.toList.filter (·.isMissing)
    let missing := if name == "unique" then missing.take 1 else missing
    pure (.column (Column.infer .none (present ++ missing).toArray))
  | _ => throw (Fault.raised .attributeError s!"module 'numpy' has no attribute '{name}'")

def unreadable (c : Column) : Option (Nat × String) :=
  let nanWords := ["nan", "+nan", "-nan", "", "null", "none", "na", "n/a", "<na>", "#n/a"]
  (c.cells.zipIdx.toList.findSome? fun (v, i) => match v with
    | .str s =>
      if (Value.str s).toNumber.isMissing && !nanWords.contains (Text.lower (Text.trimBlanks s)) then
        some (i, s)
      else none
    | _ => none)

def itemSize (d : DType) : Nat :=
  match d with
  | .int8 | .uint8 | .bool => 1
  | .int16 | .uint16 => 2
  | .int32 | .uint32 | .float32 => 4
  | .complex128 => 16
  | _ => 8

/-- A column of numbers in the smallest kind of a family that holds it, no wider than the column's
own. -/
def downcast (c : Column) (how : String) : Outcome Column := do
  let family ← match how with
    | "integer" | "signed" => pure [DType.int8, .int16, .int32, .int64]
    | "unsigned" =>
      if c.dtype.isNumeric && c.cells.all (fun v => v.isMissing || v.toDouble ≥ 0.0) then
        pure [DType.uint8, .uint16, .uint32, .uint64]
      else pure []
    | "float" => pure [DType.float32, .float64]
    | _ => throw (Fault.inner .valueError "invalid downcasting method provided")
  if !c.dtype.isNumeric || c.dtype == .bool then return c
  let fits (d : DType) : Option Column :=
    if d.isInteger then
      if c.dtype.isInteger && d.intWidth?.map (·.1) == c.dtype.intWidth?.map (·.1) &&
          itemSize c.dtype ≤ itemSize d then some c
      else if c.cells.any (·.isMissing) then none
      else
        let ok := c.cells.all fun v => match v with
          | .int n => d.holdsInt n
          | .float x => !x.isInf && d.holdsInt (Num.truncate x) &&
              (Num.intToFloat (Num.truncate x) - x).abs ≤ 1e-8
          | _ => false
        if ok then some { c with dtype := d, cells := c.cells.map fun v => .int v.toInteger }
        else none
    else if c.dtype.isFloat && itemSize c.dtype ≤ itemSize d then some c
    else
      let cells := c.cells.map fun v => Value.float (d.roundFloat v.toDouble)
      let tolerance := if d == .float32 then 5e-4 else 5e-8
      let close := (c.cells.zip cells).all fun (a, b) =>
        (a.isMissing && b.isMissing) || (a.toDouble - b.toDouble).abs ≤ tolerance
      if close then some { c with dtype := d, cells } else none
  pure ((family.filter fun d => itemSize d ≤ itemSize c.dtype).findSome? fits |>.getD c)

/-- A value as a span in nanoseconds: a text read as one, a number in units of `unit`; missing
values give "not a time". -/
def spanOf (unit : Int) (v : Value) : Outcome Value :=
  match v with
  | .span ns => pure (.span ns)
  | .int n => pure (.span (n * unit))
  | .bool b => pure (.span (if b then unit else 0))
  | .float x =>
    if x.isNaN then pure .nat
    else pure (.span (Time.castFromUnit x unit))
  | .str s =>
    if ["", "NaT", "nat", "NaN", "nan", "NAT", "NaN", "None", "none"].contains s then pure .nat
    else match Time.readSpan s with
      | .ok ns => pure (.span ns)
      | .error m => throw (Fault.inner .valueError m)
  | v => if v.isMissing then pure .nat
    else throw (Fault.inner .valueError s!"Invalid type for timedelta scalar: <class '{v.typeName}'>")

def unitArg (d : Option Datum) : Outcome Int :=
  match d with
  | none | some (.scalar .none) => pure 1
  | some (.scalar (.str u)) =>
    match Time.spanUnit u with
    | .ok u => pure (Time.unitNanos u)
    | .error m => throw (Fault.inner .valueError m)
  | some d => throw (Fault.inner .typeError s!"unit must be a str, not {d.kindName}")

def instantOfUnits (unit : Int) (v : Value) : Outcome Value :=
  match v with
  | .int n => pure (.time (n * unit))
  | .bool b => pure (.time (if b then unit else 0))
  | .float x => if x.isNaN then pure .nat else pure (.time (Time.castFromUnit x unit))
  | .str s =>
    match Text.readFloat? s with
    | some x => if x.isNaN then pure .nat else pure (.time (Time.castFromUnit x unit))
    | none => throw (Fault.inner .valueError s!"non convertible value {s} with the unit")
  | .time ns => pure (.time ns)
  | v => if v.isMissing then pure .nat
    else throw (Fault.inner .typeError s!"<class '{v.typeName}'> is not convertible to datetime")

/-- The kind of several columns' values in a row: their common kind, doubles for mixed numbers, else
objects. -/
def joinedKind (ds : List DType) : DType :=
  match ds with
  | [] => .object
  | d :: rest =>
    if rest.all (· == d) then d
    else if ds.all fun k => k.isNumeric && k != .bool then
      rest.foldl (fun acc k => (Operand.commonArrays acc k).getD .float64) d
    else .object

/-- The digits of the unit a text instant is counted in: its fraction rounded up to three, six or
nine. -/
def textUnitDigits (s : String) : Nat :=
  if !s.contains ':' then 0
  else
    let last := ((s.splitOn ":").getLastD "").toList
    let n := (((last.dropWhile (· != '.')).drop 1).takeWhile Char.isDigit).length
    if n == 0 then 0 else if n ≤ 3 then 3 else if n ≤ 6 then 6 else 9

def tableCall (rows : Array Value) (name : String) (args : List Datum)
    (kwargs : List (String × Datum)) : Outcome Datum := do
  let p := param args kwargs
  let x := (p 0 "arg").getD (.scalar .none)
  let textOpt (k : String) : Option String := match ((kwargs.find? (·.1 == k)).map (·.2) : Option Datum) with
    | some (.scalar (.str s)) => some s
    | _ => none
  match name with
  | "to_numeric" => do
    let errors := (textOpt "errors").getD "raise"
    let shrink (c : Column) : Outcome Column :=
      match p 2 "downcast" with
      | some (.scalar (.str how)) => downcast c how
      | none | some (.scalar .none) => pure c
      | some _ => throw (Fault.inner .valueError "invalid downcasting method provided")
    match x with
    | .column _ | .series _ _ | .seq _ _ =>
      let o := ownerOf rows x
      if errors == "raise" then
        match unreadable o.col with
        | some (i, s) => throw (Fault.inner .valueError s!"Unable to parse string \"{s}\" at position {i}")
        | none => pure ()
      if errors == "ignore" && (unreadable o.col).isSome then return o.datum
      return o.wrap (← shrink o.col.toNumbers)
    | .scalar v | .element v _ =>
      let r ← match v with
        | .str s =>
          let r := v.toNumber
          if r.isMissing && errors == "raise" then
            throw (Fault.inner .valueError s!"Unable to parse string \"{s}\"")
          else pure r
        | _ => pure v
      match p 2 "downcast" with
      | some (.scalar (.str _)) =>
        let c ← shrink (Column.infer .none #[r])
        pure (.element (c.cell 0) c.dtype)
      | _ => pure (single r)
    | _ => throw (Fault.inner .typeError "arg must be a list, tuple, 1-d array, or Series")
  | "to_datetime" => do
    let coerce := textOpt "errors" == some "coerce"
    let fmt := textOpt "format"
    let flag (key : String) : Outcome Bool := match (kwargs.find? (·.1 == key)).map (·.2) with
      | some d => d.truth
      | none => pure false
    let order : Time.DateOrder := { dayFirst := ← flag "dayfirst", yearFirst := ← flag "yearfirst" }
    if let some u := (kwargs.find? (·.1 == "unit")).map (·.2) then
      let unit ← unitArg (some u)
      let onCells (c : Column) : Outcome Column := do
        let cells ← c.cells.mapM fun v => do
          match instantOfUnits unit v with
          | .ok r => pure r
          | .error f => if coerce then pure .nat else throw f
        pure { c with dtype := .datetime, cells }
      match x with
      | .column _ | .series _ _ | .seq _ _ =>
        let o := ownerOf rows x
        return o.wrap (← onCells o.col)
      | .scalar v | .element v _ => return .scalar (← instantOfUnits unit v)
      | d => throw (Fault.inner .typeError s!"<class '{d.kindName}'> is not convertible to datetime")
    match x with
    | .series c ls => return .series (← c.toInstantsWith coerce fmt order) ls
    | .column c => return .column (← c.toInstantsWith coerce fmt order)
    | .seq _ _ =>
      return .array (← (Column.infer .none (valuesOf x)).toInstantsWith coerce fmt order) (.labels none)
    | d => instantsOf d coerce fmt
  | "isna" | "isnull" | "notna" | "notnull" =>
    let test (v : Value) : Bool := if name.startsWith "is" then v.isMissing else !v.isMissing
    match x with
    | .column _ | .series _ _ | .seq _ _ =>
      let o := ownerOf rows x
      pure (o.wrap { label := o.col.label, dtype := .bool, cells := o.col.cells.map fun v => .bool (test v) })
    | .scalar v | .element v _ => pure (.scalar (.bool (test v)))
    | _ => pure (.scalar (.bool (!name.startsWith "is")))
  | "Series" => do
    let given (d : Option Datum) : Option Datum := match d with
      | some (.scalar .none) => none
      | d => d
    let index ← match given (p 1 "index") with
      | some d => pure (some ((← d.items?).map fun x => x.toCell rows 8).toArray)
      | none => pure none
    let label := match given (p 3 "name") with
      | some d => d.toCell rows 8
      | none => .none
    let (col, labels, aligned) : Column × Array Value × Bool := match given (p 0 "data") with
      | some (.mapping es) =>
        (Column.infer .none (es.map fun (_, v) => v.toCell rows 8).toArray,
          (es.map fun (k, _) => k.toCell rows 8).toArray, false)
      | some (.column c) => (c, rows, true)
      | some (.series c ls) => (c, ls, false)
      | some d =>
        if isArray d then
          let vs := valuesOf d
          (Column.infer .none vs, Table.rangeIndex vs.size, false)
        else (Column.infer .none #[(valuesOf d).getD 0 .none], #[.int 0], false)
      | none => ({ label := .none, dtype := .object, cells := #[] }, #[], false)
    let keyed := match given (p 0 "data") with
      | some (.mapping _) | some (.column _) | some (.series _ _) => true
      | _ => false
    let single := match given (p 0 "data") with
      | some d => !isArray d && !(d matches .mapping _)
      | none => false
    let (col, labels, aligned) ← match index with
      | none => pure (col, labels, aligned)
      | some idx =>
        if keyed then
          let cells := idx.map fun l => match labels.findIdx? (Value.sameEntry l) with
            | some i => col.cell i
            | none => Value.nan
          let found := idx.all fun l => (labels.findIdx? (Value.sameEntry l)).isSome
          pure ((if found then { col with cells } else Column.infer .none cells), idx, false)
        else if single then
          pure ({ col with cells := Array.replicate idx.size (col.cell 0) }, idx, false)
        else if idx.size != col.size then
          throw (Fault.inner .valueError
            s!"Length of values ({col.size}) does not match length of index ({idx.size})")
        else pure (col, idx, false)
    let col := { col with label }
    let col ← match given (p 2 "dtype") with
      | some d => castTo col (← kindNamed d)
      | none => pure col
    pure (if aligned then .column col else .series col labels)
  | "Timedelta" => do
    let unit ← unitArg ((kwargs.find? (·.1 == "unit")).map (·.2))
    let parts := [("weeks", 7 * Time.nsPerDay), ("days", Time.nsPerDay), ("hours", Time.nsPerHour),
      ("minutes", Time.nsPerMinute), ("seconds", Time.nsPerSecond), ("milliseconds", 1000000),
      ("microseconds", 1000), ("nanoseconds", 1)]
    match p 0 "value" with
    | some (.scalar v) | some (.element v _) => return .scalar (← spanOf unit v)
    | some d => throw (Fault.inner .valueError s!"Value must be Timedelta, string, integer, float, timedelta or convertible, not {d.kindName}")
    | none =>
      let total ← parts.foldlM (fun (acc : Int) (k, m) => do
        match ((kwargs.find? (·.1 == k)).map (·.2) : Option Datum) with
        | some (.scalar v) | some (.element v _) =>
          match ← spanOf m v with
          | .span ns => pure (acc + ns)
          | _ => pure acc
        | _ => pure acc) 0
      pure (.scalar (.span total))
  | "to_timedelta" => do
    let unitGiven := ((kwargs.find? (·.1 == "unit")).map (·.2)).isSome || args.length > 1
    let unit ← unitArg (p 1 "unit")
    let coerce := textOpt "errors" == some "coerce"
    let each (v : Value) : Outcome Value := do
      if unitGiven && v matches .str _ then
        throw (Fault.inner .valueError "unit must not be specified if the input is/contains a str")
      match spanOf unit v with
      | .ok r => pure r
      | .error f => if coerce then pure .nat else throw f
    match x with
    | .column _ | .series _ _ | .seq _ _ =>
      let o := ownerOf rows x
      let cells ← o.col.cells.mapM each
      pure (o.wrap { o.col with dtype := .duration, cells })
    | .scalar v | .element v _ => return .scalar (← each v)
    | d => throw (Fault.inner .typeError s!"Invalid type for timedelta scalar: <class '{d.kindName}'>")
  | "date_range" => do
    let instant (d : Option Datum) : Outcome (Option Int) := do
      match d with
      | none | some (.scalar .none) => pure none
      | some (.scalar v) | some (.element v _) =>
        match ← v.toInstant false none with
        | .time ns => pure (some ns)
        | .zoned ns _ => pure (some ns)
        | _ => pure none
      | some d => throw (Fault.inner .typeError s!"Cannot convert input of type {d.kindName} to Timestamp")
    let start ← instant (p 0 "start")
    let stop ← instant (p 1 "end")
    let periods ← match p 2 "periods" with
      | none | some (.scalar .none) => pure none
      | some d => pure (some (← Strings.intArg d))
    let calendar : Option Time.Offset := match p 3 "freq" with
      | some (.scalar (.str f)) => Time.calendarOffset? f
      | some (.offset o) => if o.anchor.isSome then some o else none
      | _ => none
    if let some o := calendar then
      let stamps ← match start, stop, periods with
        | some a, some b, none => pure (Time.calendarBetween o a b)
        | some a, none, some k => pure (Time.calendarRange o a k.toNat)
        | none, some b, some k =>
          let last := match o.anchor with
            | some a => if a.holds b then b else a.apply 0 b
            | none => b
          let back := Time.calendarRange o.negated last k.toNat
          pure back.reverse
        | _, _, _ => throw threeOfFour
      let cells := stamps.toArray.map Value.time
      return .array { label := .none, dtype := .datetime, cells } (.labels (some o.freqText))
    let step ← match p 3 "freq" with
      | none | some (.scalar .none) => pure Time.nsPerDay
      | some (.scalar (.str f)) =>
        match Time.frequencyNanos f with
        | .ok n => pure n
        | .error m => throw (Fault.inner .valueError m)
      | some (.scalar (.span ns)) => pure ns
      | some d => throw (Fault.inner .typeError s!"freq must be a str, not {d.kindName}")
    let count ← match start, stop, periods with
      | some a, some b, none => pure ((b - a) / step + 1)
      | some _, none, some n | none, some _, some n => pure n
      | _, _, _ => throw threeOfFour
    let first := match start, stop with
      | some a, _ => a
      | none, some b => b - (count - 1) * step
      | none, none => 0
    let cells := (Array.range (max 0 count).toNat).map fun (i : Nat) => Value.time (first + i * step)
    let freq := match p 3 "freq" with
      | some (.scalar (.str f)) => f
      | _ => "D"
    pure (.array { label := .none, dtype := .datetime, cells } (.labels (some (Time.frequencyText freq step))))
  | "unique" => do
    let o := ownerOf rows x
    if !isArray x then throw (Fault.inner .typeError
      "unique requires a Series, Index, ExtensionArray, np.ndarray or NumpyExtensionArray")
    pure (.column { o.col with label := .none, cells := (uniqueValues o.col.cells.toList).toArray })
  | "factorize" => do
    let o := ownerOf rows x
    let sortIt ← match p 1 "sort" with
      | some d => d.truth
      | none => pure false
    let present := uniqueValues (o.col.cells.toList.filter (!·.isMissing))
    let present := if sortIt then present.mergeSort fun a b => a.sortOrder b != .gt else present
    let codes := o.col.cells.map fun v =>
      if v.isMissing then Value.int (-1)
      else .int ((present.findIdx? (Value.sameEntry v)).getD 0)
    pure (.seq false [.column { label := .none, dtype := .int64, cells := codes },
      .column { o.col with label := .none, cells := present.toArray }])
  | "concat" => do
    let parts ← (← (p 0 "objs").getD (.seq true []) |>.items?).mapM fun d => match d with
      | .column c => pure (c, rows)
      | .series c ls => pure (c, ls)
      | d => throw (Fault.inner .typeError
          s!"cannot concatenate object of type '<class '{d.kindName}'>'; only Series and DataFrame objs are valid")
    if parts.isEmpty then throw (Fault.inner .valueError "No objects to concatenate")
    let ignoreIndex ← match (kwargs.find? (·.1 == "ignore_index")).map (·.2) with
      | some d => d.truth
      | none => pure false
    let cells := parts.foldl (fun acc (c, _) => acc ++ c.cells) #[]
    let labels := if ignoreIndex then Table.rangeIndex cells.size
      else parts.foldl (fun acc (_, ls) => acc ++ ls) #[]
    let dtype := joinedKind (parts.map (·.1.dtype))
    let cells := if dtype.isFloat then cells.map Value.asFloat else cells
    let label := match parts with
      | (c, _) :: rest => if rest.all fun (d, _) => Value.sameEntry d.label c.label then c.label else .none
      | [] => .none
    pure (.series { label, dtype, cells } labels)
  | "Timestamp" =>
    match x with
    | .scalar (.str s) =>
      let digits := textUnitDigits s
      let exact : Outcome Datum := do return .scalar (← (Value.str s).toInstant false none)
      if digits ≥ 9 then exact
      else
        match ← Time.readInstantWith {} s with
        | .stamp wall none _ => pure (.element (.time wall) (.instantsIn digits))
        | _ => exact
    | .element (.time ns) k => pure (.element (.time ns) k)
    | .scalar v | .element v _ => return .scalar (← v.toInstant false none)
    | d => throw (Fault.inner .typeError s!"Cannot convert input [{(d.texts rows 8).1}] of type <class 'pandas.core.series.Series'> to Timestamp")
  | _ => throw (Fault.raised .attributeError s!"module 'pandas' has no attribute '{name}'")

/-- Whether a datum is a column of the table or a series, which element-wise functions answer in
kind. -/
def isSeries (d : Datum) : Bool :=
  d matches .column _ || d matches .series _ _

def asValues (d : Datum) : Datum :=
  match d with
  | .column c | .series c _ => .array c .values
  | .seq isList items => .seq isList (items.map fun x => match x with
    | .column c | .series c _ => .array c .values
    | x => x)
  | d => d

/-- Calls a function of `np`; builders and pickers give plain arrays. -/
def callArray (rows : Array Value) (call : Datum → List Datum → Outcome Datum) (name : String)
    (args : List Datum) (kwargs : List (String × Datum)) : Outcome Datum := do
  let r ← arrayCall rows call name args kwargs
  let builds := ["where", "select", "isin", "diff", "arange", "zeros", "ones", "full", "linspace",
    "array", "asarray", "unique", "sort"]
  if builds.contains name || !((args ++ kwargs.map (·.2)).any isSeries) then pure (asValues r)
  else pure r

/-- Calls a function of `pd`: `unique`, `isna`, `to_numeric` and `factorize`. -/
def callTable (rows : Array Value) (name : String) (args : List Datum)
    (kwargs : List (String × Datum)) : Outcome Datum := do
  let r ← tableCall rows name args kwargs
  let x := (param args kwargs 0 "arg").getD (.scalar .none)
  match name, r with
  | "unique", .column c =>
    pure (if c.dtype.isPlainArray && !c.dtype.isTimeLike then .array c .values else r)
  | "isna", _ | "isnull", _ | "notna", _ | "notnull", _ | "to_numeric", _ =>
    pure (if x matches .seq _ _ then asValues r else r)
  | "factorize", .seq false [.column codes, .column uniques] =>
    pure (.seq false [.array codes .values,
      .array uniques (if isSeries x then .labels none else .values)])
  | _, _ => pure r

/-- Calling an array library kind: a value of that kind, or an array-like converted to it. -/
def construct (rows : Array Value) (kind : String) (args : List Datum) : Outcome Datum := do
  match kind, args with
  | "str", [x] | "str_", [x] => pure (.scalar (.str (x.texts rows 8).1))
  | "object", [x] | "object_", [x] => pure x
  | _, _ =>
  let some d := dtypeNamed? kind
    | throw (Fault.raised .typeError s!"'{kind}' object is not callable")
  match args with
  | [] =>
    pure (if d.isInteger then .element (.int 0) d
      else if d.isFloat then .element (.float 0.0) d
      else .element (.bool false) .bool)
  | [x] =>
    if isArray x then
      let o := ownerOf rows x
      return o.wrap (← castToType o.col d)
    else
      let v := (valuesOf x).getD 0 .none
      if d.isInteger then
        let w ← wholeOf v
        match v with
        | .float _ => pure (.element (.int (d.wrapInt w.toInteger)) d)
        | _ => if d.holdsInt w.toInteger then pure (.element w d) else throw (outOfBounds d w.toInteger)
      else if d.isFloat then
        let x ← doubleOf v
        pure (.element (.float (d.roundFloat x.toDouble)) d)
      else if d == .bool then pure (.element (.bool v.truthy) .bool)
      else
        let c ← castToType (Column.infer .none #[v]) d
        pure (.scalar (c.cell 0))
  | _ => throw (Fault.raised .typeError s!"{kind}() takes at most 1 argument ({args.length} given)")

end Libraries

end PipeQuery.Calc
