import PipeQuery.Calc.ArrayLibrary

/-!
# Calculations: array routines

Members of `np` that build (`tile`, `insert`, `zeros_like`, `hstack`, ...), search and count
(`nonzero`, `bincount`, the set routines, which give sorted distinct values), combine numbers
(`interp`, `convolve`, `cov`, `dot`, ...; a matrix is a list of its rows) and act element-wise
(`fmod`, `divmod`, `frexp`, ...; a series in gives a series out). `insert` and `delete` give a
series its row labels back, which fails when the number of values changed.
-/

namespace PipeQuery.Calc

namespace ArrayRoutines

open Libraries ArrayLibrary

def logTwo : Float := 0.693147180559945309417232121458176568

def logTwoE : Float := 1.442695040888963407359924681001892137

def largestDouble : Float := 1.7976931348623157e308

/-- The array an argument makes: a column's or array's own, a list's values in their kind, a value
as one. -/
def arrayOfArg (d : Datum) : Column :=
  match d with
  | .column c | .series c _ | .array c _ => { c with label := .none }
  | d => (Operand.ofDatum d).strong |>.arrayOf (valuesOf d)

def plainArray (dtype : DType) (cells : Array Value) : Datum :=
  .array { label := .none, dtype, cells } .values

/-- A value stored in an array of kind `d`: integers cut toward zero, truths as numbers and back,
others kept. -/
def storedAs (d : DType) (v : Value) : Value :=
  if d.isInteger then
    match v with
    | .float x => .int (Num.truncate x)
    | .bool b => .int (if b then 1 else 0)
    | v => v
  else if d.isFloat then
    match v with
    | .int _ | .bool _ => .float v.toDouble
    | v => v
  else if d == .bool then .bool v.truthy
  else v

/-- Sorted distinct values: present values ascending, then one missing value if there is any. -/
def sortedDistinct (vs : Array Value) : Array Value :=
  let distinct := uniqueValues vs.toList
  let present := (distinct.filter (!·.isMissing)).mergeSort fun a b => a.sortOrder b != .gt
  (present ++ (distinct.filter (·.isMissing)).take 1).toArray

def commonKind (args : List Datum) : Outcome DType :=
  match Operand.commonOf (args.map fun d => (Operand.ofDatum d).strong) with
  | .ok o => pure o.settled
  | .error m => throw (Fault.inner .typeError m)

/-- A place among `n` values, counted from the end when negative; one outside fails. -/
def placeIn (n : Nat) (k : Int) : Outcome Nat :=
  if k < -(n : Int) || k ≥ n then
    throw (Fault.inner .indexError s!"index {k} is out of bounds for axis 0 with size {n}")
  else pure (if k < 0 then (k + n).toNat else k.toNat)

def wholesOf (d : Datum) : Outcome (Array Int) :=
  (valuesOf d).mapM fun v => match v with
    | .int n => pure n
    | .bool b => pure (if b then 1 else 0)
    | _ => throw (Fault.inner .indexError
        "only integers, slices (`:`), ellipsis (`...`), numpy.newaxis (`None`) and integer or boolean arrays are valid indices")

def relabelFault (values labels : Nat) : Fault :=
  Fault.inner .valueError s!"Length of values ({values}) does not match length of index ({labels})"

def tile (a : Datum) (reps : Int) : Datum :=
  let c := arrayOfArg a
  plainArray c.dtype ((List.replicate reps.toNat c.cells).foldl (· ++ ·) #[])

/-- `np.repeat(a, repeats)`: each value of `a` repeated, one number of times or its own. -/
def repeatEach (a : Datum) (repeats : Datum) : Outcome Datum := do
  let c := arrayOfArg a
  let counts ← wholesOf repeats
  if counts.any (· < 0) then throw (Fault.inner .valueError "negative dimensions are not allowed")
  let countAt (i : Nat) : Nat := (if counts.size == 1 then counts.getD 0 0 else counts.getD i 0).toNat
  if counts.size != 1 && counts.size != c.size then
    throw (Fault.inner .valueError
      s!"operands could not be broadcast together with shape ({c.size},) ({counts.size},)")
  let cells := (Array.range c.size).foldl (fun acc i =>
    acc ++ Array.replicate (countAt i) (c.cell i)) #[]
  pure (plainArray c.dtype cells)

/-- `np.insert(arr, obj, values)`: the values put before place `obj`, stored in the kind of `arr`.
-/
def insertAt (a obj values : Datum) : Outcome Datum := do
  let c := arrayOfArg a
  let k ← match obj with
    | .scalar (.int k) | .element (.int k) _ => pure k
    | .scalar (.bool b) => pure (if b then 1 else 0)
    | _ => throw (Fault.inner .typeError "slice indices must be integers or None or have an __index__ method")
  let at_ ← if k == c.size then pure c.size else placeIn c.size k
  let news := (valuesOf values).map (storedAs c.dtype)
  let cells := c.cells.extract 0 at_ ++ news ++ c.cells.extract at_ c.size
  if isSeries a then throw (relabelFault cells.size c.size)
  pure (plainArray c.dtype cells)

def deleteAt (a obj : Datum) : Outcome Datum := do
  let c := arrayOfArg a
  let places ← (← wholesOf obj).mapM (placeIn c.size)
  let cells := (Array.range c.size).filter (!places.contains ·) |>.map c.cell
  if isSeries a then throw (relabelFault cells.size c.size)
  pure (plainArray c.dtype cells)

/-- `np.zeros_like`, `np.ones_like`, `np.full_like`: an array of `a`'s size filled with one value,
in `a`'s kind or the one asked. -/
def filledLike (a : Datum) (fill : Value) (kind : Option DType) : Datum :=
  let c := arrayOfArg a
  let d := kind.getD c.dtype
  plainArray d (Array.replicate c.size (storedAs d fill))

def nonzeroPlaces (c : Column) : Array Value :=
  (Array.range c.size).filter (fun i => (c.cell i).truthy || (c.cell i).isMissing)
    |>.map fun (i : Nat) => Value.int (i : Int)

/-- `np.bincount(x, weights, minlength)`: how often each whole number from zero appears, or its
weights' sum. -/
def bincount (x : Datum) (weights : Option Datum) (least : Int) : Outcome Datum := do
  let c := arrayOfArg x
  if c.dtype.isFloat || c.dtype == .object then
    throw (Fault.inner .typeError
      s!"Cannot cast array data from dtype('{c.dtype.name}') to dtype('int64') according to the rule 'safe'")
  let ns ← wholesOf (.array c .values)
  if ns.any (· < 0) then throw (Fault.inner .valueError "'list' argument must have no negative elements")
  if least < 0 then throw (Fault.inner .valueError "'minlength' must not be negative")
  let size := max (ns.foldl (fun m n => max m (n + 1)) 0) least |>.toNat
  match weights with
  | some w =>
    let ws ← doubles "add" w
    if ws.size != ns.size then throw (Fault.inner .valueError "The weights and list don't have the same length.")
    let sums := (ns.zip ws).foldl (fun acc (n, x) => acc.modify n.toNat (· + x)) (Array.replicate size 0.0)
    pure (doubleArray sums)
  | none =>
    let counts := ns.foldl (fun acc n => acc.modify n.toNat (· + 1)) (Array.replicate size (0 : Int))
    pure (intArray counts)

def setRoutine (name : String) (a b : Datum) : Outcome Datum := do
  let ca := arrayOfArg a
  let cb := arrayOfArg b
  let inB (v : Value) : Bool := cb.cells.any fun w => Value.sameEntry v w
  let inA (v : Value) : Bool := ca.cells.any fun w => Value.sameEntry v w
  let d ← if name == "setdiff1d" then pure ca.dtype else commonKind [.array ca .values, .array cb .values]
  let picked := match name with
    | "intersect1d" => sortedDistinct (ca.cells.filter inB)
    | "union1d" => sortedDistinct (ca.cells ++ cb.cells)
    | "setdiff1d" => sortedDistinct (ca.cells.filter (!inB ·))
    | _ => sortedDistinct (ca.cells.filter (!inB ·) ++ cb.cells.filter (!inA ·))
  pure (plainArray d (picked.map (storedAs d)))

/-- `np.interp(x, xp, fp, left, right)`. -/
def interpolate (xs xp fp : Array Float) (left right : Option Float) : Outcome (Array Float) := do
  if xp.isEmpty then throw (Fault.inner .valueError "array of sample points is empty")
  if xp.size != fp.size then throw (Fault.inner .valueError "fp and xp are not of the same length.")
  let n := xp.size
  let lval := left.getD (fp.getD 0 0.0)
  let rval := right.getD (fp.getD (n - 1) 0.0)
  pure (xs.map fun x =>
    if n == 1 then
      let p := xp.getD 0 0.0
      if x < p then lval else if x > p then rval else fp.getD 0 0.0
    else if x > xp.getD (n - 1) 0.0 then rval
    else if x < xp.getD 0 0.0 then lval
    else if x == xp.getD (n - 1) 0.0 then fp.getD (n - 1) 0.0
    else
      let j := ((List.range (n - 1)).filter fun i => xp.getD i 0.0 ≤ x).getLastD 0
      let x0 := xp.getD j 0.0
      let x1 := xp.getD (j + 1) 0.0
      let y0 := fp.getD j 0.0
      let y1 := fp.getD (j + 1) 0.0
      if x == x0 then y0
      else
        let slope := (y1 - y0) / (x1 - x0)
        let r := slope * (x - x0) + y0
        if !r.isNaN then r
        else
          let r := slope * (x - x1) + y1
          if r.isNaN && y0 == y1 then y0 else r)

/-- `np.gradient(f)`: the slope at each value, from both neighbours inside, one at each end. -/
def gradient (f : Array Float) : Outcome (Array Float) := do
  let n := f.size
  if n < 2 then throw (Fault.inner .valueError
    "Shape of array too small to calculate a numerical gradient, at least (edge_order + 1) elements are required.")
  pure ((Array.range n).map fun i =>
    if i == 0 then (f.getD 1 0.0 - f.getD 0 0.0) / 1.0
    else if i == n - 1 then (f.getD (n - 1) 0.0 - f.getD (n - 2) 0.0) / 1.0
    else (f.getD (i + 1) 0.0 - f.getD (i - 1) 0.0) / 2.0)

def convolution {α : Type} (mul : α → α → α) (add : α → α → α) (zero : α)
    (a v : Array α) : Array α :=
  let n := a.size + v.size - 1
  (Array.range n).map fun k =>
    (List.range a.size).foldl (fun acc i =>
      if i ≤ k && k - i < v.size then add acc (mul (a.getD i zero) (v.getD (k - i) zero)) else acc) zero

/-- The part of a full convolution a mode keeps: `full`, `same` or `valid`. -/
def convolutionPart {α : Type} (mode : String) (n m : Nat) (full : Array α) : Outcome (Array α) :=
  let long := max n m
  let short := min n m
  match mode with
  | "full" => pure full
  | "same" =>
    let start := short - 1 - short / 2
    pure (full.extract start (start + long))
  | "valid" => pure (full.extract (short - 1) long)
  | m => throw (Fault.inner .valueError s!"mode must be one of 'valid', 'same', or 'full' (got '{m}')")

def meanOf (xs : Array Float) : Float :=
  xs.foldl (· + ·) 0.0 / Float.ofNat xs.size

def covariance (rows : Array (Array Float)) (ddof : Nat) : Array (Array Float) :=
  let centred := rows.map fun r => let m := meanOf r; r.map (· - m)
  let n := (rows.getD 0 #[]).size
  let fact := Float.ofNat n - Float.ofNat ddof
  centred.map fun x => centred.map fun y =>
    (x.zip y).foldl (fun acc (a, b) => acc + a * b) 0.0 * (1.0 / fact)

def matrix (m : Array (Array Float)) : Datum :=
  .seq true (m.toList.map doubleArray)

def stackedRows (x : Datum) (y : Option Datum) : Outcome (Array (Array Float)) := do
  let first ← doubles "add" x
  match y with
  | some y =>
    let second ← doubles "add" y
    if second.size != first.size then throw (Fault.inner .valueError
      s!"all the input array dimensions except for the concatenation axis must match exactly, but along dimension 1, the array at index 0 has size {first.size} and the array at index 1 has size {second.size}")
    pure #[first, second]
  | none => pure #[first]

/-- `np.cov(m, y, ddof)`: the covariance matrix of the rows, one value for a single row. -/
def cov (x : Datum) (y : Option Datum) (ddof : Nat) : Outcome Datum := do
  let rows ← stackedRows x y
  let c := covariance rows ddof
  if rows.size == 1 then pure (.element (.float ((c.getD 0 #[]).getD 0 0.0)) .float64)
  else pure (matrix c)

/-- `np.corrcoef(x, y)`: the covariance matrix over its rows' and columns' deviations, within
`[-1, 1]`. -/
def corrcoef (x : Datum) (y : Option Datum) : Outcome Datum := do
  let rows ← stackedRows x y
  let c := covariance rows 1
  let dev := (Array.range c.size).map fun i => ((c.getD i #[]).getD i 0.0).sqrt
  let r := c.mapIdx fun i row => row.mapIdx fun j v =>
    let q := v / dev.getD i 0.0 / dev.getD j 0.0
    if q.isNaN then q else if q > 1.0 then 1.0 else if q < -1.0 then -1.0 else q
  if rows.size == 1 then pure (.element (.float ((r.getD 0 #[]).getD 0 0.0)) .float64)
  else pure (matrix r)

/-- `np.dot(a, b)` of two arrays of one length, or of values: the sum of products, whole numbers
wrapping at 64 bits. -/
def dot (a b : Datum) : Outcome Datum := do
  let ca := arrayOfArg a
  let cb := arrayOfArg b
  let single (d : Datum) : Bool := !isArray d
  if single a || single b then
    return ← Datum.binary #[] .mul a.plain b.plain
  if ca.size != cb.size then throw (Fault.inner .valueError
    s!"shapes ({ca.size},) and ({cb.size},) not aligned: {ca.size} (dim 0) != {cb.size} (dim 0)")
  let floats := ca.dtype.isFloat || cb.dtype.isFloat || ca.dtype == .object || cb.dtype == .object
  if floats then
    let xs ← doubles "multiply" (.array ca .values)
    let ys ← doubles "multiply" (.array cb .values)
    pure (.element (.float ((xs.zip ys).foldl (fun acc (x, y) => acc + x * y) 0.0)) .float64)
  else
    let total := (ca.cells.zip cb.cells).foldl (fun acc (x, y) => wrap64 (acc + x.toInteger * y.toInteger)) 0
    pure (.element (.int total) (if ca.dtype == .bool && cb.dtype == .bool then .bool else .int64))

def trapezoid (ys : Array Float) (xs : Option (Array Float)) (dx : Float) : Float :=
  (List.range (ys.size - 1)).foldl (fun acc i =>
    let width := match xs with
      | some xs => xs.getD (i + 1) 0.0 - xs.getD i 0.0
      | none => dx
    acc + width * (ys.getD i 0.0 + ys.getD (i + 1) 0.0) / 2.0) 0.0

def finiteOf (nanTo posTo negTo : Float) (x : Float) : Float :=
  if x.isNaN then nanTo else if x.isInf then (if x > 0.0 then posTo else negTo) else x

/-- Whether two arrays hold equal values in the same places (`equalNaN`: NaN equal to NaN). -/
def sameArrays (a b : Column) (equalNaN : Bool) : Bool :=
  a.size == b.size && (a.cells.zip b.cells).all fun (x, y) =>
    (equalNaN && x.isMissing && y.isMissing) ||
      (!x.isMissing && !y.isMissing && (Value.compareBy .eq x y).toOption == some true)

def eachDouble (rows : Array Value) (name : String) (f : Float → Float) (x : Datum) :
    Outcome Datum := do
  let on (v : Value) : Outcome Value :=
    match v with
    | .int _ | .bool _ | .float _ => pure (.float (f v.toDouble))
    | .none | .na => pure Value.nan
    | _ => throw (noLoop name)
  if isArray x then
    let o := ownerOf rows x
    let cells ← o.col.cells.mapM on
    pure (answered [x] (o.wrap { label := o.col.label, dtype := .float64, cells }))
  else return .element (← on ((valuesOf x).getD 0 .none)) .float64

def pairDouble (rows : Array Value) (name : String) (f : Float → Float → Float) (a b : Datum) :
    Outcome Datum := do
  let r ← pairwise rows (fun u v => do
    match u, v with
    | .int _, _ | .float _, _ | .bool _, _ =>
      match v with
      | .int _ | .float _ | .bool _ => pure (.float (f u.toDouble v.toDouble))
      | _ => if v.isMissing then pure Value.nan else throw (noLoop name)
    | _, _ => if u.isMissing then pure Value.nan else throw (noLoop name)) a b
  match r with
  | .scalar v => pure (.element v .float64)
  | r => pure (answered [a, b] r)

def logAddExp (x y : Float) : Float :=
  if x == y then x + logTwo
  else
    let d := x - y
    if d > 0.0 then x + Num.log1p (Float.exp (-d))
    else if d ≤ 0.0 then y + Num.log1p (Float.exp d)
    else d

def logAddExp2 (x y : Float) : Float :=
  if x == y then x + 1.0
  else
    let d := x - y
    if d > 0.0 then x + logTwoE * Num.log1p (Float.exp2 (-d))
    else if d ≤ 0.0 then y + logTwoE * Num.log1p (Float.exp2 d)
    else d

def heaviside (x h : Float) : Float :=
  if x.isNaN then x else if x < 0.0 then 0.0 else if x > 0.0 then 1.0 else h

/-- The fractional and whole parts of a double, both with its sign. -/
def splitDouble (x : Float) : Float × Float :=
  if x.isNaN then (x, x)
  else if x.isInf then (if x > 0.0 then 0.0 else -0.0, x)
  else
    let whole := if x < 0.0 then -((-x).floor) else x.floor
    let frac := x - whole
    (if frac == 0.0 then Num.signedZero x else frac, whole)

/-- A double as a fraction between one half and one (in size) times a power of two. -/
def mantissaExponent (x : Float) : Float × Int :=
  if x == 0.0 || x.isNaN || x.isInf then (x, 0)
  else
    let e : Int := (Float.log2 x.abs).floor.toInt64.toInt + 1
    let m := x.scaleB (-e)
    if m.abs ≥ 1.0 then (m / 2.0, e + 1)
    else if m.abs < 0.5 then (m * 2.0, e - 1)
    else (m, e)

def names : List String :=
  ["tile", "repeat", "append", "insert", "delete", "resize", "zeros_like", "ones_like",
   "full_like", "hstack", "nonzero", "flatnonzero", "bincount", "intersect1d", "union1d",
   "setdiff1d", "setxor1d", "interp", "gradient", "convolve", "cov", "corrcoef", "dot", "outer",
   "trapezoid", "nan_to_num", "array_equal", "array_equiv", "fmod", "float_power", "divmod",
   "reciprocal", "positive", "heaviside", "logaddexp", "logaddexp2", "ldexp", "modf", "frexp",
   "sinc"]

def call (rows : Array Value) (callback : Datum → List Datum → Outcome Datum) (name : String)
    (rawArgs : List Datum) (rawKwargs : List (String × Datum)) : Outcome Datum := do
  if !names.contains name then return ← ArrayLibrary.call rows callback name rawArgs rawKwargs
  -- arrays stay arrays here, so that a series is told apart from them
  let args := rawArgs
  let kwargs := rawKwargs
  let p := param args kwargs
  let need := needParam name args kwargs
  let number (d : Option Datum) : Outcome (Option Float) := do
    match given d with
    | some d => pure ((← doubles "multiply" d)[0]?)
    | none => pure none
  let kindArg (d : Option Datum) : Outcome (Option DType) := do
    match given d with
    | some d =>
      let k ← kindNamed d
      match dtypeNamed? k with
      | some t => pure (some t)
      | none => throw (Fault.inner .typeError s!"data type {Text.quote k} not understood")
    | none => pure none
  match name with
  | "tile" => pure (tile (← need 0 "A") (← Strings.intArg (← need 1 "reps")))
  | "repeat" =>
    let a ← need 0 "a"
    if isSeries a then Methods.call callback (ownerOf rows a) "repeat" (args.drop 1) kwargs
    else repeatEach a (← need 1 "repeats")
  | "append" =>
    let a := arrayOfArg (← need 0 "arr")
    let b := arrayOfArg (← need 1 "values")
    concatenate (.seq true [.array a .values, .array b .values])
  | "hstack" => concatenate (← need 0 "tup")
  | "insert" => insertAt (← need 0 "arr") (← need 1 "obj") (← need 2 "values")
  | "delete" => deleteAt (← need 0 "arr") (← need 1 "obj")
  | "resize" =>
    let c := arrayOfArg (← need 0 "a")
    let n ← Strings.intArg (← need 1 "new_shape")
    if n < 0 then throw (Fault.inner .valueError "all elements of `new_shape` must be non-negative")
    if c.size == 0 then pure (plainArray c.dtype (Array.replicate n.toNat (storedAs c.dtype (.int 0))))
    else pure (plainArray c.dtype ((Array.range n.toNat).map fun i => c.cell (i % c.size)))
  | "zeros_like" => pure (filledLike (← need 0 "a") (.int 0) (← kindArg (p 1 "dtype")))
  | "ones_like" => pure (filledLike (← need 0 "a") (.int 1) (← kindArg (p 1 "dtype")))
  | "full_like" =>
    let a ← need 0 "a"
    let size := (arrayOfArg a).size
    let fill ← match ← need 1 "fill_value" with
      | .scalar v | .element v _ => pure v
      | d =>
        let given := (valuesOf d).size
        throw (Fault.inner .valueError
          s!"could not broadcast input array from shape ({given},) into shape ({size},)")
    pure (filledLike a fill (← kindArg (p 2 "dtype")))
  | "nonzero" =>
    pure (.seq false [intArray ((nonzeroPlaces (arrayOfArg (← need 0 "a"))).map Value.toInteger)])
  | "flatnonzero" => pure (intArray ((nonzeroPlaces (arrayOfArg (← need 0 "a"))).map Value.toInteger))
  | "bincount" =>
    let least ← match given (p 2 "minlength") with
      | some d => Strings.intArg d
      | none => pure 0
    bincount (← need 0 "x") (given (p 1 "weights")) least
  | "intersect1d" | "union1d" | "setdiff1d" | "setxor1d" =>
    setRoutine name (← need 0 "ar1") (← need 1 "ar2")
  | "interp" =>
    let x ← need 0 "x"
    let r ← interpolate (← doubles "interp" x) (← doubles "interp" (← need 1 "xp"))
      (← doubles "interp" (← need 2 "fp")) (← number (p 3 "left")) (← number (p 4 "right"))
    if isArray x then pure (doubleArray r) else pure (.element (.float (r.getD 0 nan)) .float64)
  | "gradient" => pure (doubleArray (← gradient (← doubles "subtract" (← need 0 "f"))))
  | "convolve" =>
    let a := arrayOfArg (← need 0 "a")
    let v := arrayOfArg (← need 1 "v")
    if a.size == 0 then throw (Fault.inner .valueError "a cannot be empty")
    if v.size == 0 then throw (Fault.inner .valueError "v cannot be empty")
    let mode ← match given (p 2 "mode") with
      | some (.scalar (.str m)) => pure m
      | some _ => throw (Fault.inner .typeError "mode must be a string")
      | none => pure "full"
    if a.dtype.isFloat || v.dtype.isFloat then
      let xs ← doubles "multiply" (.array a .values)
      let ys ← doubles "multiply" (.array v .values)
      let (xs, ys) := if ys.size > xs.size then (ys, xs) else (xs, ys)
      pure (doubleArray (← convolutionPart mode xs.size ys.size (convolution (· * ·) (· + ·) 0.0 xs ys)))
    else
      let xs := a.cells.map Value.toInteger
      let ys := v.cells.map Value.toInteger
      let (xs, ys) := if ys.size > xs.size then (ys, xs) else (xs, ys)
      let full := convolution (fun x y => wrap64 (x * y)) (fun x y => wrap64 (x + y)) 0 xs ys
      pure (intArray (← convolutionPart mode xs.size ys.size full))
  | "cov" =>
    let ddof ← match given (p 4 "ddof") with
      | some d => Strings.intArg d
      | none => pure (if ← flag (p 3 "bias") false then 0 else 1)
    cov (← need 0 "m") (given (p 1 "y")) ddof.toNat
  | "corrcoef" => corrcoef (← need 0 "x") (given (p 1 "y"))
  | "dot" => dot (← need 0 "a") (← need 1 "b")
  | "outer" =>
    let xs ← doubles "multiply" (← need 0 "a")
    let ys ← doubles "multiply" (← need 1 "b")
    let ca := arrayOfArg (← need 0 "a")
    let cb := arrayOfArg (← need 1 "b")
    if ca.dtype.isFloat || cb.dtype.isFloat then
      pure (matrix (xs.map fun x => ys.map (x * ·)))
    else
      pure (.seq true (ca.cells.toList.map fun x =>
        intArray (cb.cells.map fun y => wrap64 (x.toInteger * y.toInteger))))
  | "trapezoid" =>
    let ys ← doubles "add" (← need 0 "y")
    let xs ← match given (p 1 "x") with
      | some d => pure (some (← doubles "subtract" d))
      | none => pure none
    let dx := (← number (p 2 "dx")).getD 1.0
    pure (.element (.float (trapezoid ys xs dx)) .float64)
  | "nan_to_num" =>
    let x ← need 0 "x"
    let c := arrayOfArg x
    let nanTo := (← number (p 2 "nan")).getD 0.0
    let posTo := (← number (p 3 "posinf")).getD largestDouble
    let negTo := (← number (p 4 "neginf")).getD (-largestDouble)
    let cells := c.cells.map fun v => match v with
      | .float y => Value.float (finiteOf nanTo posTo negTo y)
      | v => v
    if isArray x then pure (plainArray c.dtype cells)
    else pure (.element (cells.getD 0 .none) c.dtype)
  | "array_equal" | "array_equiv" =>
    let a := arrayOfArg (← need 0 "a1")
    let b := arrayOfArg (← need 1 "a2")
    let equalNaN ← if name == "array_equal" then flag (p 2 "equal_nan") false else pure false
    let (a, b) :=
      if name == "array_equiv" && a.size == 1 then ({ a with cells := Array.replicate b.size (a.cell 0) }, b)
      else if name == "array_equiv" && b.size == 1 then (a, { b with cells := Array.replicate a.size (b.cell 0) })
      else (a, b)
    pure (.scalar (.bool (sameArrays a b equalNaN)))
  | "fmod" =>
    let a ← need 0 "x1"
    let b ← need 1 "x2"
    let r ← Datum.binary rows .mod a.plain b.plain
    let ints := match r with
      | .element _ k => k.isInteger
      | .scalar (.int _) => true
      | .column c | .series c _ | .array c _ => c.dtype.isInteger
      | _ => false
    let step (u v : Value) : Outcome Value :=
      if u.isMissing || v.isMissing then pure Value.nan
      else if ints then pure (.int (if v.toInteger == 0 then 0 else Int.tmod u.toInteger v.toInteger))
      else pure (.float (Num.fmod u.toDouble v.toDouble))
    let cells ← pairwise rows step a b
    match r, cells with
    | .element _ k, .scalar v => pure (.element v k)
    | .column c, .column d | .column c, .series d _ | .series c _, .column d | .series c _, .series d _ =>
      pure (answered [a, b] ((ownerOf rows cells).wrap { c with cells := d.cells }))
    | _, d => pure (answered [a, b] d)
  | "float_power" => pairDouble rows name Float.pow (← need 0 "x1") (← need 1 "x2")
  | "heaviside" => pairDouble rows name heaviside (← need 0 "x1") (← need 1 "x2")
  | "logaddexp" => pairDouble rows name logAddExp (← need 0 "x1") (← need 1 "x2")
  | "logaddexp2" => pairDouble rows name logAddExp2 (← need 0 "x1") (← need 1 "x2")
  | "ldexp" =>
    let b ← need 1 "x2"
    if (kindOf b).isFloat then throw (Fault.inner .ufuncTypeError
      "ufunc 'ldexp' not supported for the input types, and the inputs could not be safely coerced to any supported types according to the casting rule ''safe''")
    pairDouble rows name (fun x e => x.scaleB (Num.truncate e)) (← need 0 "x1") b
  | "divmod" =>
    let a ← need 0 "x1"
    let b ← need 1 "x2"
    let q ← Datum.binary rows .floorDiv a.plain b.plain
    let m ← Datum.binary rows .mod a.plain b.plain
    pure (.seq false [answered [a, b] q, answered [a, b] m])
  | "reciprocal" =>
    let x ← need 0 "x"
    if (kindOf x).isInteger || (kindOf x) == .bool then
      let flip (n : Int) : Int :=
        if n == 0 then -9223372036854775808 else if n == 1 then 1 else if n == -1 then -1 else 0
      return answered [x] (← eachNumber rows name true id flip x)
    else eachDouble rows name (1.0 / ·) x
  | "positive" =>
    let x ← need 0 "x"
    if (kindOf x) == .bool then throw (Fault.inner .ufuncTypeError
      "ufunc 'positive' did not contain a loop with signature matching types <class 'numpy.dtypes.BoolDType'> -> None")
    if isArray x then pure (answered [x] ((ownerOf rows x).wrap (ownerOf rows x).col))
    else pure (.element ((valuesOf x).getD 0 .none) (kindOf x))
  | "modf" | "frexp" =>
    let x ← need 0 "x"
    let xs ← doubles name x
    let (firsts, seconds) := if name == "modf" then
        let parts := xs.map splitDouble
        (parts.map (Value.float ·.1), parts.map (Value.float ·.2))
      else
        let parts := xs.map mantissaExponent
        (parts.map (Value.float ·.1), parts.map (Value.int ·.2))
    let secondKind : DType := if name == "modf" then .float64 else .int32
    if isArray x then
      let o := ownerOf rows x
      let one (dtype : DType) (cells : Array Value) : Datum :=
        answered [x] (o.wrap { label := o.col.label, dtype, cells })
      pure (.seq false [one .float64 firsts, one secondKind seconds])
    else
      pure (.seq false [.element (firsts.getD 0 .none) .float64, .element (seconds.getD 0 .none) secondKind])
  | "sinc" =>
    let x ← need 0 "x"
    let f (v : Float) : Float :=
      let y := 3.141592653589793 * (if v == 0.0 then 1.0e-20 else v)
      Float.sin y / y
    let xs ← doubles name x
    if isArray x then pure (doubleArray (xs.map f))
    else pure (.element (.float (f (xs.getD 0 nan))) .float64)
  | _ => ArrayLibrary.call rows callback name rawArgs rawKwargs

end ArrayRoutines

end PipeQuery.Calc
