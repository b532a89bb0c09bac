import PipeQuery.Calc.Strings
import PipeQuery.Table.Summary
import PipeQuery.Table.Sort
import PipeQuery.Regex.Replace
import PipeQuery.Random.Twister
import PipeQuery.Time.Span
import PipeQuery.Text.Normal
import PipeQuery.Table.Binning
import PipeQuery.Time.Zone
import PipeQuery.Text.Wrap
import PipeQuery.Time.Cadence

/-!
# Calculations: attributes and methods of columns

What `c.name` and `c.name(…)` give for a column `c` and for its accessors `c.str` and `c.dt`:
summaries give one value of the column's kind; row-by-row and running methods keep the column's
row labels; reordering methods (`sort_values`, `head`, `value_counts`, ...) give a column with
row labels of its own. A method given a function calls it through `call`, which the evaluator
provides.
-/

namespace PipeQuery.Calc

/-- A column as its methods see it: values, row labels, and whether those are the table's own rows.
-/
structure Owner where
  col : Column
  labels : Array Value
  aligned : Bool
  deriving Inhabited

namespace Owner

def of? (rows : Array Value) : Datum → Option Owner
  | .column c => some { col := c, labels := rows, aligned := true }
  | .series c ls => some { col := c, labels := ls, aligned := false }
  | _ => none

def wrap (o : Owner) (c : Column) : Datum :=
  if o.aligned then .column c else .series c o.labels

def datum (o : Owner) : Datum :=
  o.wrap o.col

def rows (o : Owner) (rs : Array Nat) : Datum :=
  .series (o.col.pick rs) (rs.map fun i => o.labels.getD i .none)

def sameLabels (a b : Owner) : Bool :=
  a.labels.size == b.labels.size && (a.labels.zip b.labels).all fun (x, y) => Value.sameEntry x y

end Owner

def param (args : List Datum) (kwargs : List (String × Datum)) (i : Nat) (name : String) :
    Option Datum :=
  match args[i]? with
  | some d => some d
  | none => (kwargs.find? (·.1 == name)).map (·.2)

/-- A required argument of `fn`, by position or by name; without it, a `TypeError` naming it. -/
def needParam (fn : String) (args : List Datum) (kwargs : List (String × Datum)) (i : Nat)
    (k : String) : Outcome Datum :=
  match param args kwargs i k with
  | some d => pure d
  | none => throw (Fault.raised .typeError s!"{fn}() missing required argument '{k}' (pos {i + 1})")

/-- The single value a summary of `c` gives: of the column's kind for numbers or truths, else
itself. -/
def reduced (c : Column) (v : Value) : Datum :=
  let numeric := c.dtype.isNumeric
  match v with
  | .int _ => if numeric then .element v .int64 else .scalar v
  | .float _ => if numeric then .element v .float64 else .scalar v
  | .bool _ => if numeric then .element v .bool else .scalar v
  | _ => .scalar v

/-- Each distinct value's count, by first appearance; with `dropMissing` missing values are not
counted. -/
def valueCounts (cells : List Value) (dropMissing : Bool) : List (Value × Nat) :=
  let counted := if dropMissing then cells.filter (!·.isMissing) else cells
  (uniqueValues counted).map fun v => (v, (counted.filter fun x => Value.sameEntry x v).length)

def inferred (label : Value) (cells : Array Value) : Column :=
  Column.infer label cells

def running (c : Column) (f : Value → Value → Outcome Value) : Outcome Column := do
  let (cells, _) ← c.cells.foldlM (fun (acc : Array Value × Option Value) v => do
    let (cells, last) := acc
    if v.isMissing then pure (cells.push v, last)
    else
      let next ← match last with
        | some l => f l v
        | none => pure v
      pure (cells.push next, some next)) (#[], none)
  match c.dtype with
  | .int64 | .int32 | .int16 | .int8 | .uint64 | .uint32 | .uint16 | .uint8 | .bool =>
    pure { c with dtype := .int64, cells := cells.map fun v => match v with
      | .int n => Value.int (wrap64 n)
      | v => v }
  | .float64 => pure { c with cells := cells.map Value.asFloat }
  | _ => pure { c with cells }

/-- The column moved down `k` rows (up for `k < 0`), open rows missing; whole numbers become
doubles, truths mixed. -/
def shifted (c : Column) (k : Int) (fill : Option Value) : Column :=
  let n := c.size
  let cells := (Array.range n).map fun (i : Nat) =>
    let j : Int := (i : Int) - k
    if 0 ≤ j && j < n then some (c.cell j.toNat) else none
  if cells.all Option.isSome then c
  else
    match fill with
    | some v => inferred c.label (cells.map fun x => x.getD v)
    | none =>
      match c.dtype with
      | .int64 | .int32 | .int16 | .int8 | .uint64 | .uint32 | .uint16 | .uint8 | .float64 =>
        { c with dtype := .float64, cells := cells.map fun x => (x.getD Value.nan).asFloat }
      | .datetime | .duration => { c with cells := cells.map fun x => x.getD .nat }
      | _ => { c with dtype := .object, cells := cells.map fun x => x.getD Value.nan }

def differenced (c : Column) (k : Int) : Outcome Column := do
  let n := c.size
  let cells ← (List.range n).mapM fun (i : Nat) => do
    let j : Int := (i : Int) - k
    if 0 ≤ j && j < n then
      let a := c.cell i
      let b := c.cell j.toNat
      if a.isMissing || b.isMissing then pure (if c.dtype == .datetime then Value.nat else Value.nan)
      else
        match c.dtype with
        | .bool => pure (.bool (a.truthy != b.truthy))
        | .int64 | .int32 | .int16 | .int8 | .uint64 | .uint32 | .uint16 | .uint8 | .float64 => pure (.float (a.toDouble - b.toDouble))
        | _ => Value.arith .sub a b
    else pure (if c.dtype == .datetime || c.dtype == .duration then Value.nat else Value.nan)
  match c.dtype with
  | .int64 | .int32 | .int16 | .int8 | .uint64 | .uint32 | .uint16 | .uint8 | .float64 => pure { c with dtype := .float64, cells := cells.toArray }
  | .datetime | .duration => pure { c with dtype := .duration, cells := cells.toArray }
  | _ => pure { c with dtype := .object, cells := cells.toArray }

/-- The place from `1` of a value in a tie of `same` values after `before` places: the average,
`min`, `max` or `first`. -/
def tiePlace (method : String) (before same earlier : Nat) : Float :=
  match method with
  | "min" => Num.intToFloat (before + 1)
  | "max" => Num.intToFloat (before + same)
  | "first" => Num.intToFloat (before + earlier + 1)
  | _ => Num.intToFloat before + (Num.intToFloat same + 1.0) / 2.0

/-- Ranks from `1`: ties by `tiePlace` or `dense`; missing values `keep`, `top` or `bottom`; `pct`
divides by the places. -/
def ranked (c : Column) (method : String) (ascending : Bool) (naOption : String) (pct : Bool) :
    Column :=
  let cells := c.cells.toList
  let present := cells.filter (!·.isMissing)
  let missing := cells.length - present.length
  let less (x v : Value) : Bool := (if ascending then x.sortOrder v else v.sortOrder x) == .lt
  let dense := method == "dense"
  let groups := (uniqueValues present).length
  let shift := if naOption == "top" && missing > 0 then (if dense then 1 else missing) else 0
  let places := if naOption == "keep" then (if dense then groups else present.length)
    else if dense then groups + (if missing > 0 then 1 else 0) else cells.length
  let earlierOf (i : Nat) (v : Value) : Nat :=
    ((cells.take i).filter fun x => if v.isMissing then x.isMissing
      else !x.isMissing && x.sortOrder v == .eq).length
  let rank (i : Nat) (v : Value) : Value :=
    let r : Float :=
      if v.isMissing then
        let base := if naOption == "top" then 0 else if dense then groups else present.length
        if dense then Num.intToFloat (base + 1) else tiePlace method base missing (earlierOf i v)
      else if dense then
        Num.intToFloat (shift + (uniqueValues (present.filter fun x => less x v)).length + 1)
      else
        tiePlace method (shift + (present.filter fun x => less x v).length)
          (present.filter fun x => x.sortOrder v == .eq).length (earlierOf i v)
    if v.isMissing && naOption == "keep" then Value.nan
    else .float (if pct then r / Num.intToFloat places else r)
  { c with dtype := .float64, cells := (cells.zipIdx.map fun (v, i) => rank i v).toArray }

def wholeOf (v : Value) : Outcome Value :=
  match v with
  | .int _ => pure v
  | .bool b => pure (.int (if b then 1 else 0))
  | .float x =>
    if x.isNaN || x.isInf then
      throw (Fault.inner .valueError "Cannot convert non-finite values (NA or inf) to integer")
    else pure (.int (Num.truncate x))
  | .str s =>
    match Text.readInt? (Text.trimBlanks s) with
    | some n => pure (.int n)
    | none => throw (Fault.inner .valueError (Text.intFailure s))
  | .time ns => pure (.int ns)
  | v => throw (Fault.inner .typeError
      s!"int() argument must be a string, a bytes-like object or a real number, not '{v.typeName}'")

def doubleOf (v : Value) : Outcome Value :=
  match v with
  | .int _ | .bool _ => pure (.float v.toDouble)
  | .float _ => pure v
  | .none | .na => pure Value.nan
  | .str s =>
    match Text.readFloat? (Text.trimBlanks s) with
    | some x => pure (.float x)
    | none =>
      match Text.lower (Text.trimBlanks s) with
      | "nan" | "+nan" | "-nan" => pure Value.nan
      | "inf" | "+inf" | "infinity" | "+infinity" => pure (.float (1.0 / 0.0))
      | "-inf" | "-infinity" => pure (.float (-1.0 / 0.0))
      | _ => throw (Fault.inner .valueError s!"could not convert string to float: {Text.quote s}")
  | v => throw (Fault.inner .typeError
      s!"float() argument must be a string or a real number, not '{v.typeName}'")

def baseKind? (kind : String) : Option DType :=
  match kind with
  | "int" | "int64" | "i8" | "long" | "int_" | "intp" => some .int64
  | "int32" | "i4" | "intc" => some .int32
  | "int16" | "i2" | "short" => some .int16
  | "int8" | "i1" | "byte" => some .int8
  | "uint64" | "u8" | "uint" | "uintp" | "ulong" => some .uint64
  | "uint32" | "u4" | "uintc" => some .uint32
  | "uint16" | "u2" | "ushort" => some .uint16
  | "uint8" | "u1" | "ubyte" => some .uint8
  | "float" | "float64" | "f8" | "double" | "float_" => some .float64
  | "float32" | "f4" | "single" => some .float32
  | "float16" | "f2" | "half" | "e" => some .float16
  | "complex" | "complex128" | "c16" | "cdouble" | "D" => some .complex128
  | "complex64" | "c8" | "csingle" | "F" => some .complex64
  | "b" => some .int8
  | "B" => some .uint8
  | "h" => some .int16
  | "H" => some .uint16
  | "i" => some .int32
  | "I" => some .uint32
  | "l" | "q" | "p" => some .int64
  | "L" | "Q" | "P" => some .uint64
  | "f" => some .float32
  | "d" => some .float64
  | "string" => some .text
  | "bool" | "bool_" | "?" => some .bool
  | "object" | "O" | "object_" => some .object
  | "category" => some .category
  | "Int64" => some (.nullable .int64)
  | "Int32" => some (.nullable .int32)
  | "Int16" => some (.nullable .int16)
  | "Int8" => some (.nullable .int8)
  | "UInt64" => some (.nullable .uint64)
  | "UInt32" => some (.nullable .uint32)
  | "UInt16" => some (.nullable .uint16)
  | "UInt8" => some (.nullable .uint8)
  | "Float64" => some (.nullable .float64)
  | "Float32" => some (.nullable .float32)
  | "boolean" => some (.nullable .bool)
  | "datetime64[ns]" | "datetime64" | "M8[ns]" | "<M8[ns]" => some .datetime
  | "timedelta64[ns]" | "timedelta64" | "m8[ns]" | "<m8[ns]" => some .duration
  | _ => none

/-- The element type a name or type code stands for, after a byte-order mark (`<`, `=`, `|` usual,
`>` the other). -/
def dtypeNamed? (kind : String) : Option DType :=
  let unitOf (u : String) : Option Nat :=
    match u with
    | "s" => some 0
    | "ms" => some 3
    | "us" => some 6
    | _ => none
  let timeKind (prefixes : List String) (whole : DType) (part : Nat → DType) : Option DType :=
    prefixes.findSome? fun pre =>
      if kind.startsWith pre && kind.endsWith "]" then
        let u := ((kind.drop pre.length).dropEnd 1).toString
        if u == "ns" then some whole else (unitOf u).map part
      else none
  let bare := if kind.startsWith "<" || kind.startsWith "=" || kind.startsWith "|" then (kind.drop 1).toString else kind
  match timeKind ["datetime64[", "M8[", "<M8["] .datetime .instantsIn,
      timeKind ["timedelta64[", "m8[", "<m8["] .duration .spansIn with
  | some d, _ | none, some d => some d
  | none, none =>
  if kind.startsWith ">" then
    match baseKind? (kind.drop 1).toString with
    | some d => if d.typeCode.endsWith "1" || d == .bool || d == .object then some d else some (.swapped d)
    | none => none
  else if bare == "S" || bare == "bytes" || bare == "bytes_" then some (.bytes 0)
  else if bare.startsWith "S" && bare.length > 1 && (bare.drop 1).all Char.isDigit then
    some (.bytes ((bare.drop 1).toString.toNat!))
  else baseKind? bare

def outOfBounds (d : DType) (n : Int) : Fault :=
  Fault.inner .overflowError s!"Python integer {n} out of bounds for {d.name}"

/-- A column converted to integer type `d`: integers and truths wrap, doubles are cut toward zero
first, others must fit. -/
def castToInts (c : Column) (d : DType) : Outcome Column := do
  let cells ← match c.dtype with
    | .bool | .int64 | .int32 | .int16 | .int8 | .uint64 | .uint32 | .uint16 | .uint8 =>
      pure (c.cells.map fun v => Value.int (d.wrapInt v.toInteger))
    | .float64 | .float32 => c.cells.mapM fun v => do
      let w ← wholeOf v
      pure (Value.int (d.wrapInt w.toInteger))
    | .datetime | .duration => pure (c.cells.map fun v => match v with
      | .time ns | .span ns => Value.int (d.wrapInt ns)
      | _ => Value.int (d.wrapInt Seen.int64Min))
    | _ => c.cells.mapM fun v => do
      let w ← wholeOf v
      if d.holdsInt w.toInteger then pure w else throw (outOfBounds d w.toInteger)
  pure { c with dtype := d, cells }

/-- A `source` value in the nullable type over `inner`: missing values become `NA`; a double becomes
an integer only when whole. -/
def nullableCell (source inner : DType) (v : Value) : Outcome Value :=
  if v.isMissing then pure Value.na
  else if inner.isInteger then
    match v with
    | .float x =>
      if x != x.floor then
        throw (Fault.inner .typeError s!"cannot safely cast non-equivalent {source.name} to {inner.name}")
      else pure (Value.int (Num.truncate x))
    | v => wholeOf v
  else if inner.isFloat then doubleOf v
  else pure (Value.bool v.truthy)

def castToType (c : Column) (d : DType) : Outcome Column := do
  let unitNanos (digits : Nat) : Int := (Nat.pow 10 (9 - digits) : Nat)
  match d with
  | .float64 | .float32 | .float16 =>
    match c.dtype with
    | .datetime | .duration => pure { c with dtype := d, cells := c.cells.map fun v => match v with
      | .time ns | .span ns => Value.float (d.roundFloat (Num.intToFloat ns))
      | _ => Value.nan }
    | _ =>
      let cells ← c.cells.mapM doubleOf
      pure { c with dtype := d, cells := cells.map fun v => match v with
        | .float x => .float (d.roundFloat x)
        | v => v }
  | .complex128 | .complex64 =>
    let part (x : Float) : Float := if d == .complex64 then x.toFloat32.toFloat else x
    let cells ← c.cells.mapM fun v => match v with
      | .complex re im => pure (Value.complex (part re) (part im))
      | .int _ | .bool _ | .float _ => pure (Value.complex (part v.toDouble) 0.0)
      | v =>
        if v.isMissing then pure (Value.complex (0.0 / 0.0) 0.0)
        else throw (Fault.inner .typeError
          s!"complex() first argument must be a string or a number, not '{v.typeName}'")
    pure { c with dtype := d, cells }
  | .text =>
    pure { c with dtype := .text, cells := c.cells.map fun v => match v with
      | .str _ => v
      | v => if v.isMissing then Value.na else .str v.text }
  | .bytes width =>
    let texts := c.cells.map fun v => match v with
      | .str t => t
      | v => v.text
    let width := if width > 0 then width
      else match c.dtype with
        | .int64 => 21 | .int32 => 11 | .int16 => 6 | .int8 => 4
        | .uint64 => 20 | .uint32 => 10 | .uint16 => 5 | .uint8 => 3
        | .bool => 5
        | k => if k.isFloat then 32 else texts.foldl (fun m t => max m t.length) 1
    let cells := texts.map fun t => Value.other "bytes" (bytesRepr (String.ofList (t.toList.take width)))
    pure { c with dtype := .bytes width, cells }
  | .swapped inner =>
    let r ← castToType c inner
    pure { r with dtype := d }
  | .instantsIn digits =>
    let r ← if c.dtype == .datetime then pure c
      else if c.dtype.isInteger then
        pure { c with dtype := .datetime, cells := c.cells.map fun v => match v with
          | .int n => Value.time (n * unitNanos digits)
          | _ => Value.nat }
      else c.toInstants false none
    pure { r with dtype := d, cells := r.cells.map fun v => match v with
      | .time ns => Value.time (Int.fdiv ns (unitNanos digits) * unitNanos digits)
      | v => v }
  | .spansIn digits =>
    pure { c with dtype := d, cells := c.cells.map fun v => match v with
      | .int n => Value.span (n * unitNanos digits)
      | .span ns => Value.span (Int.fdiv ns (unitNanos digits) * unitNanos digits)
      | _ => Value.nat }
  | .bool => pure { c with dtype := .bool, cells := c.cells.map fun v => .bool v.truthy }
  | .object => pure { c with dtype := .object }
  | .category => pure { c with dtype := .category }
  | .datetime => c.toInstants false none
  | .duration =>
    pure { c with dtype := .duration, cells := c.cells.map fun v => match v with
      | .int n => .span n
      | .span _ => v
      | _ => .nat }
  | .nullable inner =>
    let cells ← c.cells.mapM (nullableCell c.dtype inner)
    pure { c with dtype := d, cells }
  | d =>
    if d.isInteger then castToInts c d
    else throw (Fault.inner .typeError s!"data type {Text.quote d.name} not understood")

def castTo (c : Column) (kind : String) : Outcome Column := do
  match kind with
  | "str" | "unicode" | "U" | "str_" => pure c.toTexts
  | k =>
    match dtypeNamed? k with
    | some d => castToType c d
    | none => throw (Fault.inner .typeError s!"data type {Text.quote k} not understood")

def kindNamed (d : Datum) : Outcome String :=
  match d with
  | .scalar (.str s) => pure s
  | .scalar (.other "type" name) => pure name
  | d => throw (Fault.inner .typeError s!"Cannot interpret '{(d.texts #[] 8).2}' as a data type")

namespace Libraries

/-- The library functions that are members of `np` under another name. -/
def sharedName? (name : String) : Option String :=
  match name with
  | "abs" | "absolute" => some "abs"
  | "ceil" => some "ceil"
  | "floor" => some "floor"
  | "sqrt" => some "sqrt"
  | "log" => some "log"
  | "log10" => some "log10"
  | "exp" => some "exp"
  | "power" => some "pow"
  | "round" | "around" => some "round"
  | _ => none

def arrayFunctions : List String :=
  ["maximum", "minimum", "fmax", "fmin", "where", "select", "clip", "isnan", "isfinite", "isinf",
   "sign", "square", "negative", "log2", "log1p", "expm1", "trunc", "rint", "add", "subtract",
   "multiply", "divide", "true_divide", "floor_divide", "mod", "remainder", "sum", "mean",
   "median", "std", "var", "min", "max", "amin", "amax", "prod", "any", "all", "argmax", "argmin",
   "count_nonzero", "arange", "zeros", "ones", "full", "linspace", "array", "asarray", "unique",
   "sort", "cumsum", "cumprod", "nansum", "nanmean", "nanmax", "nanmin", "hypot", "arctan2",
   "logical_and", "logical_or", "logical_xor", "logical_not", "isin", "diff", "sin", "cos", "tan",
   "arcsin", "arccos", "arctan", "sinh", "cosh", "tanh", "arcsinh", "arccosh", "arctanh", "cbrt",
   "exp2", "deg2rad", "rad2deg", "degrees", "radians", "fabs", "average", "ptp", "nanstd",
   "nanvar", "nanmedian", "nanprod", "nanargmax", "nanargmin", "nancumsum", "nancumprod",
   "percentile", "quantile", "nanpercentile", "nanquantile", "concatenate", "flip", "roll",
   "argsort", "searchsorted", "digitize", "isclose", "allclose", "copysign", "gcd", "lcm",
   "bitwise_and", "bitwise_or", "bitwise_xor", "left_shift", "right_shift", "invert",
   "bitwise_not", "signbit", "fix", "ediff1d", "histogram", "tile", "repeat", "append", "insert",
   "delete", "resize", "zeros_like", "ones_like", "full_like", "hstack", "nonzero",
   "flatnonzero", "bincount", "intersect1d", "union1d", "setdiff1d", "setxor1d", "interp",
   "gradient", "convolve", "cov", "corrcoef", "dot", "outer", "trapezoid", "nan_to_num",
   "array_equal", "array_equiv", "fmod", "float_power", "divmod", "reciprocal", "positive",
   "heaviside", "logaddexp", "logaddexp2", "ldexp", "modf", "frexp", "sinc"]

end Libraries

namespace Members

def noSuch (name : String) : Fault :=
  Fault.raised .attributeError s!"'Series' object has no attribute '{name}'"

/-- The attributes of a column that are not methods, and the methods it has. -/
def methodNames : List String :=
  ["sum", "mean", "median", "min", "max", "std", "var", "count", "nunique", "prod", "product",
   "any", "all", "idxmax", "idxmin", "abs", "round", "isna", "isnull", "notna", "notnull",
   "fillna", "astype", "between", "clip", "isin", "map", "apply", "replace", "where", "mask",
   "add", "sub", "subtract", "mul", "multiply", "div", "divide", "truediv", "floordiv", "mod",
   "pow", "radd", "rsub", "rmul", "rdiv", "rtruediv", "rfloordiv", "rmod", "rpow", "eq", "ne",
   "lt", "gt", "le", "ge", "cumsum", "cumprod", "cummax", "cummin", "shift", "diff",
   "pct_change", "rank", "sort_values", "head", "tail", "nlargest", "nsmallest", "value_counts",
   "mode", "drop_duplicates", "duplicated", "unique", "tolist", "to_list", "to_numpy", "copy",
   "item", "dropna", "ffill", "bfill", "pad", "backfill", "sort_index", "reset_index", "to_frame", "describe",
   "quantile", "sample", "explode", "rename", "info", "agg", "aggregate", "transform", "argmax",
   "argmin", "interpolate", "update"]

/-- The arithmetic operator an arithmetic method stands for, and whether its sides swap. -/
def arithMethod? (name : String) : Option (BinOp × Bool) :=
  match name with
  | "add" => some (.add, false) | "radd" => some (.add, true)
  | "sub" | "subtract" => some (.sub, false) | "rsub" => some (.sub, true)
  | "mul" | "multiply" => some (.mul, false) | "rmul" => some (.mul, true)
  | "div" | "divide" | "truediv" => some (.div, false)
  | "rdiv" | "rtruediv" => some (.div, true)
  | "floordiv" => some (.floorDiv, false) | "rfloordiv" => some (.floorDiv, true)
  | "mod" => some (.mod, false) | "rmod" => some (.mod, true)
  | "pow" => some (.pow, false) | "rpow" => some (.pow, true)
  | _ => none

def compareMethod? (name : String) : Option CmpOp :=
  match name with
  | "eq" => some .eq | "ne" => some .ne | "lt" => some .lt | "gt" => some .gt
  | "le" => some .le | "ge" => some .ge
  | _ => none

/-- The truths of a condition for the owner's rows: a column of truths, or one truth for all. -/
def truthsOf (o : Owner) (d : Datum) : Outcome (Array Bool) :=
  match d with
  | .column c | .series c _ => pure (c.cells.map fun v => !v.isMissing && v.truthy)
  | d => do
    let b ← d.truth
    pure (Array.replicate o.col.size b)

def cellOf (d : Datum) (i : Nat) : Value :=
  match d with
  | .column c | .series c _ => c.cell i
  | .scalar v | .element v _ => v
  | _ => .none

def choose (o : Owner) (keep : Array Bool) (other : Datum) : Datum :=
  let c := o.col
  if keep.all id then o.datum
  else
    let cells := (Array.range c.size).map fun i =>
      if keep.getD i true then c.cell i else cellOf other i
    let missingOther := other.isMissingValue
    if missingOther && c.dtype.isInteger then
      o.wrap { c with dtype := .float64, cells := cells.map Value.asFloat }
    else if missingOther && c.dtype == .bool then o.wrap { c with dtype := .object, cells }
    else if missingOther then o.wrap { c with cells := if c.dtype == .datetime then cells.map fun v =>
      if v.isMissing then .nat else v else cells }
    else o.wrap (inferred c.label cells)

/-- The values `f` gives for each value of the owner (missing values too), of the kind they make. -/
def mapped (call : Datum → List Datum → Outcome Datum) (o : Owner) (f : Datum) (skipMissing : Bool) :
    Outcome Datum := do
  let c := o.col
  let cells ← c.cells.mapM fun v => do
    if skipMissing && v.isMissing then pure v
    else
      match ← call f [.scalar v] with
      | .scalar r | .element r _ => pure r
      | d => pure (d.toCell o.labels 8)
  pure (o.wrap (inferred c.label cells))

/-- The labels a summary gives the percentiles `ps`: percents rounded to the precision their gaps
need. -/
def percentLabels (ps : List Float) : List String :=
  let pcts := ps.map (100.0 * ·)
  let first := pcts.headD 0.0
  let last := pcts.getLastD 100.0
  let gaps := (if first > 0.0 then [first] else []) ++
    (pcts.zip pcts.tail).map (fun (a, b) => b - a) ++ (if last < 100.0 then [100.0 - last] else [])
  let least := gaps.foldl (fun m g => min m g.abs) (1.0 / 0.0)
  let prec : Int := max 1 (-(Num.truncate (Float.log10 least).floor))
  let scale := Float.pow 10.0 (Num.intToFloat prec)
  let rounded (x : Float) : Float := Num.intToFloat (Num.roundHalfEven (x * scale)) / scale
  let whole (x : Float) : Bool :=
    let w := Num.intToFloat (Num.truncate (rounded x))
    (w - x).abs ≤ 1e-8 + 1e-5 * x.abs
  if pcts.all whole then pcts.map fun x => s!"{Num.truncate (rounded x)}%"
  else pcts.map fun x =>
    if whole x then s!"{Num.roundHalfEven x}%" else s!"{Value.floatText (rounded x)}%"

/-- A column's `describe`: count, mean, deviation, extremes and percentiles for numbers; count,
distinct, top, frequency else. -/
def described (c : Column) (ps : List Float) : Outcome (Column × Array Value) := do
  if c.dtype.isNumeric && c.dtype != .bool then
    let xs := (c.presentFloats.mergeSort fun a b => a ≤ b).toArray
    let mean ← Summary.whole .mean c
    let least ← Summary.whole .min c
    let most ← Summary.whole .max c
    let cells := [Value.float (Num.intToFloat xs.size), mean.asFloat,
      .float (twoPassVariance 1 c).sqrt, least.asFloat] ++
      ps.map (fun q => Value.float (linearQuantile xs q)) ++ [most.asFloat]
    let labels := ["count", "mean", "std", "min"] ++ percentLabels ps ++ ["max"]
    pure ({ label := c.label, dtype := .float64, cells := cells.toArray }, (labels.map Value.str).toArray)
  else
    let counts := valueCounts c.cells.toList true
    let sizes : Column := { label := .none, dtype := .int64,
                            cells := (counts.map fun (_, k) => Value.int k).toArray }
    let order := orderByKey sizes false (Array.range counts.length)
    let present := (c.cells.filter (!·.isMissing)).size
    let (top, freq) := match order[0]? with
      | some i => let (v, k) := counts.getD i (.none, 0); (v, Value.int k)
      | none => (Value.nan, Value.nan)
    let cells := #[Value.int present, .int counts.length, top, freq]
    pure ({ label := c.label, dtype := .object, cells }, #[.str "count", .str "unique", .str "top", .str "freq"])

/-- The positions `sample` draws from `n` rows with seed `seed`: `size` draws with repetition, or a
shuffle's first `size`. -/
def samplePositions (n size seed : Nat) (replace : Bool) : Outcome (Array Nat) := do
  let g := Twister.ofSeed seed.toUInt32
  if n == 0 && size != 0 then
    throw (Fault.inner .valueError "a must be greater than 0 unless no samples are taken")
  if replace then
    let draws := (List.range size).foldl (fun (acc : Array Nat × Twister) _ =>
      let (k, g) := acc.2.below (n - 1)
      (acc.1.push k, g)) (#[], g)
    pure draws.1
  else if size > n then
    throw (Fault.inner .valueError "Cannot take a larger sample than population when 'replace=False'")
  else pure ((Twister.shuffle (Array.range n) g).1.extract 0 size)

/-- Where a draw `x` from `[0, 1)` falls among running totals: the first above it. -/
def landing (totals : Array Float) (x : Float) : Nat :=
  (totals.filter (· ≤ x)).size

def scaledTotals (ps : Array Float) : Array Float :=
  let totals := (ps.foldl (fun (acc : Array Float × Float) p =>
    (acc.1.push (acc.2 + p), acc.2 + p)) (#[], 0.0)).1
  let last := totals.back?.getD 1.0
  totals.map (· / last)

/-- The positions `sample` draws by weights `ps`: with repetition by running totals; without, rounds
zeroing drawn weights. -/
def weightedPositions (ps : Array Float) (size seed : Nat) (replace : Bool) : Outcome (Array Nat) := do
  let g := Twister.ofSeed seed.toUInt32
  if replace then
    let totals := scaledTotals ps
    let draws := (List.range size).foldl (fun (acc : Array Nat × Twister) _ =>
      let (x, g) := acc.2.nextDouble
      (acc.1.push (landing totals x), g)) (#[], g)
    pure draws.1
  else
    if size > ps.size then
      throw (Fault.inner .valueError "Cannot take a larger sample than population when 'replace=False'")
    if (ps.filter (· > 0.0)).size < size then
      throw (Fault.inner .valueError "Fewer non-zero entries in p than size")
    let round (acc : Array Nat × Twister) (_ : Nat) : Array Nat × Twister :=
      let (found, g) := acc
      if found.size ≥ size then acc
      else
        let weights := ps.mapIdx fun i p => if found.contains i then 0.0 else p
        let totals := scaledTotals weights
        let (xs, g) := (List.range (size - found.size)).foldl (fun (acc : Array Float × Twister) _ =>
          let (x, g) := acc.2.nextDouble
          (acc.1.push x, g)) (#[], g)
        let fresh := xs.foldl (fun (seen : Array Nat) x =>
          let k := landing totals x
          if seen.contains k then seen else seen.push k) #[]
        (found ++ fresh, g)
    pure ((List.range (size + 1)).foldl round (#[], g)).1

def patternOf (pat : String) (bits : Nat) : Outcome Regex.Pattern :=
  match Regex.compileBits pat bits with
  | .ok re => pure re
  | .error e => throw (e.fault pat)

/-- A text with the characters a pattern gives a meaning escaped, so that it matches itself. -/
def escapePattern (s : String) : String :=
  String.join (s.toList.map fun c =>
    if "()[]\x7b\x7d?*+-|^$\\.&~# \t\n\r".contains c || c.toNat == 11 || c.toNat == 12 then
      "\\" ++ c.toString
    else c.toString)

/-- The most cells of a gap a fill from a neighbour may fill: a whole number at least one. -/
def padLimit (d : Option Datum) : Outcome (Option Nat) :=
  match d with
  | none | some (.scalar .none) => pure none
  | some (.scalar (.int k)) | some (.element (.int k) _) =>
    if k < 1 then throw (Fault.inner .valueError "Limit must be greater than 0") else pure (some k.toNat)
  | some _ => throw (Fault.inner .valueError "Limit must be an integer")

/-- Which gaps a fill may fill: only those `inside` the present values, or only those `outside`
them. -/
def areaArg (d : Option Datum) : Outcome (Option String) :=
  match d with
  | none | some (.scalar .none) => pure none
  | some (.scalar (.str a)) =>
    if a == "inside" || a == "outside" then pure (some a)
    else throw (Fault.inner .valueError
      s!"Invalid limit_area: expecting one of ['inside', 'outside'], got {a}.")
  | some d => throw (Fault.inner .valueError
      s!"Invalid limit_area: expecting one of ['inside', 'outside'], got {(d.texts #[] 8).1}.")

def call (call : Datum → List Datum → Outcome Datum) (o : Owner) (name : String)
    (args : List Datum) (kwargs : List (String × Datum)) : Outcome Datum := do
  let c := o.col
  let p := param args kwargs
  let whole (s : Summary) : Outcome Datum := do
    return reduced c (← Summary.whole s c)
  let count (d : Option Datum) (default : Int) : Outcome Int :=
    match d with
    | some x => Strings.intArg x
    | none => pure default
  let truths (bs : Array Bool) : Datum := o.wrap { label := c.label, dtype := .bool, cells := bs.map Value.bool }
  let present := c.cells.toList.filter (!·.isMissing)
  let keyword (k : String) : Option Datum := (kwargs.find? (·.1 == k)).map (·.2)
  let flag (d : Option Datum) (default : Bool) : Outcome Bool :=
    match d with
    | some x => x.truth
    | none => pure default
  -- a running method; without `skipna` the values after a missing one are missing
  let accumulate (f : Value → Value → Outcome Value) : Outcome Datum := do
    let r ← running c f
    if ← flag (p 1 "skipna") true then return o.wrap r
    match c.cells.findIdx? (·.isMissing) with
    | some k =>
      let cells := r.cells.mapIdx fun i v => if i ≥ k then (if r.dtype.isNumeric then Value.nan else c.cell k) else v
      let dtype := if r.dtype.isNumeric then .float64 else r.dtype
      pure (o.wrap { r with dtype, cells := if dtype == .float64 then cells.map Value.asFloat else cells })
    | none => pure (o.wrap r)
  match arithMethod? name, compareMethod? name with
  | some (op, swap), _ =>
    let other := (p 0 "other").getD (.scalar .none)
    if swap then Datum.binary o.labels op other o.datum else Datum.binary o.labels op o.datum other
  | _, some op => Datum.compare op o.datum ((p 0 "other").getD (.scalar .none))
  | none, none =>
  match name with
  | "sum" => whole .sum
  | "mean" => whole .mean
  | "median" => whole .median
  | "min" => whole .min
  | "max" => whole .max
  | "count" => pure (.element (.int present.length) .int64)
  | "nunique" => pure (.scalar (.int (distinctCount c.cells.toList)))
  | "std" | "var" => do
    let ddof ← count (p 2 "ddof") 1
    numbersOnly c name
    let v := twoPassVariance ddof.toNat c
    pure (.element (.float (if name == "std" then v.sqrt else v)) .float64)
  | "prod" | "product" =>
    match c.dtype with
    | .int64 | .int32 | .int16 | .int8 | .uint64 | .uint32 | .uint16 | .uint8 | .bool =>
      pure (.element (.int (present.foldl (fun acc v => wrap64 (acc * v.toInteger)) 1)) .int64)
    | _ => do
      numbersOnly c name
      pure (.element (.float (present.foldl (fun acc v => acc * v.toDouble) 1.0)) .float64)
  | "any" => pure (.element (.bool (present.any Value.truthy)) .bool)
  | "all" => pure (.element (.bool (present.all Value.truthy)) .bool)
  | "argmax" | "argmin" => do
    let skipna ← flag (p 1 "skipna") true
    let nowhere : Datum := .element (.int (-1)) .int64
    if (!skipna && c.cells.any (·.isMissing)) || present.isEmpty then return nowhere
    match ← extreme (name == "argmax") c.cells.toList with
    | some best =>
      match c.cells.findIdx? fun v => !v.isMissing && v.sortOrder best == .eq with
      | some i => pure (.element (.int i) .int64)
      | none => pure nowhere
    | none => pure nowhere
  | "describe" => do
    let ps ← match p 0 "percentiles" with
      | none | some (.scalar .none) => pure [0.25, 0.5, 0.75]
      | some d => do
        let ps ← (← d.items?).mapM fun x => match x with
          | .scalar v | .element v _ => pure v.toDouble
          | x => throw (Fault.inner .typeError s!"'{x.kindName}' object cannot be interpreted as a number")
        if ps.any fun q => q < 0.0 || q > 1.0 || q.isNaN then
          throw (Fault.inner .valueError "percentiles should all be in the interval [0, 1]")
        let ps := if ps.contains 0.5 then ps else ps ++ [0.5]
        let sorted := ps.mergeSort fun a b => a ≤ b
        let distinct := sorted.eraseDups
        if distinct.length < ps.length then
          throw (Fault.inner .valueError "percentiles cannot contain duplicates")
        pure distinct
    let (col, labels) ← described c ps
    pure (.series col labels)
  | "sample" => do
    let given (d : Option Datum) : Option Datum := match d with
      | some (.scalar .none) => none
      | d => d
    let replace ← flag (p 2 "replace") false
    let seed ← match given (p 4 "random_state") with
      | none => pure 0
      | some d => Strings.intArg d
    if seed < 0 || seed > 4294967295 then
      throw (Fault.inner .valueError "Seed must be between 0 and 2**32 - 1")
    let size ← match given (p 0 "n"), given (p 1 "frac") with
      | none, none => pure 1
      | some _, some _ => throw (Fault.inner .valueError "Please enter a value for `frac` OR `n`, not both")
      | some d, none => do
        let k ← match d with
          | .scalar (.float x) | .element (.float x) _ =>
            if x.floor != x then throw (Fault.inner .valueError "Only integers accepted as `n` values")
            else pure (Num.truncate x)
          | d => Strings.intArg d
        if k < 0 then throw (Fault.inner .valueError
          "A negative number of rows requested. Please provide `n` >= 0.")
        pure k.toNat
      | none, some d => do
        let f ← match d with
          | .scalar v | .element v _ => pure v.toDouble
          | d => throw (Fault.inner .typeError s!"unsupported operand type(s) for *: '{d.kindName}' and 'int'")
        if f > 1.0 && !replace then throw (Fault.inner .valueError
          "Replace has to be set to `True` when upsampling the population `frac` > 1.")
        if f < 0.0 then throw (Fault.inner .valueError
          "A negative number of rows requested. Please provide `frac` >= 0.")
        pure (Num.roundHalfEven (f * Num.intToFloat c.size)).toNat
    let positions ← match given (p 3 "weights") with
      | none => samplePositions c.size size seed.toNat replace
      | some w => do
        let ws ← match w with
          | .column wc | .series wc _ => pure (wc.cells.map fun v => if v.isMissing then 0.0 / 0.0 else v.toDouble)
          | .scalar (.str _) => throw (Fault.inner .valueError
              "Strings cannot be passed as weights when sampling from a Series.")
          | d => do
            let items ← d.items?
            items.toArray.mapM fun x => match x with
              | .scalar v | .element v _ => if v.isMissing then pure (0.0 / 0.0) else pure v.toDouble
              | _ => throw (Fault.inner .typeError "float() argument must be a string or a real number")
        if ws.size != c.size then
          throw (Fault.inner .valueError "Weights and axis to be sampled must be of same length")
        if ws.any (·.isInf) then
          throw (Fault.inner .valueError "weight vector may not include `inf` values")
        if ws.any (· < 0.0) then
          throw (Fault.inner .valueError "weight vector many not include negative values")
        let ws := ws.map fun x => if x.isNaN then 0.0 else x
        let total := pairwiseSum ws
        if total == 0.0 then throw (Fault.inner .valueError "Invalid weights: weights sum to zero")
        weightedPositions (ws.map (· / total)) size seed.toNat replace
    if ← flag (p 6 "ignore_index") false then
      return .series (c.pick positions) (Table.rangeIndex positions.size)
    pure (o.rows positions)
  | "idxmax" | "idxmin" => do
    match ← extreme (name == "idxmax") c.cells.toList with
    | some best =>
      match c.cells.findIdx? fun v => !v.isMissing && v.sortOrder best == .eq with
      | some i => pure (.scalar (o.labels.getD i .none))
      | none => pure (.scalar Value.nan)
    | none => throw (Fault.inner .valueError s!"attempt to get {name.drop 3}max of an empty sequence")
  | "abs" => return o.wrap (← c.ufunc .abs)
  | "round" => do
    let d ← count (p 0 "decimals") 0
    return o.wrap (← c.roundTo d)
  | "isna" | "isnull" => pure (truths (c.cells.map (·.isMissing)))
  | "notna" | "notnull" => pure (truths (c.cells.map (!·.isMissing)))
  | "fillna" =>
    let value := match p 0 "value" with
      | some (.scalar .none) => none
      | d => d
    let limit := keyword "limit"
    match value, keyword "method" with
    | some _, some (.scalar (.str _)) =>
      throw (Fault.inner .valueError "Cannot specify both 'value' and 'method'.")
    | none, some (.scalar (.str m)) =>
      match m.toLower with
      | "ffill" | "pad" => return o.wrap (c.padLimited true (← padLimit limit) none)
      | "bfill" | "backfill" => return o.wrap (c.padLimited false (← padLimit limit) none)
      | m => throw (Fault.inner .valueError
          s!"Invalid fill method. Expecting pad (ffill) or backfill (bfill). Got {m}")
    | some (.scalar v), _ | some (.element v _), _ =>
      let first ← match limit with
        | some (.scalar (.int k)) | some (.element (.int k) _) => pure (some k)
        | some (.scalar .none) | none => pure none
        | some (.scalar (.float x)) => pure (some (Num.truncate x.floor))
        | some d => throw (Fault.inner .typeError
            s!"'>' not supported between instances of 'int' and '{d.kindName}'")
      pure (o.wrap (c.fillFirst v (first.map fun k => k.toNat)))
    | some (.seq _ _), _ => throw (Fault.inner .typeError
        s!"\"value\" parameter must be a scalar or dict, but you passed a \"{(value.getD (.scalar .none)).kindName}\"")
    | some other, _ => pure (choose o (c.cells.map (!·.isMissing)) other)
    | none, _ => throw (Fault.inner .valueError "Must specify a fill 'value' or 'method'.")
  | "dropna" =>
    pure (o.rows ((Array.range c.size).filter fun i => !(c.cell i).isMissing))
  | "ffill" | "bfill" | "pad" | "backfill" => do
    let area ← areaArg (keyword "limit_area")
    return o.wrap (c.padLimited (name == "ffill" || name == "pad") (← padLimit (keyword "limit")) area)
  | "interpolate" => do
    let method ← match p 0 "method" with
      | some (.scalar (.str m)) => pure m
      | none => pure "linear"
      | some _ => throw (Fault.inner .valueError "'method' should be a string, not None.")
    let direction ← match keyword "limit_direction" with
      | some (.scalar (.str d)) =>
        let d := d.toLower
        if (method == "pad" || method == "ffill") && d != "forward" then
          throw (Fault.inner .valueError s!"`limit_direction` must be 'forward' for method `{method}`")
        if (method == "backfill" || method == "bfill") && d != "backward" then
          throw (Fault.inner .valueError s!"`limit_direction` must be 'backward' for method `{method}`")
        pure d
      | _ => pure (if method == "backfill" || method == "bfill" then "backward" else "forward")
    if ["ffill", "bfill", "pad", "backfill"].contains method then
      let area ← areaArg (keyword "limit_area")
      return o.wrap (c.padLimited (method == "ffill" || method == "pad") (← padLimit (keyword "limit")) area)
    if !(c.dtype == .float64 || c.dtype == .float32 || c.dtype == .object) then return o.datum
    let valid := ["linear", "time", "index", "values", "nearest", "zero", "slinear", "quadratic",
      "cubic", "barycentric", "krogh", "spline", "polynomial", "from_derivatives",
      "piecewise_polynomial", "pchip", "akima", "cubicspline"]
    if (method == "spline" || method == "polynomial") && (keyword "order").isNone then
      throw (Fault.inner .valueError "You must specify the order of the spline or polynomial.")
    if !valid.contains method then
      let listed := ", ".intercalate (valid.map fun m => "'" ++ m ++ "'")
      throw (Fault.inner .valueError s!"method must be one of [{listed}]. Got '{method}' instead.")
    if method == "time" then
      throw (Fault.inner .valueError
        "time-weighted interpolation only works on Series or DataFrames with a DatetimeIndex")
    if !(["forward", "backward", "both"].contains direction) then
      throw (Fault.inner .valueError
        s!"Invalid limit_direction: expecting one of ['forward', 'backward', 'both'], got '{direction}'.")
    let area ← areaArg (keyword "limit_area")
    let limit ← padLimit (keyword "limit")
    if !(["linear", "index", "values"].contains method) then
      throw (Fault.inner .valueError
        "Missing optional dependency 'scipy'.  Use pip or conda to install scipy.")
    pure (o.wrap (c.interpolateBy limit direction area))
  | "update" => pure (.scalar .none)
  | "astype" =>
    match p 0 "dtype" with
    | some d => return o.wrap (← castTo c (← kindNamed d))
    | none => throw (Fault.raised .typeError
        "NDFrame.astype() missing 1 required positional argument: 'dtype'")
  | "between" => do
    let lo := (p 0 "left").getD (.scalar .none)
    let hi := (p 1 "right").getD (.scalar .none)
    let inclusive ← match p 2 "inclusive" with
      | some (.scalar (.str s)) => pure s
      | none => pure "both"
      | some _ => pure "both"
    let lowOp : CmpOp := if inclusive == "both" || inclusive == "left" then .ge else .gt
    let highOp : CmpOp := if inclusive == "both" || inclusive == "right" then .le else .lt
    if !(["both", "neither", "left", "right"].contains inclusive) then
      throw (Fault.inner .valueError "Inclusive has to be either string of 'both','left', 'right', or 'neither'.")
    let a ← Datum.compare lowOp o.datum lo
    let b ← Datum.compare highOp o.datum hi
    Datum.bits .bitAnd a b
  | "clip" => do
    let lo := p 0 "lower"
    let hi := p 1 "upper"
    let bound (d : Option Datum) : Option Value := match d with
      | some (.scalar v) | some (.element v _) => if v.isMissing then none else some v
      | _ => none
    let (lo, hi) ← match bound lo, bound hi with
      | some l, some h => do
        if ← (Value.compareBy .gt l h).mapError Fault.surfaced then pure (some h, some l)
        else pure (some l, some h)
      | l, h => pure (l, h)
    let cells ← c.cells.mapM fun v => do
      if v.isMissing then pure v
      else
        let v ← match lo with
          | some l => do if ← (Value.compareBy .lt v l).mapError Fault.surfaced then pure l else pure v
          | none => pure v
        match hi with
        | some h => do if ← (Value.compareBy .gt v h).mapError Fault.surfaced then pure h else pure v
        | none => pure v
    let floats := (lo.toList ++ hi.toList).any fun v => v matches .float _
    if (c.dtype == .float64 || floats) && c.dtype.isNumeric then
      pure (o.wrap { c with dtype := .float64, cells := cells.map Value.asFloat })
    else pure (o.wrap { c with cells })
  | "isin" => do
    let values ← match p 0 "values" with
      | some (.scalar (.list vs _)) => pure (vs.map Datum.scalar)
      | some d@(.scalar _) | some d@(.element _ _) | some d@(.bytes _) => throw (Fault.inner .typeError
          s!"only list-like objects are allowed to be passed to isin(), you passed a `{d.kindName}`")
      | some d => d.items?
      | none => throw (Fault.raised .typeError "Series.isin() missing 1 required positional argument: 'values'")
    let vs := values.filterMap fun d => match d with
      | .scalar v | .element v _ => some v
      | _ => none
    pure (truths (c.cells.map fun v => vs.any fun w => Value.same v w && (v.isMissing == w.isMissing)))
  | "map" =>
    match p 0 "arg" with
    | some (.mapping es) =>
      let cells := c.cells.map fun v =>
        match es.find? (fun (k, _) => Datum.sameKey 16 k (.scalar v)) with
        | some (_, r) => r.toCell o.labels 8
        | none => Value.nan
      pure (o.wrap (inferred c.label cells))
    | some f => mapped call o f ((p 1 "na_action") matches some (.scalar (.str "ignore")))
    | none => throw (Fault.raised .typeError "Series.map() missing 1 required positional argument: 'arg'")
  | "apply" | "transform" | "agg" | "aggregate" =>
    match p 0 "func" with
    | some f => mapped call o f false
    | none => throw (Fault.raised .typeError s!"Series.{name}() missing 1 required positional argument: 'func'")
  | "replace" => do
    let regex ← flag (keyword "regex") false
    match p 0 "to_replace", p 1 "value" with
    | some (.scalar (.str pat)), some (.scalar b) =>
      if regex then
        let re ← patternOf pat 0
        if !c.cells.any (· matches .str _) then return o.datum
        let cells ← c.cells.mapM fun v => match v, b with
          | .str s, .str r => match re.replace r s none with
            | .ok r => pure (Value.str r)
            | .error e => throw (e.fault r)
          | .str s, b => pure (if (re.search? s).isSome then b else v)
          | v, _ => pure v
        pure (o.wrap (inferred c.label cells))
      else
        let cells := c.cells.map fun v => if Value.same v (.str pat) then b else v
        pure (o.wrap (inferred c.label cells))
    | some (.scalar a), some (.scalar b) =>
      let cells := c.cells.map fun v => if Value.same v a && v.isMissing == a.isMissing then b else v
      pure (o.wrap (inferred c.label cells))
    | some (.mapping es), _ =>
      let cells := c.cells.map fun v =>
        match es.find? (fun (k, _) => Datum.sameKey 16 k (.scalar v)) with
        | some (_, r) => r.toCell o.labels 8
        | none => v
      pure (o.wrap (inferred c.label cells))
    | _, _ => pure o.datum
  | "where" | "mask" => do
    let cond ← match p 0 "cond" with
      | some d => pure d
      | none => throw (Fault.raised .typeError
          s!"Series.{name}() missing 1 required positional argument: 'cond'")
    let cond ← match cond with
      | .closure .. | .function _ => call cond [o.datum]
      | d => pure d
    let holds ← truthsOf o cond
    let keep := if name == "where" then holds else holds.map (!·)
    pure (choose o keep ((p 1 "other").getD (.scalar Value.nan)))
  | "cumsum" => accumulate (Value.arith .add)
  | "cumprod" => accumulate (Value.arith .mul)
  | "cummax" => accumulate fun a b => do
      if ← (Value.compareBy .gt b a).mapError Fault.surfaced then pure b else pure a
  | "cummin" => accumulate fun a b => do
      if ← (Value.compareBy .lt b a).mapError Fault.surfaced then pure b else pure a
  | "shift" => do
    let k ← count (p 0 "periods") 1
    let fill := match (kwargs.find? (·.1 == "fill_value")).map (·.2) with
      | some (.scalar v) | some (.element v _) => some v
      | _ => none
    pure (o.wrap (shifted c k fill))
  | "diff" => do
    let k ← count (p 0 "periods") 1
    return o.wrap (← differenced c k)
  | "pct_change" => do
    let k ← count (p 0 "periods") 1
    let limit ← match p 2 "limit" with
      | some (.scalar .none) | none => pure none
      | some d => padLimit (some d)
    let filled ← match p 1 "fill_method" with
      | some (.scalar .none) => pure c
      | none => pure (c.padLimited true limit none)
      | some (.scalar (.str m)) =>
        match m.toLower with
        | "ffill" | "pad" => pure (c.padLimited true limit none)
        | "bfill" | "backfill" => pure (c.padLimited false limit none)
        | m => throw (Fault.inner .valueError
            s!"Invalid fill method. Expecting pad (ffill) or backfill (bfill). Got {m}")
      | some d => throw (Fault.inner .valueError
          s!"Invalid fill method. Expecting pad (ffill) or backfill (bfill). Got {(d.texts #[] 8).1}")
    let cells := (Array.range c.size).map fun (i : Nat) =>
      let j : Int := (i : Int) - k
      if 0 ≤ j && j < c.size then
        let a := filled.cell i
        let b := filled.cell j.toNat
        if a.isMissing || b.isMissing then Value.nan else .float (a.toDouble / b.toDouble - 1.0)
      else Value.nan
    pure (o.wrap { c with dtype := .float64, cells })
  | "rank" => do
    let method ← match p 1 "method" with
      | some (.scalar (.str m)) =>
        if ["average", "min", "max", "first", "dense"].contains m then pure m
        else throw (Fault.inner .valueError "invalid method")
      | _ => pure "average"
    let ascending ← match p 3 "ascending" with
      | some d => d.truth
      | none => pure true
    let naOption ← match p 4 "na_option" with
      | some (.scalar (.str m)) =>
        if ["keep", "top", "bottom"].contains m then pure m
        else throw (Fault.inner .valueError "na_option must be one of 'keep', 'top', or 'bottom'")
      | _ => pure "keep"
    let pct ← match p 5 "pct" with
      | some d => d.truth
      | none => pure false
    pure (o.wrap (ranked c method ascending naOption pct))
  | "sort_values" => do
    if !args.isEmpty then
      throw (Fault.inner .typeError
        s!"Series.sort_values() takes 1 positional argument but {args.length + 1} were given")
    let ascending ← match keyword "ascending" with
      | some (.seq _ [d]) => d.truth
      | some d => d.truth
      | none => pure true
    let missingFirst ← match keyword "na_position" with
      | some (.scalar (.str "first")) => pure true
      | some (.scalar (.str "last")) | none => pure false
      | some (.scalar v) => throw (Fault.inner .valueError s!"invalid na_position: {v.text}")
      | some d => throw (Fault.inner .valueError s!"invalid na_position: {d.kindName}")
    let order := orderByKey c ascending (Array.range c.size)
    let order := if missingFirst then
        order.filter (fun i => (c.cell i).isMissing) ++ order.filter (fun i => !(c.cell i).isMissing)
      else order
    if ← flag (keyword "ignore_index") false then
      return .series (c.pick order) (Table.rangeIndex order.size)
    pure (o.rows order)
  | "sort_index" => pure o.datum
  | "head" | "tail" => do
    let k ← count (p 0 "n") 5
    let n : Int := c.size
    let k := if k < 0 then max 0 (n + k) else min k n
    let rs := if name == "head" then Array.range k.toNat
      else (Array.range k.toNat).map (· + (n - k).toNat)
    pure (o.rows rs)
  | "nlargest" | "nsmallest" => do
    let k ← count (p 0 "n") 5
    let order := orderByKey c (name == "nsmallest") (Array.range c.size)
    let order := order.filter fun i => !(c.cell i).isMissing
    pure (o.rows (order.extract 0 k.toNat))
  | "value_counts" => do
    let normalize ← flag (p 0 "normalize") false
    let sort ← flag (p 1 "sort") true
    let ascending ← flag (p 2 "ascending") false
    let dropna ← flag (p 4 "dropna") true
    match p 3 "bins" with
    | none | some (.scalar .none) => pure ()
    | some bins =>
      if !c.dtype.isNumeric then
        throw (Fault.inner .typeError "bins argument only works with numeric data.")
      let xs := c.cells.map fun v => if v.isMissing then 0.0 / 0.0 else v.toDouble
      let edges ← match bins with
        | .column b | .series b _ | .array b _ => pure (b.cells.map Value.toDouble)
        | .seq _ items => pure (items.toArray.map fun d => match d with
          | .scalar v | .element v _ => v.toDouble
          | _ => 0.0 / 0.0)
        | d =>
          let n ← Strings.intArg d
          if n < 1 then throw (Fault.inner .valueError "`bins` should be a positive integer.")
          let present := xs.filter fun x => !x.isNaN
          let lo := present.foldl (fun m x => if x < m then x else m) (present.getD 0 (0.0 / 0.0))
          let hi := present.foldl (fun m x => if x > m then x else m) (present.getD 0 (0.0 / 0.0))
          pure (Binning.evenEdges lo hi n.toNat true)
      let shown := Binning.intervals (Binning.shownEdges (edges.map Value.float) 3 true true) true
      let bins := Binning.binsOf edges true true xs
      let tally := (Array.range shown.size).map fun k =>
        (bins.filter fun b => b == some k).size
      let tally := if dropna && tally.all (· == 0) then #[] else tally
      let shown := shown.extract 0 tally.size
      let sizes : Column := { label := .str "count", dtype := .int64, cells := tally.map fun (k : Nat) => Value.int (k : Int) }
      let order := if sort then orderByKey sizes ascending (Array.range tally.size)
        else Array.range tally.size
      let shareCells := tally.map fun k => Value.float (Float.ofNat k / Float.ofNat c.size)
      let shares : Column := { label := .str "proportion", dtype := .float64, cells := shareCells }
      return .series ((if normalize then shares else sizes).pick order) (order.map fun i => shown.getD i .none)
    let counts := valueCounts c.cells.toList dropna
    let total := counts.foldl (fun acc (_, k) => acc + k) 0
    let sizeCells := (counts.map fun (_, k) => Value.int k).toArray
    let sizes : Column := { label := .str "count", dtype := .int64, cells := sizeCells }
    let order := if sort then orderByKey sizes ascending (Array.range counts.length)
      else Array.range counts.length
    let labels := order.map fun i => (counts.getD i (.none, 0)).1
    let shareCells := sizeCells.map fun v => Value.float (v.toDouble / Num.intToFloat total)
    let shares : Column := { label := .str "proportion", dtype := .float64, cells := shareCells }
    pure (.series ((if normalize then shares else sizes).pick order) labels)
  | "mode" =>
    let counts := valueCounts c.cells.toList true
    let most := counts.foldl (fun m (_, k) => max m k) 0
    let values := (counts.filter (·.2 == most)).map (·.1)
    let values := values.mergeSort fun a b => a.sortOrder b != .gt
    pure (.series { c with cells := values.toArray } (Table.rangeIndex values.length))
  | "drop_duplicates" =>
    let firsts := (Array.range c.size).filter fun i =>
      !((List.range i).any fun j => Value.same (c.cell j) (c.cell i) &&
        (c.cell j).isMissing == (c.cell i).isMissing)
    pure (o.rows firsts)
  | "duplicated" =>
    pure (truths ((Array.range c.size).map fun i =>
      (List.range i).any fun j => Value.same (c.cell j) (c.cell i) &&
        (c.cell j).isMissing == (c.cell i).isMissing))
  | "unique" =>
    let u := { c with cells := (uniqueValues c.cells.toList).toArray }
    pure (if c.dtype.isPlainArray && !c.dtype.isTimeLike then .array u .values else .column u)
  | "tolist" | "to_list" => pure (.seq true (c.cells.toList.map .scalar))
  | "to_numpy" => do
    let c ← match p 0 "dtype" with
      | none | some (.scalar .none) => pure c
      | some d => castTo c (← kindNamed d)
    let c := match p 2 "na_value" with
      | some (.scalar v) =>
        { c with cells := c.cells.map fun x => if x.isMissing then (if c.dtype.isFloat then v.asFloat else v) else x }
      | _ => c
    pure (if c.dtype.isPlainArray then .array c .values else o.datum)
  | "copy" | "to_frame" | "reset_index" | "rename" | "explode" => pure o.datum
  | "item" =>
    if c.size == 1 then pure (reduced c (c.cell 0))
    else throw (Fault.inner .valueError "can only convert an array of size 1 to a Python scalar")
  | "quantile" => do
    let fraction (d : Datum) : Outcome Float := do
      let q ← match d with
        | .scalar v | .element v _ => pure v.toDouble
        | d => throw (Fault.inner .typeError s!"unsupported operand type(s) for *: '{d.kindName}' and 'float'")
      if q < 0.0 || q > 1.0 || q.isNaN then
        throw (Fault.inner .valueError "percentiles should all be in the interval [0, 1]")
      pure (q * 100.0 / 100.0)
    let how ← match p 1 "interpolation" with
      | some (.scalar (.str m)) =>
        if ["linear", "lower", "higher", "midpoint", "nearest"].contains m then pure m
        else throw (Fault.inner .valueError s!"'{m}' is not a valid method. Use one of: dict_keys(['inverted_cdf', 'averaged_inverted_cdf', 'closest_observation', 'interpolated_inverted_cdf', 'hazen', 'weibull', 'linear', 'median_unbiased', 'normal_unbiased', 'lower', 'higher', 'midpoint', 'nearest'])")
      | _ => pure "linear"
    numbersOnly c name
    let xs := (c.presentFloats.mergeSort fun a b => a ≤ b).toArray
    let whole := (how == "lower" || how == "higher" || how == "nearest") &&
      (c.dtype.isInteger || c.dtype == .bool)
    let cell (x : Float) : Value := if whole then .int (Num.truncate x) else .float x
    let kind : DType := if whole then .int64 else .float64
    match p 0 "q" with
    | some d@(.seq _ _) | some d@(.column _) | some d@(.series _ _) => do
      let qs ← (← d.items?).mapM fraction
      let cells := qs.toArray.map fun q => cell (pickQuantile xs q how)
      let shown ← (← d.items?).mapM fun x => match x with
        | .scalar v | .element v _ => pure (Value.float v.toDouble)
        | _ => pure Value.nan
      pure (.series { label := c.label, dtype := kind, cells } shown.toArray)
    | some d => pure (.element (cell (pickQuantile xs (← fraction d) how)) kind)
    | none => pure (.element (cell (pickQuantile xs 0.5 how)) kind)
  | _ => throw (noSuch name)

/-- The attributes of a column that are values: its values, kind, size and name. -/
def property (o : Owner) (name : String) : Outcome Datum := do
  let c := o.col
  match name with
  | "values" => pure (if c.dtype.isPlainArray then .array c .values else .column c)
  | "array" => pure (.column c)
  | "dtype" | "dtypes" => pure (.scalar (.other c.dtype.className c.dtype.name))
  | "size" => pure (.scalar (.int c.size))
  | "shape" => pure (.seq false [.scalar (.int c.size)])
  | "ndim" => pure (.scalar (.int 1))
  | "name" => pure (.scalar c.label)
  | "empty" => pure (.scalar (.bool (c.size == 0)))
  | "hasnans" => pure (.scalar (.bool (c.cells.any (·.isMissing))))
  | "is_unique" => pure (.scalar (.bool (distinctCount c.cells.toList == c.size)))
  | "T" => pure o.datum
  | "index" => pure (.array (Column.infer .none o.labels) (.labels none))
  | "str" =>
    if c.textual then pure (.accessor "str" c (if o.aligned then none else some o.labels))
    else throw (Fault.inner .attributeError "Can only use .str accessor with string values!")
  | "cat" =>
    if c.dtype == .category then pure (.accessor "cat" c (if o.aligned then none else some o.labels))
    else throw (Fault.inner .attributeError "Can only use .cat accessor with a 'category' dtype")
  | "dt" =>
    if c.dtype.isTimeLike || c.dtype matches .zoned _ || c.dtype matches .zone _ then
      pure (.accessor "dt" c (if o.aligned then none else some o.labels))
    else throw (Fault.inner .attributeError "Can only use .dt accessor with datetimelike values")
  | "list" | "struct" =>
    throw (Fault.inner .attributeError
      s!"Can only use the '.{name}' accessor with '{name}[pyarrow]' dtype, not {c.dtype.name}.")
  | "sparse" => throw (Fault.inner .attributeError "Can only use the '.sparse' accessor with Sparse data.")
  | "iloc" | "loc" | "at" | "iat" => pure (.bound o.datum name)
  | _ =>
    if methodNames.contains name then pure (.bound o.datum name)
    else match c.label with
      | _ => throw (noSuch name)

/-! ## The categories accessor -/

/-- The categories of a categorical column: its distinct present values, in order. -/
def categoriesOf (c : Column) : List Value :=
  (uniqueValues (c.cells.toList.filter (!·.isMissing))).mergeSort fun a b => a.sortOrder b != .gt

/-- Each value's place among the categories, `-1` when missing, in the least integer kind holding
the count of categories. -/
def categoryCodes (c : Column) : Column :=
  let cats := categoriesOf c
  let kind : DType := if cats.length < 128 then .int8 else if cats.length < 32768 then .int16 else .int32
  let codes := c.cells.map fun v =>
    if v.isMissing then Value.int (-1)
    else Value.int ((cats.findIdx? (Value.sameEntry v)).getD 0)
  { label := c.label, dtype := kind, cells := codes }

def categoryIndex (c : Column) : Datum :=
  .array (Column.infer .none (categoriesOf c).toArray) (.labels none)

def categoryMember (labels : Array Value) (aligned : Bool) (c : Column) (name : String) :
    Outcome Datum := do
  let o : Owner := { col := c, labels, aligned }
  match name with
  | "codes" => pure (o.wrap (categoryCodes c))
  | "categories" => pure (categoryIndex c)
  | "ordered" => pure (.scalar (.bool false))
  | _ => throw (Fault.raised .attributeError s!"'CategoricalAccessor' object has no attribute '{name}'")

/-! ## The text accessor -/

/-- A text method applied to each text of a column; missing values stay, other values become
missing. -/
def eachText (c : Column) (f : String → Outcome Value) : Outcome Column := do
  let cells ← c.cells.mapM fun v => match v with
    | .str s => f s
    | v => pure (if v.isMissing then v else Value.nan)
  if c.cells.all (·.isMissing) then pure { c with cells, dtype := .object }
  else
    let (dtype, cells) := inferCells cells
    pure { c with cells, dtype }

/-- Columns `0, 1, …` from rows of values, short rows padded with `none`, a missing row missing
throughout. -/
def frameOfRows (rows : Array (Option (List Value))) : List Column :=
  let width := rows.foldl (fun m r => max m ((r.map List.length).getD 0)) 0
  (List.range width).map fun (k : Nat) =>
    inferred (.int k) (rows.map fun r => match r with
      | some items => items.getD k .none
      | none => Value.nan)

def textCall (labels : Array Value) (aligned : Bool) (c : Column) (name : String) (args : List Datum)
    (kwargs : List (String × Datum)) : Outcome Datum := do
  let o : Owner := { col := c, labels, aligned }
  let p := param args kwargs
  let each (f : String → Outcome Value) : Outcome Datum := return o.wrap (← eachText c f)
  let asText (f : String → Value) : Outcome Datum := each fun s => pure (f s)
  let textArg (d : Option Datum) (default : String) : Outcome String :=
    match d with
    | some (.scalar (.str s)) => pure s
    | none => pure default
    | some d => throw (Fault.inner .typeError s!"expected a string object, not {d.kindName}")
  let flag (d : Option Datum) (default : Bool) : Outcome Bool :=
    match d with
    | some x => x.truth
    | none => pure default
  let bitsArg (d : Option Datum) : Outcome Nat :=
    match d with
    | none => pure 0
    | some d => return (← Strings.intArg d).toNat
  -- missing results take the value `na` when one is given
  let filled (col : Column) (na : Option Datum) : Datum :=
    match na with
    | some (.scalar v) | some (.element v _) =>
      o.wrap (inferred c.label (col.cells.map fun x => if x.isMissing then v else x))
    | _ => o.wrap col
  let method (m : String) (rest : List Datum) : Outcome Datum :=
    each fun s => do
      match ← Strings.call labels (fun d n => throw (Fault.raised .attributeError
          s!"'{d.kindName}' object has no attribute '{n}'")) s m rest [] with
      | .scalar v => pure v
      | d => pure (d.toCell labels 8)
  -- a result of one row of values per text, as a table of columns or as lists
  let rowsOf (cut : String → List Value) (expand : Bool) : Datum :=
    if expand then
      .frame (frameOfRows (c.cells.map fun v => match v with
        | .str s => some (cut s)
        | _ => none)) labels
    else o.wrap (c.mapText fun s => .list (cut s) 0)
  match name with
  | "upper" | "lower" | "title" | "capitalize" | "swapcase" | "casefold" | "isdigit" | "isalpha"
  | "isalnum" | "isspace" | "islower" | "isupper" | "istitle" | "isnumeric" | "isdecimal"
  | "zfill" | "center" | "ljust" | "rjust" | "find" | "rfind" | "removeprefix" | "removesuffix" =>
    method name args
  | "index" | "rindex" => do
    let sub ← textArg (p 0 "sub") ""
    let start := (p 1 "start").getD (.scalar (.int 0))
    method name [.scalar (.str sub), start, (p 2 "end").getD (.scalar .none)]
  | "len" => pure (o.wrap c.textLength)
  | "normalize" => do
    let form ← match p 0 "form" with
      | some (.scalar (.str f)) => pure f
      | some d => throw (Fault.inner .typeError s!"normalize() argument 1 must be str, not {d.kindName}")
      | none => throw (Fault.inner .typeError
          "StringMethods.normalize() missing 1 required positional argument: 'form'")
    if (Text.normalize form "").isNone then throw (Fault.inner .valueError "invalid normalization form")
    asText fun s => .str ((Text.normalize form s).getD s)
  | "strip" | "lstrip" | "rstrip" => method name (match p 0 "to_strip" with
    | some d => [d]
    | none => [])
  | "startswith" | "endswith" => do
    let pats ← match p 0 "pat" with
      | some (.scalar (.str s)) => pure [s]
      | some (.seq false items) => items.mapM fun d => match d with
        | .scalar (.str s) => pure s
        | d => throw (Fault.inner .typeError
            s!"tuple for {name} must only contain str, not {d.kindName}")
      | some d => throw (Fault.inner .typeError s!"expected a string or tuple, not {d.kindName}")
      | none => throw (Fault.inner .typeError
          s!"StringMethods.{name}() missing 1 required positional argument: 'pat'")
    let test (s : String) : Bool :=
      pats.any fun q => if name == "startswith" then s.startsWith q else s.endsWith q
    return filled (← eachText c fun s => pure (.bool (test s))) (p 1 "na")
  | "contains" | "match" | "fullmatch" => do
    let pat ← textArg (p 0 "pat") ""
    let caseSensitive ← flag (p 1 "case") true
    let bits := (← bitsArg (p 2 "flags")) ||| (if caseSensitive then 0 else 2)
    let regex ← if name == "contains" then flag (p 4 "regex") true else pure true
    let test ← if regex then do
        let re ← patternOf pat bits
        pure fun (s : String) => match name with
          | "contains" => (re.search? s).isSome
          | "match" => (re.matchStart? s).isSome
          | _ => (re.matchFrom s.toList.toArray 0 false true).isSome
      else
        pure fun (s : String) =>
          if caseSensitive then (Text.splitText s pat).length > 1 || pat.isEmpty
          else (Text.splitText (Text.upper s) (Text.upper pat)).length > 1 || pat.isEmpty
    return filled (← eachText c fun s => pure (.bool (test s))) (p 3 "na")
  | "count" => do
    let pat ← textArg (p 0 "pat") ""
    let re ← patternOf pat (← bitsArg (p 1 "flags"))
    each fun s => pure (.int (re.findAll s.toList.toArray none).length)
  | "findall" => do
    let pat ← textArg (p 0 "pat") ""
    let re ← patternOf pat (← bitsArg (p 1 "flags"))
    asText fun s =>
      let text := s.toList.toArray
      .list ((re.findAll text none).map fun h =>
        if re.groups == 0 then .str ((h.group? text 0).getD "")
        else if re.groups == 1 then .str ((h.group? text 1).getD "")
        else .list ((List.range re.groups).map fun g => .str ((h.group? text (g + 1)).getD "")) 0) 0
  | "replace" => do
    let pat ← textArg (p 0 "pat") ""
    let repl ← textArg (p 1 "repl") ""
    let n ← match p 2 "n" with
      | some d => Strings.intArg d
      | none => pure (-1)
    let caseSensitive ← flag (p 3 "case") true
    let bits := (← bitsArg (p 4 "flags")) ||| (if caseSensitive then 0 else 2)
    let regex ← flag (p 5 "regex") false
    if regex || bits != 0 then
      let re ← patternOf (if regex then pat else escapePattern pat) bits
      let limit := if n > 0 then some n.toNat else none
      each fun s => match re.replace repl s limit with
        | .ok r => pure (.str r)
        | .error e => throw (e.fault repl)
    else
      asText fun s => .str (Strings.replaceText s pat repl (if n < 0 then none else some n.toNat))
  | "split" | "rsplit" => do
    if args.length > 1 then
      throw (Fault.inner .typeError
        s!"StringMethods.{name}() takes from 1 to 2 positional arguments but {args.length + 1} were given")
    let sep ← Strings.optionalText (p 0 "pat")
    let n ← match p 1 "n" with
      | some (.scalar .none) | none => pure (-1)
      | some d => Strings.intArg d
    let expand ← flag (p 2 "expand") false
    let regex : Option Bool ← match p 3 "regex" with
      | none | some (.scalar .none) => pure none
      | some d => pure (some (← d.truth))
    let asPattern := name == "split" && sep.isSome &&
      (regex == some true || (regex.isNone && (sep.map String.length).getD 0 > 1))
    if asPattern then
      let re ← patternOf (sep.getD "") 0
      let limit := if n > 0 then some n.toNat else none
      pure (rowsOf (fun s => (re.split s limit).map fun piece => (piece.map Value.str).getD .none) expand)
    else
      if sep == some "" then throw (Fault.raised .valueError "empty separator")
      let limit := if n > 0 then some n.toNat else none
      let cut (s : String) : List Value :=
        (if name == "split" then Strings.splitLeft s sep limit else Strings.splitRight s sep limit).map .str
      pure (rowsOf cut expand)
  | "wrap" => do
    if args.length > 1 then
      throw (Fault.inner .typeError
        s!"StringMethods.wrap() takes 2 positional arguments but {args.length + 1} were given")
    let width ← match p 0 "width" with
      | some d => Strings.intArg d
      | none => throw (Fault.inner .typeError
          "StringMethods.wrap() missing 1 required positional argument: 'width'")
    let known := ["width", "expand_tabs", "tabsize", "replace_whitespace", "drop_whitespace",
      "break_long_words", "break_on_hyphens", "initial_indent", "subsequent_indent",
      "fix_sentence_endings", "max_lines", "placeholder"]
    if let some (k, _) := kwargs.find? (fun kv => !known.contains kv.1) then
      throw (Fault.inner .typeError s!"TextWrapper.__init__() got an unexpected keyword argument '{k}'")
    let tabSize ← match kwargs.lookup "tabsize" with
      | some d => Strings.intArg d
      | none => pure 8
    let filling : Text.Filling :=
      { width, tabSize
        expandTabs := ← flag (kwargs.lookup "expand_tabs") true
        replaceBlanks := ← flag (kwargs.lookup "replace_whitespace") true
        dropBlanks := ← flag (kwargs.lookup "drop_whitespace") true
        breakLongWords := ← flag (kwargs.lookup "break_long_words") true
        breakOnHyphens := ← flag (kwargs.lookup "break_on_hyphens") true }
    each fun s => match filling.wrap s with
      | .ok lines => pure (.str ("\n".intercalate lines))
      | .error m => throw (Fault.inner .valueError m)
  | "partition" | "rpartition" => do
    let sep ← textArg (p 0 "sep") " "
    let expand ← flag (p 1 "expand") true
    if sep.isEmpty then throw (Fault.raised .valueError "empty separator")
    let cut (s : String) : List Value :=
      let parts := Text.splitText s sep
      let three (a b d : String) : List Value := [.str a, .str b, .str d]
      if parts.length < 2 then (if name == "partition" then three s "" "" else three "" "" s)
      else if name == "partition" then three parts.head! sep (sep.intercalate parts.tail)
      else three (sep.intercalate parts.dropLast) sep parts.getLast!
    pure (rowsOf cut expand)
  | "get" => do
    let i ← Strings.intArg ((p 0 "i").getD (.scalar (.int 0)))
    let cells := c.cells.map fun v => match v with
      | .str s => match itemAt s.toList i with
        | some ch => Value.str ch.toString
        | none => Value.nan
      | .list xs _ => (itemAt xs i).getD Value.nan
      | v => if v.isMissing then v else Value.nan
    pure (o.wrap (inferred c.label cells))
  | "slice" => do
    let lo ← Strings.optionalInt (p 0 "start")
    let hi ← Strings.optionalInt (p 1 "stop")
    let step ← Strings.optionalInt (p 2 "step")
    let step := step.getD 1
    if step == 0 then throw (Fault.raised .valueError "slice step cannot be zero")
    asText fun s =>
      let cs := s.toList
      .str (String.ofList ((slicePositions cs.length lo hi step).map fun i => cs.getD i ' '))
  | "repeat" => do
    let k ← Strings.intArg ((p 0 "repeats").getD (.scalar (.int 1)))
    asText fun s => .str (String.join (List.replicate k.toNat s))
  | "pad" => do
    let width ← Strings.intArg ((p 0 "width").getD (.scalar (.int 0)))
    let side ← textArg (p 1 "side") "left"
    let fill ← Strings.fillChar (p 2 "fillchar")
    if !(["left", "right", "both"].contains side) then throw (Fault.inner .valueError "Invalid side")
    asText fun s =>
      let pad := String.ofList (List.replicate (width.toNat - s.length) fill)
      .str (match side with
        | "right" => s ++ pad
        | "both" => Strings.centered s width fill
        | _ => pad ++ s)
  | "extract" => do
    let pat ← textArg (p 0 "pat") ""
    let bits ← bitsArg (p 1 "flags")
    let expand ← match p 2 "expand" with
      | some (.scalar (.bool b)) => pure b
      | none => pure true
      | some _ => throw (Fault.inner .valueError "expand must be True or False")
    let re ← patternOf pat bits
    if re.groups == 0 then throw (Fault.inner .valueError "pattern contains no capture groups")
    let groupsOf (v : Value) : List Value :=
      match v with
      | .str s =>
        let text := s.toList.toArray
        match re.search? s with
        | some h => (List.range re.groups).map fun g => match h.group? text (g + 1) with
          | some t => .str t
          | none => Value.nan
        | none => List.replicate re.groups Value.nan
      | _ => List.replicate re.groups Value.nan
    let nameOf (g : Nat) : Value :=
      match re.names.find? (·.2 == g + 1) with
      | some (n, _) => .str n
      | none => .int g
    let found := c.cells.map groupsOf
    let columnOf (g : Nat) (label : Value) : Column :=
      { label, dtype := .object, cells := found.map fun gs => gs.getD g Value.nan }
    if expand || re.groups > 1 then
      pure (.frame ((List.range re.groups).map fun g => columnOf g (nameOf g)) labels)
    else
      let label := match re.names.find? (·.2 == 1) with
        | some (n, _) => Value.str n
        | none => Value.none
      pure (o.wrap (columnOf 0 label))
  | "translate" => do
    let table ← match p 0 "table" with
      | some (.mapping es) => pure es
      | some d => throw (Fault.inner .typeError s!"'{d.kindName}' object is not subscriptable")
      | none => throw (Fault.raised .typeError
          "StringMethods.translate() missing 1 required positional argument: 'table'")
    let mapped (ch : Char) : Outcome String :=
      match table.find? fun (k, _) => k matches .scalar (.int _) &&
          (match k with
            | .scalar (.int n) => n == (ch.toNat : Int)
            | _ => false) with
      | none => pure ch.toString
      | some (_, .scalar (.str t)) => pure t
      | some (_, .scalar .none) => pure ""
      | some (_, .scalar (.int n)) =>
        if n < 0 || n > 0x10FFFF then
          throw (Fault.inner .valueError "character mapping must be in range(0x110000)")
        else pure (Char.ofNat n.toNat).toString
      | some _ => throw (Fault.inner .typeError "character mapping must return integer, None or str")
    each fun s => do
      let pieces ← s.toList.mapM mapped
      pure (.str (String.join pieces))
  | "encode" => do
    let enc ← match p 0 "encoding" with
      | some d => pure d
      | none => throw (Fault.raised .typeError
          "StringMethods.encode() missing 1 required positional argument: 'encoding'")
    method "encode" (enc :: ((p 1 "errors").map fun d => [d]).getD [])
  | "slice_replace" => do
    let lo ← Strings.optionalInt (p 0 "start")
    let hi ← Strings.optionalInt (p 1 "stop")
    let repl ← match p 2 "repl" with
      | none | some (.scalar .none) => pure ""
      | some d => textArg (some d) ""
    let part (cs : List Char) (a b : Option Int) : String :=
      String.ofList ((slicePositions cs.length a b 1).map fun i => cs.getD i ' ')
    asText fun s =>
      let cs := s.toList
      let stop := if (part cs lo hi).isEmpty then lo else hi
      let front := if lo.isSome then part cs none lo else ""
      let back := if hi.isSome then part cs stop none else ""
      .str (front ++ repl ++ back)
  | "get_dummies" => do
    let sep ← textArg (p 0 "sep") "|"
    let wrapped := c.cells.map fun v => match v with
      | .str s => sep ++ s ++ sep
      | v => if v.isMissing then sep ++ sep else sep ++ v.text ++ sep
    let tags := wrapped.foldl (fun acc w => acc ++ (Text.splitText w sep).filter (!·.isEmpty)) []
    let tags := (tags.mergeSort fun a b => compare a b != .gt).eraseDups
    let hasTag (w t : String) : Bool := (Text.splitText w (sep ++ t ++ sep)).length > 1
    let cols := tags.map fun t =>
      let cells := wrapped.map fun w => Value.int (if hasTag w t then 1 else 0)
      ({ label := .str t, dtype := .int64, cells } : Column)
    pure (.frame cols labels)
  | "join" => do
    let sep ← textArg (p 0 "sep") ""
    let cells := c.cells.map fun v => match v with
      | .str s => Value.str (sep.intercalate (s.toList.map Char.toString))
      | .list xs _ =>
        let texts := xs.filterMap fun x => match x with
          | .str t => some t
          | _ => none
        if texts.length == xs.length then .str (sep.intercalate texts) else Value.nan
      | v => if v.isMissing then v else Value.nan
    pure (o.wrap (inferred c.label cells))
  | "cat" => do
    let sep ← match p 1 "sep" with
      | none | some (.scalar .none) => pure ""
      | some d => textArg (some d) ""
    let naRep ← match p 2 "na_rep" with
      | none | some (.scalar .none) => pure none
      | some d => pure (some (← textArg (some d) ""))
    let texts := c.cells.toList.filterMap fun v => match v with
      | .str s => some s
      | v => if v.isMissing then naRep else some v.text
    pure (.scalar (.str (sep.intercalate texts)))
  | _ => throw (Fault.raised .attributeError s!"'StringMethods' object has no attribute '{name}'")

/-! ## The time accessor -/

/-- A property of each instant, as truths (false where an instant is missing). -/
def instantTest (c : Column) (f : Int → Bool) : Column :=
  { c with dtype := .bool, cells := c.cells.map fun v => match v.wallNanos? with
    | some ns => Value.bool (f ns)
    | none => Value.bool false }

def dateOf (ns : Int) : Time.Date :=
  (Time.Stamp.ofNanos ns).date

/-- An instant rounded to a multiple of `unit` nanoseconds: `floor`, `ceil`, or `round` ties to
even. -/
def roundToUnit (how : String) (unit ns : Int) : Int :=
  let q := Int.fdiv ns unit
  let r := Int.fmod ns unit
  match how with
  | "floor" => q * unit
  | "ceil" => if r == 0 then ns else (q + 1) * unit
  | _ => if 2 * r > unit || (2 * r == unit && q % 2 != 0) then (q + 1) * unit else q * unit

/-- The ISO year, week and weekday (1 for Monday) of a day from 1970-01-01: its Thursday's week and
year. -/
def isoWeekDate (days : Int) : Int × Int × Int :=
  let wd : Int := Time.weekday days
  let thursday := Time.Date.ofDays (days - wd + 3)
  (thursday.year, ((thursday.dayOfYear : Int) - 1) / 7 + 1, wd + 1)

/-- The frequency naming a period type (`Y-DEC`, `Q-JAN`, `W-SUN`, ...); none for one periods
refuse. -/
def periodFreq? (freq : String) : Option String :=
  let anchored (lead : String) (codes : List String) : Option String :=
    if freq.startsWith lead && codes.contains (freq.drop lead.length).toString then some freq
    else none
  match freq with
  | "M" => some "M"
  | "D" => some "D"
  | "Y" | "A" | "Y-DEC" | "A-DEC" => some "Y-DEC"
  | "Q" | "Q-DEC" => some "Q-DEC"
  | "W" | "W-SUN" => some "W-SUN"
  | "h" | "H" => some "h"
  | "min" | "T" => some "min"
  | "s" | "S" => some "s"
  | "ms" | "L" => some "ms"
  | "us" | "U" => some "us"
  | "ns" | "N" => some "ns"
  | _ =>
    (anchored "Q-" Time.monthCodes).orElse fun _ =>
    (anchored "Y-" Time.monthCodes).orElse fun _ =>
    ((anchored "A-" Time.monthCodes).map fun f => "Y-" ++ (f.drop 2).toString).orElse fun _ =>
    anchored "W-" Time.weekdayCodes

/-- The text of the `freq` period holding `ns`: years and quarters by their last month's year, weeks
by first and last days. -/
def periodText (freq : String) (ns : Int) : String :=
  let s := Time.Stamp.ofNanos ns
  let d := s.date
  let two (n : Nat) := Time.padNat 2 n
  let day := s!"{Time.yearText d.year}-{two d.month}-{two d.day}"
  let clock := s!"{day} {two s.hour}:{two s.minute}:{two s.second}"
  let code := (freq.drop 2).toString
  let lastMonth := Time.monthCodes.idxOf code + 1
  let fiscal : Int := if d.month ≤ lastMonth then d.year else d.year + 1
  if freq == "M" then s!"{Time.yearText d.year}-{two d.month}"
  else if freq == "D" then day
  else if freq == "h" then s!"{day} {two s.hour}:00"
  else if freq == "min" then s!"{day} {two s.hour}:{two s.minute}"
  else if freq == "s" then clock
  else if freq == "ms" then clock ++ "." ++ Time.padNat 3 (s.nano / 1000000)
  else if freq == "us" then clock ++ "." ++ Time.padNat 6 (s.nano / 1000)
  else if freq == "ns" then clock ++ "." ++ Time.padNat 9 s.nano
  else if freq.startsWith "Q-" then
    s!"{Time.yearText fiscal}Q{(d.month + 11 - lastMonth) % 12 / 3 + 1}"
  else if freq.startsWith "Y-" then Time.yearText fiscal
  else
    let days := Int.fdiv ns Time.nsPerDay
    let last := days + (((Time.weekdayCodes.idxOf code + 7 - Time.weekday days) % 7 : Nat) : Int)
    s!"{(Time.Date.ofDays (last - 6)).isoText}/{(Time.Date.ofDays last).isoText}"

def frequencyArg (args : Option (List Datum)) : Outcome Int :=
  match args with
  | some (.scalar (.str f) :: _) =>
    match Time.frequencyNanos f with
    | .ok n => pure n
    | .error m => throw (Fault.inner .valueError m)
  | some (d :: _) => throw (Fault.inner .typeError s!"freq must be a str, not {d.kindName}")
  | _ => throw (Fault.raised .typeError "round() missing 1 required positional argument: 'freq'")

def unitDigits? (u : String) : Option Nat :=
  match u with
  | "s" => some 0
  | "ms" => some 3
  | "us" => some 6
  | "ns" => some 9
  | _ => none

/-- `as_unit` of instants or of spans: the values kept at the precision of the unit given. -/
def asUnit (o : Owner) (c : Column) (args : Option (List Datum)) (storedAt : Nat → DType) :
    Outcome Datum :=
  match args with
  | some [.scalar (.str u)] =>
    match unitDigits? u with
    | some d => do pure (o.wrap (← castToType c (storedAt d)))
    | none => throw (Fault.inner .valueError "Supported units are 's', 'ms', 'us', 'ns'")
  | _ => throw (Fault.inner .typeError "as_unit() missing 1 required positional argument: 'unit'")

def timeMember (labels : Array Value) (aligned : Bool) (c : Column) (name : String)
    (args : Option (List Datum)) : Outcome Datum := do
  let o : Owner := { col := c, labels, aligned }
  let field (f : Int → Int) : Outcome Datum := pure (o.wrap (c.instantField f))
  let test (f : Int → Bool) : Outcome Datum := pure (o.wrap (instantTest c f))
  let texts (f : Int → String) : Outcome Datum :=
    pure (o.wrap { c with dtype := .object, cells := c.cells.map fun v => match v.wallNanos? with
      | some ns => Value.str (f ns)
      | none => Value.nan })
  let stamp (ns : Int) := Time.Stamp.ofNanos ns
  let isMethod := args.isSome
  if c.dtype == .duration || c.dtype matches .spansIn _ then
    let spans (f : Int → Value) (dtype : DType) : Outcome Datum :=
      let cells := c.cells.map fun v => match v with
        | .span ns => f ns
        | _ => Value.nan
      if cells.any (·.isMissing) && dtype != .float64 then
        pure (o.wrap { c with dtype := .float64, cells := cells.map Value.asFloat })
      else pure (o.wrap { c with dtype, cells })
    match name, isMethod with
    | "days", false => spans (fun ns => .int (Int.fdiv ns Time.nsPerDay)) .int64
    | "seconds", false => spans (fun ns => .int (Int.fmod ns Time.nsPerDay / Time.nsPerSecond)) .int32
    | "microseconds", false => spans (fun ns => .int (Int.fmod ns Time.nsPerSecond / 1000)) .int32
    | "nanoseconds", false => spans (fun ns => .int (Int.fmod ns 1000)) .int32
    | "total_seconds", true => spans (fun ns => .float (Num.intToFloat ns / 1000000000.0)) .float64
    | "to_pytimedelta", true => pure (.array { c with label := .none, dtype := .object } .values)
    | "as_unit", true => asUnit o c args DType.spansAt
    | "freq", false =>
      let spans := c.cells.toList.map fun v => match v with
        | .span ns => some ns
        | _ => none
      pure (.scalar (if spans.length < 3 || spans.any Option.isNone then .none
        else match Time.Cadence.infer (spans.filterMap id) false with
          | some f => .str f
          | none => .none))
    | "unit", false =>
      pure (.scalar (.str (match c.dtype with
        | .spansIn digits => DType.unitName digits
        | _ => "ns")))
    | "floor", true | "ceil", true | "round", true => do
      let unit ← frequencyArg args
      pure (o.wrap { c with cells := c.cells.map fun v => match v with
        | .span ns => Value.span (if unit == 0 then ns else roundToUnit name unit ns)
        | v => v })
    | "components", false =>
      let missing := c.cells.any (·.isMissing)
      let part (label : String) (f : Int → Int) : Column :=
        let cells := c.cells.map fun v => match v with
          | .span ns => if missing then Value.float (Num.intToFloat (f ns)) else .int (f ns)
          | _ => Value.nan
        { label := .str label, dtype := if missing then .float64 else .int64, cells }
      let rest (ns : Int) : Int := Int.fmod ns Time.nsPerDay
      pure (.frame [part "days" (fun ns => Int.fdiv ns Time.nsPerDay),
        part "hours" (fun ns => rest ns / Time.nsPerHour),
        part "minutes" (fun ns => rest ns % Time.nsPerHour / Time.nsPerMinute),
        part "seconds" (fun ns => rest ns % Time.nsPerMinute / Time.nsPerSecond),
        part "milliseconds" (fun ns => rest ns % Time.nsPerSecond / 1000000),
        part "microseconds" (fun ns => rest ns % 1000000 / 1000),
        part "nanoseconds" (fun ns => rest ns % 1000)] labels)
    | _, _ => throw (Fault.raised .attributeError s!"'TimedeltaProperties' object has no attribute '{name}'")
  else
  match name, isMethod with
  | "year", false => field fun ns => (dateOf ns).year
  | "month", false => field fun ns => (dateOf ns).month
  | "day", false => field fun ns => (dateOf ns).day
  | "hour", false => field fun ns => (stamp ns).hour
  | "minute", false => field fun ns => (stamp ns).minute
  | "second", false => field fun ns => (stamp ns).second
  | "microsecond", false => field fun ns => (stamp ns).nano / 1000
  | "nanosecond", false => field fun ns => (stamp ns).nano % 1000
  | "dayofweek", false | "day_of_week", false | "weekday", false =>
    field fun ns => Time.weekday (Int.fdiv ns Time.nsPerDay)
  | "dayofyear", false | "day_of_year", false => field fun ns => (dateOf ns).dayOfYear
  | "quarter", false => field fun ns => ((dateOf ns).month - 1) / 3 + 1
  | "days_in_month", false | "daysinmonth", false =>
    field fun ns => Time.monthDays (dateOf ns).year (dateOf ns).month
  | "is_leap_year", false => test fun ns => Time.isLeap (dateOf ns).year
  | "is_month_start", false => test fun ns => (dateOf ns).day == 1
  | "is_month_end", false => test fun ns =>
    (dateOf ns).day == Time.monthDays (dateOf ns).year (dateOf ns).month
  | "is_quarter_start", false => test fun ns => (dateOf ns).day == 1 && (dateOf ns).month % 3 == 1
  | "is_quarter_end", false => test fun ns =>
    (dateOf ns).day == Time.monthDays (dateOf ns).year (dateOf ns).month && (dateOf ns).month % 3 == 0
  | "is_year_start", false => test fun ns => (dateOf ns).day == 1 && (dateOf ns).month == 1
  | "is_year_end", false => test fun ns => (dateOf ns).day == 31 && (dateOf ns).month == 12
  | "day_name", true => texts fun ns => Time.dayNames.getD (Time.weekday (Int.fdiv ns Time.nsPerDay)) ""
  | "month_name", true => texts fun ns => Time.monthNames.getD ((dateOf ns).month - 1) ""
  | "strftime", true =>
    match args with
    | some [.scalar (.str fmt)] => pure (o.wrap (c.formatInstants fmt))
    | _ => throw (Fault.inner .typeError "strftime() argument must be str")
  | "unit", false =>
    pure (.scalar (.str (match c.dtype with
      | .instantsIn digits => DType.unitName digits
      | _ => "ns")))
  | "floor", true | "ceil", true | "round", true => do
    let unit ← frequencyArg args
    pure (o.wrap { c with cells := c.cells.map fun v => match v with
      | .time ns => Value.time (if unit == 0 then ns else roundToUnit name unit ns)
      | .zoned ns off =>
        let wall := ns + off * Time.nsPerSecond
        let r := if unit == 0 then wall else roundToUnit name unit wall
        Value.zoned (r - off * Time.nsPerSecond) off
      | v => v })
  | "isocalendar", true =>
    let part (label : String) (f : Int × Int × Int → Int) : Column :=
      { label := .str label, dtype := .nullable .uint32, cells := c.cells.map fun v =>
        match v.wallNanos? with
        | some ns => Value.int (f (isoWeekDate (Int.fdiv ns Time.nsPerDay)))
        | none => Value.na }
    pure (.frame [part "year" (·.1), part "week" (·.2.1), part "day" (·.2.2)] labels)
  | "to_period", true => do
    let freq ← match args with
      | some (.scalar (.str f) :: _) => pure f
      | _ => throw (Fault.inner .valueError "You must pass a freq argument as current index has none.")
    let some freq := periodFreq? freq
      | throw (Fault.inner .valueError s!"Invalid frequency: {freq}")
    pure (o.wrap { c with dtype := .period freq, cells := c.cells.map fun v => match v.wallNanos? with
      | some ns => Value.other "Period" (periodText freq ns)
      | none => Value.nat })
  | "date", false => pure (o.wrap { c with dtype := .object, cells := c.cells.map fun v =>
      match v.wallNanos? with
      | some ns => Value.other "date" (dateOf ns).isoText
      | none => Value.nat })
  | "time", false | "timetz", false => pure (o.wrap { c with dtype := .object, cells := c.cells.map fun v =>
      match v.wallNanos? with
      | some ns =>
        let t := stamp ns
        let frac := if t.nano / 1000 == 0 then "" else "." ++ Time.padNat 6 (t.nano / 1000)
        Value.other "time"
          s!"{Time.padNat 2 t.hour}:{Time.padNat 2 t.minute}:{Time.padNat 2 t.second}{frac}"
      | none => Value.nat })
  | "freq", false =>
    let walls := c.cells.toList.map Value.wallNanos?
    pure (.scalar (if walls.length < 3 || walls.any Option.isNone then .none
      else match Time.Cadence.infer (walls.filterMap id) true with
        | some f => .str f
        | none => .none))
  | "tz", false =>
    match c.dtype with
    | .zone name => pure (.scalar (.other name name))
    | .zoned off => pure (.scalar (.other "timezone" (Time.zoneName off)))
    | _ => pure (.scalar .none)
  | "to_pydatetime", true => pure (.array { c with label := .none, dtype := .object } .values)
  | "as_unit", true => asUnit o c args DType.instantsAt
  | "tz_localize", true =>
    match args with
    | some (.scalar .none :: _) =>
      pure (o.wrap { c with dtype := .datetime, cells := c.cells.map fun v => match v.wallNanos? with
        | some ns => Value.time ns
        | none => Value.nat })
    | some (.scalar (.str zone) :: _) =>
      if c.dtype != .datetime && !(c.dtype matches .instantsIn _) then
        throw (Fault.inner .typeError "Already tz-aware, use tz_convert to convert.")
      else if zone == "UTC" || zone == "utc" then
        pure (o.wrap { c with dtype := .zoned 0, cells := c.cells.map fun v => match v with
          | .time ns => Value.zoned ns 0
          | v => v })
      else
        match Time.zoneRule? zone with
        | some (name, _, _) =>
          pure (o.wrap { c with dtype := .zone name, cells := c.cells.map fun v => match v with
            | .time wall =>
              let ns := (Time.localToUtc? name wall).getD wall
              Value.zoned ns ((Time.zoneOffset? name ns).getD 0)
            | v => v })
        | none => throw (Fault.inner .unknownTimeZone s!"'{zone}'")
    | _ => throw (Fault.inner .typeError "tz_localize() missing 1 required positional argument: 'tz'")
  | "tz_convert", true =>
    let utc (v : Value) : Option Int := match v with
      | .zoned ns _ => some ns
      | _ => none
    match args with
    | some (arg :: _) =>
      if c.dtype == .datetime || c.dtype matches .instantsIn _ then
        throw (Fault.inner .typeError "Cannot convert tz-naive timestamps, use tz_localize to localize")
      else
        match arg with
        | .scalar .none =>
          pure (o.wrap { c with dtype := .datetime, cells := c.cells.map fun v => match utc v with
            | some ns => Value.time ns
            | none => Value.nat })
        | .scalar (.str zone) =>
          if zone == "UTC" || zone == "utc" then
            pure (o.wrap { c with dtype := .zoned 0, cells := c.cells.map fun v => match utc v with
              | some ns => Value.zoned ns 0
              | none => Value.nat })
          else
            match Time.zoneRule? zone with
            | some (name, _, _) =>
              pure (o.wrap { c with dtype := .zone name, cells := c.cells.map fun v => match utc v with
                | some ns => Value.zoned ns ((Time.zoneOffset? name ns).getD 0)
                | none => Value.nat })
            | none => throw (Fault.inner .unknownTimeZone s!"'{zone}'")
        | _ => throw (Fault.inner .typeError "tz must be a string or tzinfo")
    | _ => throw (Fault.inner .typeError "tz_convert() missing 1 required positional argument: 'tz'")
  | "normalize", true =>
    pure (o.wrap { c with cells := c.cells.map fun v => match v with
      | .time ns => Value.time (ns - Int.fmod ns Time.nsPerDay)
      | v => v })
  | _, _ => throw (Fault.raised .attributeError s!"'DatetimeProperties' object has no attribute '{name}'")

end Members

end PipeQuery.Calc
