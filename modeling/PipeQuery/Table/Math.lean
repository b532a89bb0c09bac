import PipeQuery.Table.Basic
import PipeQuery.Value.Basic
import PipeQuery.Value.Order

/-!
# Elementwise functions

`abs`, `floor`, `ceil`, `sqrt`, `log`, `log10`, `exp` and rounding, on columns and values:
integers keep their kind under the first three, mixed columns take only `abs`, instants none.
Rounding scales by the power of ten and rounds ties to even.
-/

namespace PipeQuery

inductive UFunc
  | abs | floor | ceil | sqrt | log | log10 | exp
  deriving DecidableEq, Repr, Inhabited

namespace UFunc

def name : UFunc → String
  | .abs => "absolute"
  | .floor => "floor"
  | .ceil => "ceil"
  | .sqrt => "sqrt"
  | .log => "log"
  | .log10 => "log10"
  | .exp => "exp"

def givesFloat : UFunc → Bool
  | .abs | .floor | .ceil => false
  | _ => true

def onFloat : UFunc → Float → Float
  | .abs, x => x.abs
  | .floor, x => x.floor
  | .ceil, x => x.ceil
  | .sqrt, x => x.sqrt
  | .log, x => x.log
  | .log10, x => x.log10
  | .exp, x => x.exp

/-- The function on integers: integers for `abs`, `floor` and `ceil`, doubles for the rest. -/
def onInt : UFunc → Int → Value
  | .abs, n => .int n.natAbs
  | .floor, n => .int n
  | .ceil, n => .int n
  | f, n => .float (f.onFloat (Num.intToFloat n))

def noLoop (f : UFunc) (kind : String) : Fault :=
  Fault.inner .ufuncTypeError
    s!"ufunc '{f.name}' did not contain a loop with signature matching types <class 'numpy.dtypes.{kind}'> -> None"

def onLoose (f : UFunc) (v : Value) : Outcome Value :=
  match f, v with
  | .abs, .bool b => pure (.int (if b then 1 else 0))
  | .abs, .int n => pure (.int n.natAbs)
  | .abs, .float x => pure (.float x.abs)
  | .abs, v => throw (Fault.inner .typeError s!"bad operand type for abs(): '{v.typeName}'")
  | f, v => throw (Fault.inner .typeError
      s!"loop of ufunc does not support argument 0 of type {v.typeName} which has no callable {f.name} method")

def onValue (f : UFunc) (v : Value) : Outcome Value :=
  match v with
  | .int n => pure (f.onInt n)
  | .float x => pure (.float (f.onFloat x))
  | .bool b => if f.givesFloat then pure (.float (f.onFloat (if b then 1.0 else 0.0))) else pure (.bool b)
  | .str _ => throw (f.noLoop "StrDType")
  | v => f.onLoose v

end UFunc

def Float.powerOfTen (n : Nat) : Float :=
  if n < 9 then Float.ofNat (Nat.pow 10 n)
  else (List.range (n - 9)).foldl (fun acc _ => acc * 10.0) 1e9

/-- Rounds to `d` decimals, a half to the even one. -/
def Float.roundTo (x : Float) (d : Int) : Float :=
  let p := Float.powerOfTen d.natAbs
  if d ≥ 0 then Float.roundEven (x * p) / p else Float.roundEven (x / p) * p

def roundInt (n : Int) (d : Int) : Int :=
  if d ≥ 0 then n else Num.truncate (Float.roundTo (Num.intToFloat n) d)

namespace Column

def ufunc (f : UFunc) (c : Column) : Outcome Column :=
  -- numbers stored the other way round come out in the usual order
  let c := match c.dtype with
    | .swapped inner => { c with dtype := inner }
    | _ => c
  match c.dtype with
  | .int64 | .int32 | .int16 | .int8 | .uint64 | .uint32 | .uint16 | .uint8 =>
    let cells := c.cells.map fun v => match v with
      | .int n => f.onInt n
      | v => v
    pure { c with cells, dtype := if f.givesFloat then .float64 else c.dtype }
  | .float64 | .float32 | .float16 =>
    pure { c with cells := c.cells.map fun v => match v with
      | .float x => .float (c.dtype.roundFloat (f.onFloat x))
      | v => v }
  | .bool =>
    if f.givesFloat then
      pure { c with dtype := .float64, cells := c.cells.map fun v => .float (f.onFloat (if v.truthy then 1.0 else 0.0)) }
    else pure c
  | .object | .category | .nullable _ | .text | .period _ => return { c with cells := ← c.cells.mapM f.onLoose }
  | .datetime | .zoned _ | .zone _ | .instantsIn _ => throw (f.noLoop "DateTime64DType")
  | .duration | .spansIn _ => throw (f.noLoop "TimeDelta64DType")
  | .bytes _ => throw (f.noLoop "BytesDType")
  | .swapped _ => pure c
  | .complex128 | .complex64 =>
    if f == .abs then
      pure { c with dtype := .float64, cells := c.cells.map fun v => match v with
        | .complex re im => .float (Float.sqrt (re * re + im * im))
        | v => v }
    else throw (f.noLoop "Complex128DType")

def roundTo (d : Int) (c : Column) : Outcome Column :=
  match c.dtype with
  | .int64 | .int32 | .int16 | .int8 | .uint64 | .uint32 | .uint16 | .uint8 =>
    pure { c with cells := c.cells.map fun v => match v with
      | .int n => .int (roundInt n d)
      | v => v }
  | .float64 | .float32 =>
    pure { c with cells := c.cells.map fun v => match v with
      | .float x => .float (c.dtype.roundFloat (Float.roundTo x d))
      | v => v }
  | .object => throw (Fault.inner .typeError "Expected numeric dtype, got object instead.")
  | _ => pure c

end Column

end PipeQuery
