import PipeQuery.Calc.Datum

/-!
# Calculations: the kind of an array function's result

`where`, `select` and `array` give an array of the common kind of their inputs (`Operand`s). A
number written in the formula is *weak*: it takes the kind of the arrays it meets, so `1` beside
a column of `int8` stays `int8`. `Operand.common` joins two operands (`object` absorbs
everything, texts meet only texts, numbers rise from truths to complex numbers, integers by
`promoteInts`); where there is none the failure names both kinds and all inputs.
`Operand.discover` is the kind an array built from a list of values takes.
-/

namespace PipeQuery.Calc

/-- What an input of an array function brings to the kind of its result. -/
inductive Operand
  | array (kind : DType)
  | text
  | pyInt | pyFloat | pyComplex
  deriving DecidableEq, Inhabited

namespace Operand

def className : Operand → String
  | .array d => s!"numpy.dtypes.{d.className}"
  | .text => "numpy.dtypes.StrDType"
  | .pyInt => "numpy.dtypes._PyLongDType"
  | .pyFloat => "numpy.dtypes._PyFloatDType"
  | .pyComplex => "numpy.dtypes._PyComplexDType"

def numericRank : Operand → Option Nat
  | .array .bool => some 0
  | .array d => if d.isInteger then some 1 else if d.isFloat then some 2
    else if d == .complex128 then some 3 else none
  | .pyInt => some 1
  | .pyFloat => some 2
  | .pyComplex => some 3
  | .text => none

def commonArrays (a b : DType) : Option DType :=
  if a == b then some a
  else if a == .complex128 || b == .complex128 then some .complex128
  else if a.isFloat || b.isFloat then
    -- a single-precision double holds integers of up to 16 bits
    let small (d : DType) : Bool := d == .float32 || d == .bool ||
      (match d.intWidth? with
       | some (_, w) => w ≤ 16
       | none => false)
    if small a && small b then some .float32 else some .float64
  else match promoteInts a b with
    | some d => some d
    | none => some .float64

def common (a b : Operand) : Option Operand :=
  match a, b with
  | .array .object, _ | _, .array .object => some (.array .object)
  | .text, .text => some .text
  | .text, _ | _, .text => none
  | .array x, .array y =>
    if x == y then some a
    else if x.isNumeric || x == .complex128 then
      if y.isNumeric || y == .complex128 then (commonArrays x y).map .array else none
    else none
  | .array d, w | w, .array d =>
    match (Operand.array d).numericRank, w.numericRank with
    | some r, some s =>
      if s ≤ r then some (.array d)
      else match w with
        | .pyInt => some (.array .int64)
        | .pyFloat => some (.array (if d == .float32 then .float32 else .float64))
        | _ => some (.array .complex128)
    | _, _ =>
      if d == .duration && w == .pyInt then some (.array d) else none
  | x, y =>
    match x.numericRank, y.numericRank with
    | some r, some s => some (if r ≥ s then x else y)
    | _, _ => none

/-- The failure of operands with no common kind: the two that do not meet, and all of them. -/
def disagreement (a b : Operand) (all : List Operand) : String :=
  let classes := ", ".intercalate (all.map fun o => s!"<class '{o.className}'>")
  s!"The DType <class '{a.className}'> could not be promoted by <class '{b.className}'>. This means that no common DType exists for the given inputs. For example they cannot be stored in a single array unless the dtype is `object`. The full list of DTypes is: ({classes})"

/-- The common kind of operands, or the failure of the first meeting no common kind with those
before. -/
def commonOf (ops : List Operand) : Except String Operand :=
  match ops with
  | [] => pure (.array .float64)
  | first :: rest =>
    rest.foldlM (fun acc o => match common acc o with
      | some r => pure r
      | none => throw (disagreement first o ops)) first

def settled : Operand → DType
  | .array d => d
  | .text => .object
  | .pyInt => .int64
  | .pyFloat => .float64
  | .pyComplex => .complex128

def discover (vs : List Value) : Operand :=
  if vs.any (· matches .str _) then
    if vs.all fun v => v matches .str _ || v matches .int _ || v matches .float _ ||
        v matches .bool _ || v matches .complex _ _ then .text
    else .array .object
  else if !(vs.all fun v => v matches .int _ || v matches .float _ || v matches .bool _ ||
      v matches .complex _ _) then .array .object
  else if vs.any (· matches .complex _ _) then .array .complex128
  else if vs.any (· matches .float _) then .array .float64
  else if vs.any (· matches .int _) then .array .int64
  else if vs.isEmpty then .array .float64
  else .array .bool

/-- What a datum brings as an input: a written value its weak kind, a value or column its kind, a
list its array's kind. -/
def ofDatum (d : Datum) : Operand :=
  match d with
  | .scalar (.int _) => .pyInt
  | .scalar (.float _) => .pyFloat
  | .scalar (.complex _ _) => .pyComplex
  | .scalar (.bool _) => .array .bool
  | .scalar (.str _) => .text
  | .element _ k => .array k
  | .column c | .series c _ | .array c _ => .array c.dtype
  | .seq _ items => discover (items.map fun x => match x with
    | .scalar v | .element v _ => v
    | _ => .none)
  | _ => .array .object

/-- The input made an array of its own first: a written number takes its settled kind. -/
def strong (o : Operand) : Operand :=
  match o with
  | .text => .text
  | o => .array o.settled

/-- A value as an element of an array of kind `o`: texts for texts, numbers as the kind's numbers,
others kept. -/
def cast (o : Operand) (v : Value) : Value :=
  match o, v with
  | .text, .str _ => v
  | .text, v => .str v.text
  | .array d, .bool b =>
    if d.isInteger then .int (if b then 1 else 0)
    else if d.isFloat then .float (if b then 1.0 else 0.0)
    else v
  | .array d, .int n => if d.isFloat then .float (d.roundFloat (Num.intToFloat n)) else v
  | .array d, .float x => if d.isFloat then .float (d.roundFloat x) else v
  | _, v => v

def arrayOf (o : Operand) (vs : Array Value) : Column :=
  { label := .none, dtype := o.settled, cells := vs.map o.cast }

end Operand

end PipeQuery.Calc
