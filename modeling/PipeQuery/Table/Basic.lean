import PipeQuery.Value.Order

/-!
# Tables

A table is a list of columns of equal length together with the labels of its rows (its index).
A column has a label, an element type and its cells; the element type decides what the cells hold
and what marks a missing one (NaN for doubles, "not a time" for instants, `none` or NaN for
`object`, `NA` for `nullable`; booleans are never missing). Labels of columns and rows are
values too.
-/

namespace PipeQuery

def Float.roundEven (x : Float) : Float :=
  if x.isNaN || x.isInf || x.abs ≥ 4503599627370496.0 then x
  else
    let f := x.floor
    let d := x - f
    if d < 0.5 then f
    else if d > 0.5 then f + 1.0
    else if (f / 2.0).floor * 2.0 == f then f else f + 1.0

inductive DType
  | int64 | int32 | int16 | int8 | uint64 | uint32 | uint16 | uint8
  | float64
  /-- Doubles rounded to single precision. -/
  | float32
  | bool | object | datetime | duration | complex128
  /-- Instants at one fixed offset from UTC (in seconds). -/
  | zoned (offset : Int)
  /-- Values drawn from a fixed set of categories. -/
  | category
  /-- Values of the type `inner` with a missing marker of their own. -/
  | nullable (inner : DType)
  /-- Texts with a missing marker of their own. -/
  | text
  /-- Doubles rounded to half precision. -/
  | float16
  /-- Complex numbers with both parts rounded to single precision. -/
  | complex64
  /-- Byte strings of at most `width` bytes. -/
  | bytes (width : Nat)
  /-- Numbers of the type `inner` stored most significant byte first. -/
  | swapped (inner : DType)
  /-- Periods of the calendar frequency `freq`. -/
  | period (freq : String)
  /-- Instants counted in units of `10 ^ -digits` seconds. -/
  | instantsIn (digits : Nat)
  /-- Durations counted in units of `10 ^ -digits` seconds. -/
  | spansIn (digits : Nat)
  /-- Instants in the time zone `name`, each with its own offset from UTC. -/
  | zone (name : String)
  deriving DecidableEq, Repr, Inhabited

namespace DType

def intWidth? : DType → Option (Bool × Nat)
  | swapped inner => inner.intWidth?
  | int64 => some (true, 64)
  | int32 => some (true, 32)
  | int16 => some (true, 16)
  | int8 => some (true, 8)
  | uint64 => some (false, 64)
  | uint32 => some (false, 32)
  | uint16 => some (false, 16)
  | uint8 => some (false, 8)
  | _ => none

/-- The integer type of a sign and a width; widths other than 8, 16 and 32 give 64 bits. -/
def ofIntWidth (signed : Bool) (bits : Nat) : DType :=
  match signed, bits with
  | true, 8 => int8
  | true, 16 => int16
  | true, 32 => int32
  | true, _ => int64
  | false, 8 => uint8
  | false, 16 => uint16
  | false, 32 => uint32
  | false, _ => uint64

def unitName (digits : Nat) : String :=
  match digits with
  | 0 => "s"
  | 3 => "ms"
  | 6 => "us"
  | _ => "ns"

def unitSize (digits : Nat) : Int :=
  (Nat.pow 10 (9 - digits) : Nat)

/-- Instants counted in units of `10 ^ -digits` seconds: nanoseconds from nine digits on. -/
def instantsAt (digits : Nat) : DType :=
  if digits ≥ 9 then datetime else instantsIn digits

def spansAt (digits : Nat) : DType :=
  if digits ≥ 9 then duration else spansIn digits

/-- The digits of a type's unit for instants or durations: nine for a type with no coarser unit. -/
def unitDigits : DType → Nat
  | instantsIn digits | spansIn digits => digits
  | _ => 9

/-- The short code of a number type: its kind letter and width in bytes (`i4` for `int32`). -/
def typeCode : DType → String
  | int64 => "i8"
  | int32 => "i4"
  | int16 => "i2"
  | int8 => "i1"
  | uint64 => "u8"
  | uint32 => "u4"
  | uint16 => "u2"
  | uint8 => "u1"
  | float64 => "f8"
  | float32 => "f4"
  | float16 => "f2"
  | complex128 => "c16"
  | complex64 => "c8"
  | _ => "O"

def baseName : DType → String
  | int64 => "int64"
  | int32 => "int32"
  | int16 => "int16"
  | int8 => "int8"
  | uint64 => "uint64"
  | uint32 => "uint32"
  | uint16 => "uint16"
  | uint8 => "uint8"
  | float64 => "float64"
  | float32 => "float32"
  | bool => "bool"
  | object => "object"
  | datetime => "datetime64[ns]"
  | duration => "timedelta64[ns]"
  | complex128 => "complex128"
  | zoned offset => "datetime64[ns, " ++ Time.zoneName offset ++ "]"
  | category => "category"
  | nullable _ => "object"
  | text => "string"
  | float16 => "float16"
  | complex64 => "complex64"
  | bytes width => "|S" ++ toString width
  | swapped inner => ">" ++ inner.typeCode
  | period freq => "period[" ++ freq ++ "]"
  | instantsIn digits => "datetime64[" ++ unitName digits ++ "]"
  | spansIn digits => "timedelta64[" ++ unitName digits ++ "]"
  | zone name => "datetime64[ns, " ++ name ++ "]"

/-- An element type's name in answers: a nullable type its inner type's with a capital (`Int64`),
truths `boolean`. -/
def name : DType → String
  | nullable bool => "boolean"
  | nullable inner =>
    let n := inner.baseName
    if n.startsWith "u" then "U" ++ (n.drop 1).toString.capitalize else n.capitalize
  | d => d.baseName

def className : DType → String
  | int64 => "Int64DType"
  | int32 => "Int32DType"
  | int16 => "Int16DType"
  | int8 => "Int8DType"
  | uint64 => "UInt64DType"
  | uint32 => "UInt32DType"
  | uint16 => "UInt16DType"
  | uint8 => "UInt8DType"
  | float64 => "Float64DType"
  | float32 => "Float32DType"
  | bool => "BoolDType"
  | object => "ObjectDType"
  | datetime => "DateTime64DType"
  | duration => "TimeDelta64DType"
  | complex128 => "Complex128DType"
  | zoned _ => "DatetimeTZDtype"
  | category => "CategoricalDtype"
  | text => "StringDtype"
  | d@(nullable _) => d.name.capitalize ++ "Dtype"
  | float16 => "Float16DType"
  | complex64 => "Complex64DType"
  | bytes _ => "BytesDType"
  | swapped inner => inner.className
  | period _ => "PeriodDtype"
  | instantsIn _ => "DateTime64DType"
  | spansIn _ => "TimeDelta64DType"
  | zone _ => "DatetimeTZDtype"

def isInteger (d : DType) : Bool :=
  d.intWidth?.isSome

def isFloat : DType → Bool
  | float64 | float32 | float16 => true
  | swapped inner => inner.isFloat
  | _ => false

def isNumeric (d : DType) : Bool :=
  d.isInteger || d.isFloat || d == bool

/-- Types an array of the array library holds directly: numbers, truths, complex numbers, zoneless
instants, durations, objects. -/
def isPlainArray (d : DType) : Bool :=
  d.isNumeric || d == complex128 || d == complex64 || d == object || d == datetime
    || d == duration || d matches bytes _ || d matches instantsIn _ || d matches spansIn _

def isTimeLike (d : DType) : Bool :=
  d == datetime || d == duration || d matches instantsIn _ || d matches spansIn _

/-- The cell marking a missing value in a column of this type (`none` where it has none of its own).
-/
def missingCell : DType → Value
  | float64 | float32 | float16 => .float (0.0 / 0.0)
  | datetime | duration | instantsIn _ | spansIn _ | period _ | zone _ => .nat
  | nullable _ | text => .na
  | _ => .none

/-- A double rounded to half precision: eleven significant bits, steps of `2 ^ -24` below `2 ^ -14`,
infinite past 65504. -/
def toHalf (x : Float) : Float :=
  if x.isNaN || x.isInf || x == 0.0 then x
  else
    let a := x.abs
    let e := (Float.log2 a).floor
    let e := if Float.pow 2.0 e > a then e - 1.0 else if Float.pow 2.0 (e + 1.0) ≤ a then e + 1.0 else e
    let quantum := Float.pow 2.0 ((if e < -14.0 then -14.0 else e) - 10.0)
    let r := Float.roundEven (a / quantum) * quantum
    let r := if r > 65504.0 then 1.0 / 0.0 else r
    if x < 0.0 then -r else r

def roundFloat (d : DType) (x : Float) : Float :=
  match d with
  | float32 | swapped float32 => x.toFloat32.toFloat
  | float16 | swapped float16 => toHalf x
  | _ => x

end DType

def Value.nan : Value := .float (0.0 / 0.0)

/-- A labelled column of cells of one element type. -/
structure Column where
  label : Value
  dtype : DType
  cells : Array Value
  deriving Inhabited

namespace Column

def size (c : Column) : Nat := c.cells.size

def cell (c : Column) (i : Nat) : Value := c.cells.getD i .none

def pick (c : Column) (rows : Array Nat) : Column :=
  { c with cells := rows.map c.cell }

def relabel (c : Column) (label : Value) : Column := { c with label }

def named (c : Column) (name : String) : Bool :=
  match c.label with
  | .str s => s == name
  | _ => false

end Column

/-- A table: columns of equal length and the labels of its rows. -/
structure Table where
  columns : Array Column
  index : Array Value
  deriving Inhabited

namespace Table

def rangeIndex (n : Nat) : Array Value :=
  (Array.range n).map fun (i : Nat) => Value.int i

def empty : Table := { columns := #[], index := #[] }

def rowCount (t : Table) : Nat := t.index.size

def isEmpty (t : Table) : Bool := t.columns.isEmpty || t.index.isEmpty

def labels (t : Table) : Array Value := t.columns.map (·.label)

def find? (t : Table) (name : String) : Option Column := t.columns.find? (·.named name)

def has (t : Table) (name : String) : Bool := t.columns.any (·.named name)

def resetIndex (t : Table) : Table := { t with index := rangeIndex t.rowCount }

def pick (t : Table) (rows : Array Nat) : Table :=
  { columns := t.columns.map (·.pick rows), index := rows.map fun i => t.index.getD i .none }

def keep (t : Table) (flags : Array Bool) : Table :=
  t.pick ((Array.range t.rowCount).filter fun i => flags.getD i false)

/-- The table with column `c` in place of the first column of the same label, or added last. -/
def put (t : Table) (c : Column) : Table :=
  match t.columns.findIdx? (fun d => Value.same d.label c.label) with
  | some i => { t with columns := t.columns.set! i c }
  | none => { t with columns := t.columns.push c }

/-- The columns labelled by the names, in the names' order; a name labelling several columns takes
them all. -/
def project (t : Table) (names : List String) : Table :=
  { t with columns := (names.flatMap fun n => (t.columns.filter (·.named n)).toList).toArray }

def dropWhere (t : Table) (drop : Value → Bool) : Table :=
  { t with columns := t.columns.filter fun c => !drop c.label }

end Table

end PipeQuery
