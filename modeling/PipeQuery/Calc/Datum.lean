import PipeQuery.Calc.Syntax
import PipeQuery.Table.Arith
import PipeQuery.Table.Compare
import PipeQuery.Table.Infer
import PipeQuery.Table.Show
import PipeQuery.Table.ArrayText
import PipeQuery.Value.Format
import PipeQuery.Table.Window
import PipeQuery.Time.Offset

/-!
# Calculations: what a formula computes

A formula computes a `Datum`: a column (aligned with the table's rows, or a series with row
labels of its own), one value, a function, a library, a container, a bound method, an accessor,
a table, a generator, a `lambda`, or a reference into the formula's store. Arithmetic between
columns goes row by row through `sideArith`, a single value counting for every row; comparisons
of a column give one truth per row. A column has no truth value of its own, so `not`, `and`, `or`
and the conditional expression fail on one.
-/

namespace PipeQuery.Calc

/-- How an array is written: plain, or as row labels with the frequency of evenly spaced
instants. -/
inductive ArrayForm
  | values
  | labels (freq : Option String)
  deriving Inhabited

/-- How a column's rows fall into groups: each row's key (none outside all groups), and whether
groups follow keys or first rows. -/
structure Grouping where
  keys : Array (Option Value)
  sorted : Bool := true
  deriving Inhabited

inductive Datum
  | column (c : Column)
  | scalar (v : Value)
  /-- A number or truth taken out of a number column, computing as a one-row column of its kind. -/
  | element (v : Value) (dtype : DType)
  | function (name : String)
  | library (name : String)
  | seq (isList : Bool) (items : List Datum)
  | mapping (entries : List (Datum × Datum))
  | setOf (items : List Datum)
  /-- A byte string: each character's code is a byte. -/
  | bytes (s : String)
  | bound (owner : Datum) (name : String)
  /-- The `str` or `dt` accessor of a column, with its own row labels when not aligned with the
  table's. -/
  | accessor (kind : String) (c : Column) (labels : Option (Array Value))
  /-- A window (`rolling`, `expanding`, `ewm`) over a column, with its own row labels when not
  aligned with the table's. -/
  | windowed (w : Window) (c : Column) (labels : Option (Array Value))
  /-- A column split into groups (`groupby`), with its own row labels when not aligned with the
  table's. -/
  | grouped (g : Grouping) (c : Column) (labels : Option (Array Value))
  /-- A column with row labels of its own, matched to the table's by label. -/
  | series (c : Column) (labels : Array Value)
  /-- A table computed by a formula, with row labels of its own. -/
  | frame (cols : List Column) (labels : Array Value)
  /-- A column's values as a plain array or as row labels; only the written form differs. -/
  | array (c : Column) (form : ArrayForm)
  | generator (items : List Datum)
  | offset (o : Time.Offset)
  /-- A `lambda`: its name in failures, parameters with defaults, body, and the frames it was made
  in, innermost first. -/
  | closure (name : String) (params : List (ParamKind × String × Option Datum)) (body : Term)
      (frames : List Nat)
  /-- An object kept in the formula's store (see `Calc.Scope`), which may change in place. -/
  | ref (id : Nat)
  deriving Inhabited

def ambiguous : Fault :=
  Fault.inner .valueError
    "The truth value of a Series is ambiguous. Use a.empty, a.bool(), a.item(), a.any() or a.all()."

/-- A byte string as the language writes it: `b'…'`, escapes, printable ASCII kept, other bytes as
`\xhh`. -/
def bytesRepr (b : String) : String :=
  let q := if b.contains '\'' && !b.contains '"' then '"' else '\''
  let body := b.toList.map fun c =>
    if c == q || c == '\\' then "\\" ++ c.toString
    else if c == '\t' then "\\t"
    else if c == '\n' then "\\n"
    else if c == '\r' then "\\r"
    else if c.toNat ≥ 32 && c.toNat < 127 then c.toString
    else "\\x" ++ Text.hexPadded 2 c.toNat
  "b" ++ q.toString ++ String.join body ++ q.toString

def slicePositions (n : Nat) (lo hi : Option Int) (step : Int) : List Nat :=
  let size : Int := n
  if step > 0 then
    let clamp (i : Int) : Int := if i < 0 then max 0 (i + size) else min i size
    let a := clamp (lo.getD 0)
    let b := clamp (hi.getD size)
    if a ≥ b then []
    else (List.range ((b - a + step - 1) / step).toNat).map fun (k : Nat) => (a + (k : Int) * step).toNat
  else
    let clamp (i : Int) : Int := if i < 0 then max (-1) (i + size) else min i (size - 1)
    let a := match lo with
      | some i => clamp i
      | none => size - 1
    let b := match hi with
      | some i => clamp i
      | none => -1
    if a ≤ b then []
    else (List.range ((a - b + (-step) - 1) / (-step)).toNat).map fun (k : Nat) => (a + (k : Int) * step).toNat

namespace Datum

/-- The datum a formula's parts compute with: an array as its column, anything else as it is. -/
def plain : Datum → Datum
  | array c _ => column c
  | d => d

/-- Whether a datum is or holds a plain array, whose written form the array library cannot make
here. -/
def holdsArray : Nat → Datum → Bool
  | 0, _ => false
  | fuel + 1, d =>
    match d with
    | array _ .values => true
    | seq _ items | setOf items => items.any (holdsArray fuel)
    | mapping es => es.any fun (k, v) => holdsArray fuel k || holdsArray fuel v
    | _ => false

def kindName : Datum → String
  | column _ | series _ _ => "Series"
  | array _ .values => "ndarray"
  | array c (.labels _) => c.indexKind
  | frame _ _ => "DataFrame"
  | scalar v => v.typeName
  | element v dtype => if dtype.isTimeLike then v.typeName else dtype.name
  | function _ | closure .. => "function"
  | library _ => "module"
  | seq true _ => "list"
  | seq false _ => "tuple"
  | mapping _ => "dict"
  | setOf _ => "set"
  | bytes _ => "bytes"
  | bound _ _ => "method"
  | accessor "str" _ _ => "StringMethods"
  | accessor "cat" _ _ => "CategoricalAccessor"
  | accessor _ _ _ => "DatetimeProperties"
  | windowed (.rolling ..) _ _ => "Rolling"
  | windowed (.expanding _) _ _ => "Expanding"
  | windowed (.decaying ..) _ _ => "ExponentialMovingWindow"
  | grouped .. => "SeriesGroupBy"
  | generator _ => "generator"
  | offset o => o.kindName
  | ref _ => "object"

def truth : Datum → Outcome Bool
  | column _ | series _ _ => throw ambiguous
  | frame _ _ => throw (Fault.inner .valueError
      "The truth value of a DataFrame is ambiguous. Use a.empty, a.bool(), a.item(), a.any() or a.all().")
  | scalar .na => throw (Fault.inner .typeError "boolean value of NA is ambiguous")
  | array c (.labels _) => throw (Fault.inner .valueError
      s!"The truth value of a {c.indexKind} is ambiguous. Use a.empty, a.bool(), a.item(), a.any() or a.all().")
  | array c .values =>
    match c.cells.toList with
    | [v] => pure v.truthy
    | [] => throw (Fault.inner .valueError
        "The truth value of an empty array is ambiguous. Use `array.size > 0` to check that an array is not empty.")
    | _ => throw (Fault.inner .valueError
        "The truth value of an array with more than one element is ambiguous. Use a.any() or a.all()")
  | scalar v | element v _ => pure v.truthy
  | seq _ items | setOf items => pure !items.isEmpty
  | mapping entries => pure !entries.isEmpty
  | bytes s => pure !s.isEmpty
  | _ => pure true

/-- Whether a datum is a plain number, text or truth, which counts for every row when a column is
wanted. -/
def spreads : Datum → Bool
  | scalar (.int _) | scalar (.float _) | scalar (.str _) | scalar (.bool _) => true
  | _ => false

def isMissingValue : Datum → Bool
  | scalar v => v.isMissing
  | _ => false

def spread (label : Value) (n : Nat) (v : Value) : Column :=
  Column.infer label (Array.replicate n v)

/-- The column for `n` rows a datum stands for when it spreads; other data stay as they are. -/
def widen (n : Nat) (d : Datum) : Datum :=
  match d with
  | scalar v => if d.spreads then column (spread .none n v) else d
  | _ => d

def truths (label : Value) (bs : Array Bool) : Datum :=
  column { label, dtype := .bool, cells := bs.map Value.bool }

def side? : Datum → Option Side
  | column c | series c _ => some (.column c)
  | scalar v | element v _ => some (.scalar v)
  | _ => none

def unsupported (symbol : String) (l r : Datum) : Fault :=
  Fault.inner .typeError
    s!"unsupported operand type(s) for {symbol}: '{l.kindName}' and '{r.kindName}'"

/-- A single value of a number column with its kind: `np.int64(3)`, `np.True_`. -/
def elementRepr (v : Value) (dtype : DType) : String :=
  match v with
  | .bool b => if b then "np.True_" else "np.False_"
  | _ => if dtype.isTimeLike then v.repr else "np." ++ dtype.name ++ "(" ++ v.repr ++ ")"

/-- The plain text and the form with kind of a datum; columns are listed with the row labels
`labels`. -/
def texts (labels : Array Value) : Nat → Datum → String × String
  | 0, _ => ("...", "...")
  | fuel + 1, d =>
    let reprOf (x : Datum) : String := (texts labels fuel x).2
    let both (t : String) : String × String := (t, t)
    match d with
    | scalar v => (v.text, v.repr)
    | element v dtype => (v.text, elementRepr v dtype)
    | column c => both (c.listing labels)
    | series c ls => both (c.listing ls)
    | frame cols ls => both (Column.framed cols ls)
    | array c (.labels freq) => both (c.indexText freq)
    | array c .values => both c.arrayText
    | seq true items => both ("[" ++ ", ".intercalate (items.map reprOf) ++ "]")
    | seq false [x] => both ("(" ++ reprOf x ++ ",)")
    | seq false items => both ("(" ++ ", ".intercalate (items.map reprOf) ++ ")")
    | mapping es =>
      both ("\x7b" ++ ", ".intercalate (es.map fun (k, v) => reprOf k ++ ": " ++ reprOf v) ++ "\x7d")
    | setOf [] => both "set()"
    | setOf items => both ("\x7b" ++ ", ".intercalate (items.map reprOf) ++ "\x7d")
    | bytes b => both (bytesRepr b)
    | function name => both ("<function " ++ name ++ ">")
    | library name => both ("<module '" ++ name ++ "'>")
    | bound _ name => both ("<bound method " ++ name ++ ">")
    | accessor "str" _ _ => both "<pandas.core.strings.accessor.StringMethods object>"
    | accessor "cat" _ _ => both "<pandas.core.arrays.categorical.CategoricalAccessor object>"
    | accessor _ _ _ => both "<pandas.core.indexes.accessors.DatetimeProperties object>"
    | windowed (.rolling size least center) _ _ =>
      let lp := match least with
        | some m => ",min_periods=" ++ toString m
        | none => ""
      both ("Rolling [window=" ++ toString size ++ lp ++ ",center=" ++ (if center then "True" else "False") ++
        ",axis=0,method=single]")
    | windowed (.expanding m) _ _ => both ("Expanding [min_periods=" ++ toString m ++ ",axis=0,method=single]")
    | windowed (.decaying ..) _ _ => both "ExponentialMovingWindow"
    | grouped .. => both "<pandas.core.groupby.generic.SeriesGroupBy object>"
    | generator _ => both "<generator object <genexpr>>"
    | offset o => both o.text
    | closure name _ _ _ => both ("<function " ++ name ++ ">")
    | ref _ => both "<object>"

def shown (labels : Array Value) (d : Datum) : Shown :=
  let (text, repr) := d.texts labels 32
  match d with
  | scalar v | element v _ => { value := v, text, repr, kind := v.typeName }
  | array _ .values => { value := .other "ndarray" text, text, repr, kind := "numpy.ndarray" }
  | _ => { value := .other d.kindName text, text, repr, kind := d.kindName }

/-- A datum as one cell: values as they are, sequences as lists, dictionaries with key texts, others
by their text. -/
def toCell (labels : Array Value) : Nat → Datum → Value
  | 0, _ => .none
  | fuel + 1, d =>
    match d with
    | scalar v | element v _ => v
    | bytes b => .other "bytes" (bytesRepr b)
    | seq _ items => .list (items.map (toCell labels fuel)) 0
    | mapping es => .dict (es.map fun (k, v) => ((k.texts labels fuel).1, toCell labels fuel v))
    | d => .other d.kindName (d.texts labels fuel).1

/-- The items of a datum when iterated: a column's values, a sequence's or set's items, a
dictionary's keys, a text's characters, bytes. -/
def items? : Datum → Outcome (List Datum)
  | column c | series c _ | array c _ => pure (c.cells.toList.map scalar)
  | seq _ items | setOf items | generator items => pure (items.map plain)
  | mapping es => pure (es.map (·.1))
  | scalar (.str s) => pure (s.toList.map fun ch => scalar (.str ch.toString))
  | bytes b => pure (b.toList.map fun ch => scalar (.int ch.toNat))
  | element v dtype =>
    if dtype.isTimeLike then throw (Fault.raised .typeError s!"'{v.typeName}' object is not iterable")
    else throw (Fault.raised .typeError s!"'numpy.{dtype.name}' object is not iterable")
  | d => throw (Fault.raised .typeError s!"'{d.kindName}' object is not iterable")

def checkKey : Nat → Datum → Outcome Unit
  | 0, _ => pure ()
  | fuel + 1, d =>
    let refuse (k : String) : Outcome Unit := throw (Fault.raised .typeError s!"unhashable type: '{k}'")
    match d with
    | scalar (.list _ _) => refuse "list"
    | scalar (.dict _) => refuse "dict"
    | column _ | series _ _ => refuse "Series"
    | array _ .values => refuse "numpy.ndarray"
    | array c (.labels _) => refuse c.indexKind
    | seq true _ => refuse "list"
    | seq false items => items.forM (checkKey fuel)
    | mapping _ => refuse "dict"
    | setOf _ => refuse "set"
    | _ => pure ()

/-- Whether two keys are one: equal values (`1`, `1.0`, `True` alike), equal byte strings, tuples of
such. -/
def sameKey : Nat → Datum → Datum → Bool
  | 0, _, _ => false
  | fuel + 1, a, b =>
    match a, b with
    | scalar x, scalar y | element x _, scalar y | scalar x, element y _ | element x _, element y _ =>
      Value.same x y
    | bytes x, bytes y => x == y
    | seq false xs, seq false ys =>
      xs.length == ys.length && (xs.zip ys).all fun (x, y) => sameKey fuel x y
    | function f, function g => f == g
    | library f, library g => f == g
    | _, _ => false

/-- Adds an entry to a dictionary: a key already there keeps its place and takes the value. -/
def addEntry (entries : List (Datum × Datum)) (k v : Datum) : List (Datum × Datum) :=
  if entries.any (fun (k', _) => sameKey 16 k' k) then
    entries.map fun (k', v') => if sameKey 16 k' k then (k', v) else (k', v')
  else entries ++ [(k, v)]

end Datum

def BinOp.arith? : BinOp → Option ArithOp
  | .add => some .add
  | .sub => some .sub
  | .mul => some .mul
  | .div => some .div
  | .floorDiv => some .floorDiv
  | .mod => some .mod
  | .pow => some .pow
  | _ => none

/-- A time, or a column of times, moved by the calendar offset `o`; "not a time" stays. -/
def shiftedBy (o : Time.Offset) (d : Datum) : Outcome Datum :=
  let move (v : Value) : Value :=
    match v with
    | .time ns => .time (o.apply ns)
    | .zoned ns off => .zoned (o.apply (ns + off * Time.nsPerSecond) - off * Time.nsPerSecond) off
    | v => v
  let refuse : Outcome Datum := throw (Fault.inner .typeError
    s!"unsupported operand type(s) for +: '{o.kindName}' and '{d.kindName}'")
  let instants (k : DType) : Bool := k == .datetime || k matches .zoned _ || k matches .instantsIn _
  match d with
  | .scalar v =>
    if v matches .time _ || v matches .zoned _ _ || v matches .nat then pure (.scalar (move v))
    else refuse
  | .element v k => if k matches .instantsIn _ then pure (.element (move v) k) else refuse
  | .column c =>
    if instants c.dtype then pure (.column { c with cells := c.cells.map move })
    else refuse
  | .series c ls =>
    if instants c.dtype then pure (.series { c with cells := c.cells.map move } ls)
    else refuse
  | _ => refuse

/-- `a op b` (or, and, exclusive or) on integers as two's complement bits, with a spare sign bit, so
exact. -/
def bitOp (op : BinOp) (a b : Int) : Int :=
  let w := max a.natAbs.log2 b.natAbs.log2 + 2
  let m : Nat := Nat.pow 2 w
  let x := (a % (m : Int)).toNat
  let y := (b % (m : Int)).toNat
  let r := match op with
    | .bitOr => Nat.lor x y
    | .bitAnd => Nat.land x y
    | _ => Nat.xor x y
  if r ≥ m / 2 then (r : Int) - m else r

def truthOp (op : BinOp) (a b : Bool) : Bool :=
  match op with
  | .bitOr => a || b
  | .bitAnd => a && b
  | _ => a != b

def holdsIntegers (c : Column) : Bool :=
  c.dtype.isInteger

def asTruth (v : Value) : Bool :=
  !v.isMissing && v.truthy

/-- `|`, `&` or `^` on two single values: truths give a truth, integers (truths as `0`, `1`) an
integer. -/
def scalarBits (op : BinOp) (a b : Value) : Outcome Value :=
  match a, b with
  | .bool x, .bool y => pure (.bool (truthOp op x y))
  | _, _ =>
    match a, b with
    | .int _, .int _ | .int _, .bool _ | .bool _, .int _ =>
      let x := match a with | .int n => n | .bool t => if t then 1 else 0 | _ => 0
      let y := match b with | .int n => n | .bool t => if t then 1 else 0 | _ => 0
      pure (.int (bitOp op x y))
    | _, _ => throw (Fault.inner .typeError
        s!"unsupported operand type(s) for {op.symbol}: '{a.typeName}' and '{b.typeName}'")

namespace Datum

/-- `|`, `&`, `^` between data: on bits for integer columns (or one and an integer), else on each
row's truths, missing false. -/
def bits (op : BinOp) (l r : Datum) : Outcome Datum :=
  match l, r with
  | column a, column b =>
    if holdsIntegers a && holdsIntegers b then
      let cells := (a.cells.zip b.cells).map fun (x, y) => Value.int (bitOp op (Value.toInteger x) (Value.toInteger y))
      pure (column { a with cells })
    else
      pure (truths a.label ((a.cells.zip b.cells).map fun (x, y) => truthOp op (asTruth x) (asTruth y)))
  | column a, scalar v | scalar v, column a =>
    match v with
    | .int n =>
      if holdsIntegers a then
        let cells := a.cells.map fun x => Value.int (bitOp op (Value.toInteger x) n)
        pure (column { a with cells })
      else pure (truths a.label (a.cells.map fun x => bitOp op (if asTruth x then 1 else 0) n != 0))
    | _ => pure (truths a.label (a.cells.map fun x => truthOp op (asTruth x) (asTruth v)))
  | scalar a, scalar b => return scalar (← scalarBits op a b)
  | _, _ => throw (unsupported op.symbol l r)

/-- `a << b` (or `a >> b`) on integers of any size: times `2^b` (or divided, rounding down); a
negative count fails. -/
def shiftWhole (left : Bool) (a b : Int) : Outcome Int :=
  if b < 0 then throw (Fault.inner .valueError "negative shift count")
  else if left then pure (a * (Nat.pow 2 b.toNat : Int))
  else if b > (a.natAbs.log2 + 1 : Nat) then pure (if a < 0 then -1 else 0)
  else pure (Int.fdiv a (Nat.pow 2 b.toNat : Int))

/-- `a << b` (or `>>`) in an integer type, wrapping; a count out of range shifts all bits out. -/
def shiftFixed (d : DType) (left : Bool) (a b : Int) : Int :=
  let width : Nat := match d.intWidth? with
    | some (_, w) => w
    | Option.none => 64
  if b < 0 || b ≥ (width : Int) then (if left then 0 else if a < 0 then -1 else 0)
  else if left then d.wrapInt (a * (Nat.pow 2 b.toNat : Int))
  else Int.fdiv a (Nat.pow 2 b.toNat : Int)

def shiftable? : Value → Option Int
  | .int n => some n
  | .bool b => some (if b then 1 else 0)
  | _ => Option.none

/-- `<<` or `>>`: written integers at any size; values of an integer type in that type, wrapping. -/
def shift (op : BinOp) (l r : Datum) : Outcome Datum := do
  let left := op == .shiftLeft
  let fail : Outcome Datum := throw (unsupported op.symbol l r)
  let ufunc := if left then "left_shift" else "right_shift"
  let noLoop : Fault := Fault.inner .typeError
    s!"ufunc '{ufunc}' not supported for the input types, and the inputs could not be safely coerced to any supported types according to the casting rule ''safe''"
  let kindOf (d : Datum) : Option DType := match d with
    | element (.bool _) _ => some .int64
    | element _ k => if k.isInteger then some k else Option.none
    | _ => Option.none
  match l, r with
  | scalar x, scalar y =>
    match shiftable? x, shiftable? y with
    | some a, some b => return scalar (.int (← shiftWhole left a b))
    | _, _ => fail
  | element x _, scalar y | scalar x, element y _ | element x _, element y _ =>
    match shiftable? x, shiftable? y, (kindOf l).orElse fun _ => kindOf r with
    | some a, some b, some k => pure (element (.int (shiftFixed k left a b)) k)
    | _, _, _ => throw noLoop
  | column c, other | series c _, other =>
    let kind := if c.dtype == .bool then DType.int64 else c.dtype
    if !kind.isInteger then throw noLoop
    let amount (i : Nat) : Option Int := match other with
      | scalar v | element v _ => shiftable? v
      | column o | series o _ => shiftable? (o.cell i)
      | _ => Option.none
    let cells ← (Array.range c.size).mapM fun i => do
      match shiftable? (c.cell i), amount i with
      | some a, some b => pure (Value.int (shiftFixed kind left a b))
      | _, _ => throw noLoop
    let result : Column := { c with dtype := kind, cells }
    pure (match l with
      | series _ ls => series result ls
      | _ => column result)
  | scalar x, column c | element x _, column c =>
    match shiftable? x with
    | some a =>
      let kind := if c.dtype == .bool then DType.int64 else c.dtype
      if !kind.isInteger then throw noLoop
      let cells ← c.cells.mapM fun v => match shiftable? v with
        | some b => pure (Value.int (shiftFixed kind left a b))
        | Option.none => throw noLoop
      pure (column { c with dtype := kind, cells })
    | Option.none => fail
  | _, _ => fail

def seqColumn? : Datum → Option Column
  | seq _ items =>
    (items.mapM fun d => match d with | scalar v => some v | _ => Option.none).map fun (vs : List Value) =>
      Column.infer .none vs.toArray
  | _ => Option.none

/-- A list or tuple of values as a column when the other side is one, so the two go row by row. -/
def alignSeq (l r : Datum) : Datum × Datum :=
  let columnLike (d : Datum) : Bool := d matches column _ || d matches series _ _
  match seqColumn? l, seqColumn? r with
  | some c, _ => if columnLike r then (column c, r) else (l, r)
  | _, some c => if columnLike l then (l, column c) else (l, r)
  | _, _ => (l, r)

def rows? : Datum → Option Nat
  | column c | series c _ => some c.cells.size
  | _ => Option.none

def isComplex : Datum → Bool
  | scalar (.complex _ _) => true
  | column c | series c _ => c.dtype == .complex128
  | _ => false

def complexAt (d : Datum) (i : Nat) : Num.Pair :=
  let nan : Float := 0.0 / 0.0
  let of (v : Value) : Num.Pair := (v.pair?.getD (nan, 0.0))
  match d with
  | column c | series c _ => of (c.cell i)
  | scalar v => of v
  | _ => (nan, 0.0)

def complexSide : Datum → Bool
  | scalar v => v.pair?.isSome
  | column c | series c _ => c.dtype.isNumeric || c.dtype == .complex128
  | _ => false

/-- `l op r` row by row in complex numbers: division by zero gives infinities and NaN as arrays do.
-/
def complexRows (n : Nat) (op : ArithOp) (l r : Datum) : Outcome Datum := do
  let nan : Float := 0.0 / 0.0
  let label := match l, r with
    | column c, _ | series c _, _ => c.label
    | _, column c | _, series c _ => c.label
    | _, _ => .none
  let f : Num.Pair → Num.Pair → Outcome Num.Pair ← match op with
    | .add => pure fun a b => pure (Num.pairAdd a b)
    | .sub => pure fun a b => pure (Num.pairSub a b)
    | .mul => pure fun a b => pure (Num.pairMul a b)
    | .div => pure fun a b => pure (Num.quotientOfArrays a b)
    | .pow => pure fun a b => pure ((Num.pairPow a b).toOption.getD (nan, nan))
    | _ => throw (Fault.inner .ufuncTypeError
        s!"ufunc '{op.ufuncName}' not supported for the input types, and the inputs could not be safely coerced to any supported types according to the casting rule ''safe''")
  let cells ← (List.range n).mapM fun i => do
    let p ← f (complexAt l i) (complexAt r i)
    pure (Value.complex p.1 p.2)
  return column { label, dtype := .complex128, cells := cells.toArray }

/-- `l @ r`: the sum of products of two columns' (or a column's and a list's) values, integral when
all are. -/
def dot (l r : Datum) : Outcome Datum := do
  let values (d : Datum) : Option (List Value) := match d with
    | column c | series c _ => some c.cells.toList
    | seq _ items => items.mapM fun x => match x with | scalar v => some v | _ => Option.none
    | _ => Option.none
  let isColumn (d : Datum) : Bool := (rows? d).isSome
  if !(isColumn l || isColumn r) then throw (unsupported "@" l r)
  match values l, values r with
  | some xs, some ys =>
    if xs.length != ys.length then
      throw (Fault.inner .valueError
        s!"shapes ({xs.length},) and ({ys.length},) not aligned: {xs.length} (dim 0) != {ys.length} (dim 0)")
    else
      let whole (v : Value) : Bool := v matches .int _ || v matches .bool _
      if xs.all whole && ys.all whole then
        let total := (xs.zip ys).foldl (fun acc (x, y) => wrap64 (acc + x.toInteger * y.toInteger)) 0
        pure (scalar (.int total))
      else
        let total := (xs.zip ys).foldl (fun acc (x, y) => acc + x.toDouble * y.toDouble) 0.0
        pure (scalar (.float total))
  | _, _ => throw (unsupported "@" l r)

def oneRow : Datum → Side
  | element v dtype => .column { label := .none, dtype, cells := #[v] }
  | scalar v => .scalar v
  | _ => .scalar .none

/-- `l op r` with a number column's value on a side: as on a one-row column, but whole numbers give
`0` for `//`, `%` by zero. -/
def elementArith (op : ArithOp) (l r : Datum) : Outcome Datum := do
  let whole (d : Datum) : Bool := match d with
    | element (.int _) _ | element (.bool _) _ | scalar (.int _) | scalar (.bool _) => true
    | _ => false
  let zero : Bool := match r with
    | element v _ | scalar v => v.toInteger == 0
    | _ => false
  if (op == .floorDiv || op == .mod) && whole l && whole r && zero then
    return element (.int 0) .int64
  let c ← sideArith op 1 (oneRow l) (oneRow r)
  let coarse := c.dtype matches .instantsIn _ || c.dtype matches .spansIn _
  let timed (d : Datum) : Bool := match d with
    | element _ k => k.isTimeLike
    | _ => false
  if !coarse && (timed l || timed r) then return scalar (c.cell 0)
  return element (c.cell 0) c.dtype

/-- `template % values`: a tuple's items, a mapping's entries by key, or the single value on the
right. -/
def percent (labels : Array Value) (template : String) (r : Datum) : Outcome Datum :=
  let refuse (what : String) (_ : String) : Except FormatFailure Shown :=
    throw (.typeError, s!"{what} indices must be integers or slices, not str")
  let args := match r with
    | seq false items => PercentArgs.items (items.map (shown labels))
    | mapping es =>
      .keyed (shown labels r) fun key =>
        match es.find? (fun (k, _) => match k with
          | scalar (.str t) => t == key
          | _ => false) with
        | some (_, v) => pure (shown labels v)
        | Option.none => throw (.keyError, Value.repr (.str key))
    | seq true _ => .keyed (shown labels r) (refuse "list")
    | bytes _ => .keyed (shown labels r) (refuse "byte")
    | _ => .single (shown labels r)
  match percentFormat template args with
  | .ok s => pure (scalar (.str s))
  | .error (kind, msg) => throw (Fault.inner kind msg)

/-- `+` and `*` of sequences and byte strings: joining two of one kind, repeating by an integer. -/
def sequenceArith? (op : BinOp) (l r : Datum) : Option (Outcome Datum) :=
  let kindOf (isList : Bool) : String := if isList then "list" else "tuple"
  match op, l, r with
  | .add, seq a xs, seq b ys =>
    if a == b then some (pure (seq a (xs ++ ys)))
    else some (throw (Fault.inner .typeError
      s!"can only concatenate {kindOf a} (not \"{kindOf b}\") to {kindOf a}"))
  | .add, seq a _, scalar _ | .add, seq a _, mapping _ | .add, seq a _, bytes _
  | .add, seq a _, setOf _ =>
    some (throw (Fault.inner .typeError
      s!"can only concatenate {kindOf a} (not \"{r.kindName}\") to {kindOf a}"))
  | .mul, seq a xs, scalar (.int k) | .mul, scalar (.int k), seq a xs =>
    some (pure (seq a (Value.repeatList xs k)))
  | .mul, seq a xs, scalar (.bool t) | .mul, scalar (.bool t), seq a xs =>
    some (pure (seq a (if t then xs else [])))
  | .add, bytes a, bytes b => some (pure (bytes (a ++ b)))
  | .add, bytes _, _ =>
    if (rows? r).isSome then Option.none
    else some (throw (Fault.inner .typeError s!"can't concat {r.kindName} to bytes"))
  | .mul, bytes a, scalar (.int k) | .mul, scalar (.int k), bytes a =>
    some (pure (bytes (String.join (List.replicate k.toNat a))))
  | .bitOr, mapping xs, mapping ys => some (pure (mapping (ys.foldl (fun acc (k, v) => addEntry acc k v) xs)))
  | _, _, _ => Option.none

def binary (labels : Array Value) (op : BinOp) (l r : Datum) : Outcome Datum :=
  let n := labels.size
  match op, l, r with
  | .add, offset o, x | .add, x, offset o => shiftedBy o x
  | .sub, x, offset o =>
    if x matches offset _ then throw (unsupported "-" l r) else shiftedBy o.negated x
  | .mul, offset o, scalar (.int k) | .mul, scalar (.int k), offset o => pure (offset { o with n := o.n * k })
  | _, offset _, _ | _, _, offset _ => throw (unsupported (BinOp.symbol op) l r)
  | _, _, _ =>
  match op, l with
  | .mod, scalar (.str s) => percent labels s r
  | .matMul, _ => dot l r
  | _, _ =>
  match sequenceArith? op l r with
  | some result => result
  | Option.none =>
  let (l, r) := alignSeq l r
  if op == .shiftLeft || op == .shiftRight then shift op l r else
  match op.arith?, l, r with
  | some a, scalar x, scalar y => return scalar (← Value.arith a x y)
  | some a, element _ _, scalar _ | some a, scalar _, element _ _
  | some a, element _ _, element _ _ => elementArith a l r
  | some a, _, _ =>
    if (l.isComplex || r.isComplex) && l.complexSide && r.complexSide then
      complexRows ((rows? l).getD ((rows? r).getD n)) a l r
    else
    match l.side?, r.side? with
    | some x, some y => return column (← sideArith a n x y)
    | _, _ => throw (unsupported op.symbol l r)
  | Option.none, element x _, scalar y | Option.none, scalar x, element y _
  | Option.none, element x _, element y _ | Option.none, scalar x, scalar y =>
    if op == .bitOr || op == .bitAnd || op == .bitXor then return scalar (← scalarBits op x y)
    else throw (unsupported op.symbol l r)
  | Option.none, _, _ =>
    if op == .bitOr || op == .bitAnd || op == .bitXor then bits op l r
    else throw (unsupported op.symbol l r)

/-- Equality of data as values of the language: numbers by value, sequences of one kind by items,
dictionaries by entries. -/
def equal : Nat → Datum → Datum → Bool
  | 0, _, _ => false
  | fuel + 1, a, b =>
    match a, b with
    | scalar x, scalar y => (Value.compareBy .eq x y).toOption == some true
    | seq p xs, seq q ys =>
      p == q && xs.length == ys.length && (xs.zip ys).all fun (x, y) => equal fuel x y
    | bytes x, bytes y => x == y
    | mapping xs, mapping ys =>
      xs.length == ys.length && xs.all fun (k, v) =>
        ys.any fun (k', v') => sameKey 16 k k' && equal fuel v v'
    | setOf xs, setOf ys =>
      xs.length == ys.length && xs.all fun x => ys.any fun y => sameKey 16 x y
    | function f, function g => f == g
    | library f, library g => f == g
    | _, _ => false

def order : Nat → Datum → Datum → Outcome Ordering
  | 0, _, _ => pure .eq
  | fuel + 1, a, b =>
    match a, b with
    | scalar x, scalar y => do
      if ← (Value.compareBy .lt x y).mapError Fault.surfaced then pure .lt
      else if ← (Value.compareBy .gt x y).mapError Fault.surfaced then pure .gt
      else pure .eq
    | seq p xs, seq q ys =>
      if p == q then do
        let first ← (xs.zip ys).foldlM (fun acc (x, y) =>
          if acc != .eq then pure acc else order fuel x y) Ordering.eq
        pure (if first != .eq then first else Ord.compare xs.length ys.length)
      else throw (Fault.raised .typeError
        s!"'<' not supported between instances of '{a.kindName}' and '{b.kindName}'")
    | bytes x, bytes y => pure (Ord.compare x y)
    | _, _ => throw (Fault.raised .typeError
        s!"'<' not supported between instances of '{a.kindName}' and '{b.kindName}'")

def compare (op : CmpOp) (l r : Datum) : Outcome Datum := do
  let sizeOf (d : Datum) : Nat := match d with
    | seq _ items => items.length
    | _ => (rows? d).getD 0
  match l, r with
  | column _, seq _ _ | series _ _, seq _ _ | seq _ _, column _ | seq _ _, series _ _ =>
    if sizeOf l != sizeOf r then
      throw (Fault.inner .valueError
        s!"('Lengths must match to compare', ({sizeOf l},), ({sizeOf r},))")
  | _, _ => pure ()
  let (l, r) := alignSeq l r
  match l, r with
  | element x k, scalar y | scalar x, element y k | element x k, element y _ =>
    let b ← (Value.compareBy op x y).mapError Fault.surfaced
    return if k.isTimeLike then scalar (.bool b) else element (.bool b) .bool
  | column a, element v _ | series a _, element v _ => return truths a.label (← a.compareValue op v)
  | element v _, column b | element v _, series b _ => return truths b.label (← b.compareValue op.swap v)
  | column a, column b | series a _, series b _ | column a, series b _ | series a _, column b =>
    return truths a.label (← a.compareColumn op b)
  | column a, scalar v | series a _, scalar v => return truths a.label (← a.compareValue op v)
  | scalar v, column b | scalar v, series b _ => return truths b.label (← b.compareValue op.swap v)
  | scalar a, scalar b => return scalar (.bool (← (Value.compareBy op a b).mapError Fault.surfaced))
  | _, _ =>
    match op with
    | .eq => pure (scalar (.bool (equal 32 l r)))
    | .ne => pure (scalar (.bool !(equal 32 l r)))
    | _ =>
      let refuse : Outcome Datum := throw (Fault.raised .typeError
        s!"'{op.symbol}' not supported between instances of '{l.kindName}' and '{r.kindName}'")
      let ordered : Outcome Datum := do
        let o ← order 32 l r
        pure (scalar (.bool (match op with
          | .lt => o == .lt
          | .le => o != .gt
          | .gt => o == .gt
          | _ => o != .lt)))
      match l, r with
      | seq p _, seq q _ => if p != q then refuse else ordered
      | bytes _, bytes _ => ordered
      | _, _ => refuse

def negate : Datum → Outcome Datum
  | column c | series c _ =>
    if c.dtype == .complex128 then
      pure (column { c with cells := c.cells.map fun v => match v with
        | .complex re im => .complex (-re) (-im)
        | v => v })
    else return column (← c.negate)
  | scalar (.int n) => pure (scalar (.int (-n)))
  | scalar (.float x) => pure (scalar (.float (-x)))
  | scalar (.complex re im) => pure (scalar (.complex (-re) (-im)))
  | scalar (.bool b) => pure (scalar (.int (if b then -1 else 0)))
  | scalar (.span ns) => pure (scalar (.span (-ns)))
  | element (.span ns) dtype => pure (element (.span (-ns)) dtype)
  | element v dtype => do
    let c ← Column.negate { label := .none, dtype, cells := #[v] }
    return element (c.cell 0) c.dtype
  | d => throw (Fault.inner .typeError s!"bad operand type for unary -: '{d.kindName}'")

def plus : Datum → Outcome Datum
  | column c | series c _ => pure (column c)
  | scalar (.int n) => pure (scalar (.int n))
  | scalar (.float x) => pure (scalar (.float x))
  | scalar (.complex re im) => pure (scalar (.complex re im))
  | scalar (.span ns) => pure (scalar (.span ns))
  | element v dtype => pure (element v (if dtype == .bool then .bool else dtype))
  | scalar (.bool b) => pure (scalar (.int (if b then 1 else 0)))
  | d => throw (Fault.inner .typeError s!"bad operand type for unary +: '{d.kindName}'")

/-- `~d`: truths of a column flip, integers complement; a single truth is an integer here. -/
def invert : Datum → Outcome Datum
  | column c | series c _ => return column (← c.invert)
  | scalar (.int n) => pure (scalar (.int (-n - 1)))
  | scalar (.bool b) => pure (scalar (.int (if b then -2 else -1)))
  | element v dtype => do
    let c ← Column.invert { label := .none, dtype, cells := #[v] }
    return element (c.cell 0) c.dtype
  | d => throw (Fault.raised .typeError s!"bad operand type for unary ~: '{d.kindName}'")

end Datum

end PipeQuery.Calc
