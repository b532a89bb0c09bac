import PipeQuery.Calc.Datum
import PipeQuery.Calc.Promotion
import PipeQuery.Table.Math
import PipeQuery.Table.Convert
import PipeQuery.Table.Show
import PipeQuery.Text.Numeral
import PipeQuery.Regex.Replace
import PipeQuery.Table.Concat

/-!
# Calculations: the functions

The functions a formula calls by name, on columns and on single values: of numbers (`abs`,
`round` with ties to even, ...), of texts (`lower`, `substr`, `split`, ...; on anything but a
column of texts they act on its text), of instants (`year`, `strftime`, `todate`, ...) and of
missing values (`isnull`, `coalesce`, `nullif`). Arguments are bound as the formula language
binds them, with its messages.
-/

namespace PipeQuery.Calc

def functionNames : List String :=
  ["abs", "ceil", "floor", "round", "sqrt", "log", "log10", "exp", "pow", "lower", "upper", "trim",
   "ltrim", "rtrim", "len", "substr", "replace", "split", "year", "month", "day", "hour", "minute",
   "second", "dayofweek", "now", "strftime", "strptime", "tonumber", "tostring", "todate",
   "isnull", "isnotnull", "coalesce", "nullif"]

inductive Signature
  /-- Named parameters, the first `required` of them without a default. -/
  | params (names : List String) (required : Nat)
  | many
  /-- An array function of `inputs` values, by the name its failures give it. -/
  | array (name : String) (inputs : Nat)
  deriving Inhabited

def signature (name : String) : Signature :=
  match name with
  | "abs" => .array "absolute" 1
  | "ceil" | "floor" | "sqrt" | "log" | "log10" | "exp" => .array name 1
  | "pow" => .array "power" 2
  | "round" => .params ["x", "n"] 1
  | "substr" => .params ["x", "start", "length"] 2
  | "replace" => .params ["x", "old", "new"] 3
  | "split" => .params ["x", "sep", "idx"] 2
  | "now" => .params [] 0
  | "strftime" | "strptime" => .params ["x", "fmt"] 2
  | "coalesce" => .many
  | "nullif" => .params ["x", "val"] 2
  | _ => .params ["x"] 1

def calleeName : String := "EvalCommand.<lambda>"

/-- Parameter names quoted and listed: `'a'`, `'a' and 'b'`, `'a', 'b', and 'c'`. -/
def namesText (ns : List String) : String :=
  let q := ns.map fun n => "'" ++ n ++ "'"
  match q.reverse with
  | [] => ""
  | [a] => a
  | [b, a] => a ++ " and " ++ b
  | last :: rest => ", ".intercalate rest.reverse ++ ", and " ++ last

def counted (n : Nat) (noun : String) : String :=
  s!"{n} {noun}" ++ (if n == 1 then "" else "s")

/-- Binds arguments to a function's parameters, `none` for one left to its default. -/
def bind (sig : Signature) (args : List Datum) (kwargs : List (String × Datum)) :
    Outcome (List (Option Datum)) :=
  match sig with
  | .many =>
    match kwargs with
    | (k, _) :: _ => throw (Fault.raised .typeError s!"{calleeName}() got an unexpected keyword argument '{k}'")
    | [] => pure (args.map some)
  | .array name inputs =>
    match kwargs with
    | (k, _) :: _ => throw (Fault.raised .typeError s!"{name}() got an unexpected keyword argument '{k}'")
    | [] =>
      if args.length < inputs || args.length > inputs + 1 then
        throw (Fault.raised .typeError
          s!"{name}() takes from {inputs} to {inputs + 1} positional arguments but {args.length} were given")
      else if args.length == inputs + 1 then
        throw (Fault.raised .typeError "return arrays must be of ArrayType")
      else pure (args.map some)
  | .params names required => do
    let slots := names.mapIdx fun i _ => args[i]?
    let slots ← kwargs.foldlM (fun (slots : List (Option Datum)) (k, v) =>
      match names.idxOf? k with
      | none => throw (Fault.raised .typeError s!"{calleeName}() got an unexpected keyword argument '{k}'")
      | some i =>
        if i < args.length then
          throw (Fault.raised .typeError s!"{calleeName}() got multiple values for argument '{k}'")
        else pure (slots.set i (some v))) slots
    if args.length > names.length then
      let takes :=
        if required == names.length then counted names.length "positional argument"
        else s!"from {required} to {names.length} positional arguments"
      let given := if args.length == 1 then "1 was given" else s!"{args.length} were given"
      throw (Fault.raised .typeError s!"{calleeName}() takes {takes} but {given}")
    let missing := ((names.zip slots).take required).filterMap fun (n, s) =>
      if s.isNone then some n else none
    if !missing.isEmpty then
      let what := counted missing.length "required positional argument"
      throw (Fault.raised .typeError s!"{calleeName}() missing {what}: {namesText missing}")
    pure slots

def toWhole (d : Datum) : Outcome Int :=
  match d with
  | .scalar (.int n) => pure n
  | .scalar (.bool b) => pure (if b then 1 else 0)
  | .scalar (.float x) => Num.truncateFinite x
  | .scalar (.str s) =>
    match Text.readInt? s with
    | some n => pure n
    | none => throw (Fault.invalid (Text.intFailure s))
  | .column _ => throw (Fault.inner .typeError "cannot convert the series to <class 'int'>")
  | d => throw (Fault.raised .typeError
      s!"int() argument must be a string, a bytes-like object or a real number, not '{d.kindName}'")

def textOf (t : Table) (d : Datum) : String :=
  (d.texts t.index 32).1

def elementwise (f : UFunc) : Datum → Outcome Datum
  | .column c => return .column (← c.ufunc f)
  | .scalar v => return .scalar (← (f.onValue v).mapError Fault.surfaced)
  | .element v _ => do
    let r ← (f.onValue v).mapError Fault.surfaced
    pure (.element r (Column.infer .none #[r]).dtype)
  | .seq _ items => do
    let vs := (items.map fun x => match x with
      | .scalar v | .element v _ => v
      | x => x.toCell #[] 8).toArray
    let kind := (Operand.discover vs.toList).strong
    if kind == .text then throw (f.noLoop "StrDType")
    return .array (← (Operand.arrayOf kind vs).ufunc f) .values
  | d => throw (Fault.raised .typeError s!"bad operand type for abs(): '{d.kindName}'")

/-- `a ** b` on two numbers as arrays compute it: integers wrap at 64 bits, a double on either side
gives a double. -/
def powerCell (a b : Value) : Outcome Value :=
  match a.num?, b.num? with
  | some (.int x), some (.int y) =>
    if y < 0 then throw negativePower else pure (.int (wrapPow .int64 x y.toNat))
  | some x, some y => pure (.float (Float.pow x.toFloat y.toFloat))
  | _, _ => throw (Fault.inner .typeError
      s!"unsupported operand type(s) for ** or pow(): '{a.typeName}' and '{b.typeName}'")

def arrayKind : Datum → String
  | .scalar (.str _) => "StrDType"
  | .scalar (.float _) => "Float64DType"
  | .scalar (.bool _) => "BoolDType"
  | .scalar (.int _) => "Int64DType"
  | .column c => c.dtype.className
  | _ => "ObjectDType"

def power (n : Nat) (a b : Datum) : Outcome Datum := do
  let isText : Datum → Bool := fun d => match d with
    | .scalar (.str _) => true
    | .column c => c.dtype == .datetime || c.dtype == .duration
    | _ => false
  if isText a || isText b then
    let f : Fault := Fault.inner .ufuncTypeError
      s!"ufunc 'power' did not contain a loop with signature matching types (<class 'numpy.dtypes.{arrayKind a}'>, <class 'numpy.dtypes.{arrayKind b}'>) -> None"
    match a, b with
    | .scalar _, .scalar _ => throw (Fault.surfaced f)
    | _, _ => throw f
  match a, b with
  | .scalar x, .scalar y => return .scalar (← (powerCell x y).mapError Fault.surfaced)
  | _, _ =>
    match a.side?, b.side? with
    | some l, some r =>
      let label : Value := match a, b with
        | .column c, _ => c.label
        | _, .column c => c.label
        | _, _ => .none
      let cells ← (List.range n).mapM fun i => powerCell (l.cell i) (r.cell i)
      let loose := l.isLoose || r.isLoose
      let floats := cells.any fun v => match v with
        | .float _ => true
        | _ => false
      let dtype : DType := if loose then .object else if floats then .float64 else .int64
      return .column { label, dtype, cells := cells.toArray }
    | _, _ => throw (Datum.unsupported "** or pow()" a b)

def placesOf : Option Datum → Outcome Int
  | none => pure 0
  | some (.column _) => throw ambiguous
  | some (.scalar v) => if v.isMissing then pure 0 else toWhole (.scalar v)
  | some d => toWhole d

def roundOf (x : Datum) (places : Option Datum) : Outcome Datum := do
  let d ← placesOf places
  match x with
  | .column c => return .column (← c.roundTo d)
  | .scalar (.int n) => pure (.scalar (.int (roundInt n d)))
  | .scalar (.float y) => pure (.scalar (.float (Float.roundTo y d)))
  | .scalar (.bool b) => pure (.scalar (.bool b))
  | .scalar (.str _) => throw (Fault.inner .ufuncTypeError
      "ufunc 'rint' did not contain a loop with signature matching types <class 'numpy.dtypes.StrDType'> -> None")
  | d => throw (Fault.inner .typeError
      s!"loop of ufunc does not support argument 0 of type {d.kindName} which has no callable rint method")

/-- A text operation: on a column of texts each text, else the datum's text as a whole. -/
def onText (t : Table) (x : Datum) (each : String → Value) : Datum :=
  match x with
  | .column c => if c.textual then .column (c.mapText each) else .scalar (each (textOf t x))
  | d => .scalar (each (textOf t d))

def trimStart (s : String) : String :=
  String.ofList (s.toList.dropWhile Text.isBlank)

def trimEnd (s : String) : String :=
  String.ofList (s.toList.reverse.dropWhile Text.isBlank).reverse

def textColumn (x : Datum) : Outcome Column :=
  match x with
  | .column c =>
    if c.textual then pure c
    else throw (Fault.inner .attributeError "Can only use .str accessor with string values!")
  | d => throw (Fault.raised .attributeError s!"'{d.kindName}' object has no attribute 'str'")

/-- `substr(x, start, length)`: the texts from `start`, `length` characters long when a nonzero
length is given. -/
def substr (x start : Datum) (length : Option Datum) : Outcome Datum := do
  let bounded ← match length with
    | none => pure false
    | some d => d.truth
  let c ← textColumn x
  let a ← toWhole start
  let b ← match length, bounded with
    | some d, true => pure (some (a + (← toWhole d)))
    | _, _ => pure none
  return .column (c.mapText fun s => .str (Text.slice s a b))

def replaceIn (t : Table) (x old new : Datum) : Outcome Datum :=
  match x with
  | .column c =>
    if c.textual then
      match old, new with
      | .scalar (.str o), .scalar (.str w) => pure (.column (c.mapText fun s => .str (Text.replaceAll s o w)))
      | _, .scalar (.str _) => pure (.column (c.mapText fun _ => Value.nan))
      | _, _ => throw (Fault.inner .typeError "repl must be a string or callable")
    else plain
  | _ => plain
where
  plain : Outcome Datum :=
    match old, new with
    | .scalar (.str o), .scalar (.str w) => pure (.scalar (.str (Text.replaceAll (textOf t x) o w)))
    | .scalar (.str _), d => throw (Fault.raised .typeError s!"replace() argument 2 must be str, not {d.kindName}")
    | d, _ => throw (Fault.raised .typeError s!"replace() argument 1 must be str, not {d.kindName}")

def itemAt {α : Type} (xs : List α) (i : Int) : Option α :=
  let n : Int := xs.length
  if -n ≤ i && i < n then xs[(if i < 0 then i + n else i).toNat]? else none

/-- `split(x, sep, idx)`: the piece at `idx` of each text cut at `sep`; NaN past the pieces. -/
def splitAt (t : Table) (x sep : Datum) (idx : Option Datum) : Outcome Datum := do
  let index : Datum := idx.getD (.scalar (.int 0))
  match x with
  | .column c =>
    if c.textual then
      let cut ← match sep with
        | .scalar (.str s) =>
          if s.length == 1 then pure fun (text : String) => (Text.splitText text s).map some
          else
            match Regex.compile s false with
            | .ok re => pure fun (text : String) => re.split text none
            | .error e => throw (e.fault s)
        | d => throw (Fault.inner .typeError s!"object of type '{d.kindName}' has no len()")
      let i ← toWhole index
      let cells := c.cells.map fun v => match v with
        | .str s => match itemAt (cut s) i with
          | some (some piece) => Value.str piece
          | some none => Value.none
          | none => Value.nan
        | v => if v.isMissing then v else Value.nan
      if c.cells.all (·.isMissing) then return .column { c with dtype := .object, cells }
      else
        let (dtype, cells) := inferCells cells
        return .column { c with dtype, cells }
    else plain
  | _ => plain
where
  plain : Outcome Datum := do
    let text := textOf t x
    let pieces ← match sep with
      | .scalar (.str "") => throw (Fault.invalid "empty separator")
      | .scalar (.str s) => pure (Text.splitText text s)
      | .scalar .none => pure (Text.words text)
      | d => throw (Fault.raised .typeError s!"must be str or None, not {d.kindName}")
    let i ← toWhole (idx.getD (.scalar (.int 0)))
    match itemAt pieces i with
    | some p => pure (.scalar (.str p))
    | none => throw (Fault.raised .indexError "list index out of range")

def instantsOf (x : Datum) (coerce : Bool) (fmt : Option String) : Outcome Datum :=
  match x with
  | .column c => return .column (← c.toInstants coerce fmt)
  | .scalar .none => pure (.scalar .none)
  | .scalar v => return .scalar (← v.toInstant coerce fmt)
  | d => throw (Fault.inner .typeError s!"<class '{d.kindName}'> is not convertible to datetime")

def noFields (d : Datum) : Fault :=
  Fault.raised .attributeError s!"'{d.kindName}' object has no attribute 'dt'"

def fieldOf (f : Column.TimeField) (x : Datum) : Outcome Datum := do
  match ← instantsOf x false none with
  | .column c => pure (.column (c.timeField f))
  | d => throw (noFields d)

def patternOf : Datum → Outcome String
  | .scalar (.str s) => pure s
  | d => throw (Fault.inner .typeError s!"expected str, got {d.kindName}")

/-- `coalesce(a, b, …)`: each row's first present value, in the arguments' common kind. -/
def coalesce (t : Table) (args : List Datum) : Outcome Datum := do
  if args.isEmpty then throw (Fault.inner .valueError "No objects to concatenate")
  let n := t.rowCount
  let zeroAt := t.index.findIdx? fun v => match v with
    | .int 0 => true
    | _ => false
  let cols ← args.mapM fun d => match d with
    | .column c => pure c
    | .scalar v =>
      let (dtype, cells) := inferCells #[v]
      let cell := cells.getD 0 v
      if n == 1 && zeroAt == some 0 then pure { label := .none, dtype, cells }
      else
        let cells := (Array.range n).map fun i => if zeroAt == some i then cell else Value.nan
        let (dtype, cells) := if dtype == .object then (.object, cells) else inferCells cells
        pure { label := .none, dtype, cells }
    | d => throw (Fault.inner .typeError s!"cannot concatenate object of type '{d.kindName}'")
  let common := (cols.map (·.dtype)).foldl DType.common (cols.headD default).dtype
  let first := (cols.headD default).label
  let rowOf (i : Nat) : List Value :=
    let cells := cols.map (·.cell i)
    cells.mapIdx fun k v => if v.isMissing then ((cells.drop k).find? (!·.isMissing)).getD v else v
  if common != .object then
    let cells := (Array.range n).map fun i => ((rowOf i).headD Value.nan).storedAs common
    return .column { label := first, dtype := common, cells }
  else
    let rows := (Array.range n).map fun i => inferCells (rowOf i).toArray
    let kinds := rows.map (·.1)
    let cells := rows.map fun (_, cs) => cs.getD 0 .none
    let kind := kinds.getD 0 .object
    if kinds.all (· == kind) then return .column { label := first, dtype := kind, cells }
    else return .column { label := first, dtype := .object, cells }

def nullif (x v : Datum) : Outcome Datum := do
  match x with
  | .column c =>
    let keep ← match ← Datum.compare .ne x v with
      | .column m => pure (m.cells.map Value.truthy)
      | .scalar b => pure (Array.replicate c.size b.truthy)
      | _ => pure (Array.replicate c.size true)
    if keep.all id then return .column c
    let pick (blank : Value) := (c.cells.zip keep).map fun (cell, k) => if k then cell else blank
    match c.dtype with
    | .int64 | .int32 | .int16 | .int8 | .uint64 | .uint32 | .uint16 | .uint8 =>
      return .column { c with dtype := .float64, cells := (pick Value.nan).map Value.asFloat }
    | .bool => return .column { c with dtype := .object, cells := pick Value.nan }
    | .datetime | .duration => return .column { c with cells := pick .nat }
    | _ => return .column { c with cells := pick Value.nan }
  | d => throw (Fault.raised .attributeError s!"'{d.kindName}' object has no attribute 'where'")

def callFunction (t : Table) (name : String) (args : List Datum) (kwargs : List (String × Datum)) :
    Outcome Datum := do
  let slots ← bind (signature name) args kwargs
  let opt (i : Nat) : Option Datum := (slots[i]?).getD none
  let arg (i : Nat) : Datum := (opt i).getD (.scalar .none)
  let x := arg 0
  let lowerText := fun (s : String) => Value.str (Text.lower s)
  match name with
  | "abs" => elementwise .abs x
  | "ceil" => elementwise .ceil x
  | "floor" => elementwise .floor x
  | "sqrt" => elementwise .sqrt x
  | "log" => elementwise .log x
  | "log10" => elementwise .log10 x
  | "exp" => elementwise .exp x
  | "pow" => power t.rowCount x (arg 1)
  | "round" => roundOf x (opt 1)
  | "lower" => pure (onText t x lowerText)
  | "upper" => pure (onText t x fun s => .str (Text.upper s))
  | "trim" => pure (onText t x fun s => .str (Text.trimBlanks s))
  | "ltrim" => pure (onText t x fun s => .str (trimStart s))
  | "rtrim" => pure (onText t x fun s => .str (trimEnd s))
  | "len" =>
    match x with
    | .column c => if c.textual then pure (.column c.textLength) else pure (.scalar (.int (textOf t x).length))
    | d => pure (.scalar (.int (textOf t d).length))
  | "substr" => substr x (arg 1) (opt 2)
  | "replace" => replaceIn t x (arg 1) (arg 2)
  | "split" => splitAt t x (arg 1) (opt 2)
  | "year" => fieldOf .year x
  | "month" => fieldOf .month x
  | "day" => fieldOf .day x
  | "hour" => fieldOf .hour x
  | "minute" => fieldOf .minute x
  | "second" => fieldOf .second x
  | "dayofweek" => fieldOf .dayOfWeek x
  | "now" => throw (Fault.inner .valueError "the current time is not known")
  | "strftime" =>
    match ← instantsOf x false none with
    | .column c => return .column (c.formatInstants (← patternOf (arg 1)))
    | d => throw (noFields d)
  | "strptime" => instantsOf x true (some (← patternOf (arg 1)))
  | "todate" => instantsOf x true none
  | "tonumber" =>
    match x with
    | .column c => pure (.column c.toNumbers)
    | .scalar v => pure (.scalar v.toNumber)
    | _ => pure (.scalar Value.nan)
  | "tostring" =>
    match x with
    | .column c => pure (.column c.toTexts)
    | d => throw (Fault.raised .attributeError s!"'{d.kindName}' object has no attribute 'astype'")
  | "isnull" =>
    match x with
    | .column c => pure (Datum.truths c.label (c.cells.map (·.isMissing)))
    | .scalar v => pure (.scalar (.bool v.isMissing))
    | _ => pure (.scalar (.bool false))
  | "isnotnull" =>
    match x with
    | .column c => pure (Datum.truths c.label (c.cells.map (!·.isMissing)))
    | .scalar v => pure (.scalar (.bool !v.isMissing))
    | _ => pure (.scalar (.bool true))
  | "coalesce" => coalesce t args
  | "nullif" => nullif x (arg 1)
  | _ => throw (Fault.raised .nameError s!"name '{name}' is not defined")

end PipeQuery.Calc
