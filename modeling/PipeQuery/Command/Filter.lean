import PipeQuery.Command.Args
import PipeQuery.Table.Compare
import PipeQuery.Table.Math
import PipeQuery.Table.Arith
import PipeQuery.Table.Show
import PipeQuery.Regex.Replace

/-!
# `where` and `filter`

`where <condition>` keeps the rows for which the condition holds and labels them afresh. The
condition is split at ` OR `, then ` AND ` outside quotes and brackets; then come `NOT `,
brackets, `IN`, `LIKE`, `isnull`, and last a comparison `left op right` with the first operator
found. A comparison of two single values gives one truth: it counts for every row under `OR` or
`AND`, negated becomes the integer `~b`, and as the whole condition it fails.
-/

namespace PipeQuery

/-- An operand of a condition: a whole column, or one value. -/
inductive Operand
  | column (c : Column)
  | value (v : Value)
  deriving Inhabited

/-- What a condition gives: a truth for each row, or a single value. -/
inductive Truth
  | rows (bs : Array Bool)
  | single (v : Value)
  deriving Inhabited

namespace Truth

/-- `OR` of two conditions' truths; a single value counts for every row, an integer by its bits. -/
def or (acc : Array Bool) : Truth → Array Bool
  | .rows bs => (acc.zip bs).map fun (a, b) => a || b
  | .single (.int n) => acc.map fun a => a || n != 0
  | .single v => acc.map fun a => a || v.truthy

/-- `AND` of two conditions' truths; an integer by its bits, so only its lowest bit counts against a
truth. -/
def and (acc : Array Bool) : Truth → Array Bool
  | .rows bs => (acc.zip bs).map fun (a, b) => a && b
  | .single (.int n) => acc.map fun a => a && n % 2 != 0
  | .single v => acc.map fun a => a && v.truthy

/-- Negation: row truths flip; a single value becomes its bitwise complement. -/
def not : Truth → Truth
  | .rows bs => .rows (bs.map (!·))
  | .single (.bool b) => .single (.int (-(if b then 1 else 0) - 1))
  | .single (.int n) => .single (.int (-n - 1))
  | .single v => .single (.bool (!v.truthy))

end Truth

/-- A column receiving a result's values in place, keeping its type if it holds them, else one both
fit. -/
def Column.receive (out : Column) (result : Column) : Column :=
  let vals := result.cells
  let whole (v : Value) : Option Int := match v with
    | .int n => some n
    | .bool _ => none
    | .float x =>
      if x.isNaN || x.isInf then none
      else
        let n := Num.truncate x
        if Num.intToFloat n == x then some n else none
    | _ => none
  let asObject : Column := { out with dtype := .object, cells := vals }
  match out.dtype with
  | .int64 | .int32 | .int16 | .int8 | .uint64 | .uint32 | .uint16 | .uint8 =>
    let ints := vals.map whole
    if result.dtype != .bool && ints.all fun n => (n.map out.dtype.holdsInt).getD false then
      { out with cells := ints.map fun n => .int (n.getD 0) }
    else if result.dtype == .float64 then { out with dtype := .float64, cells := vals.map Value.asFloat }
    else if result.dtype.isInteger then
      match promoteInts out.dtype result.dtype with
      | some d => { out with dtype := d, cells := vals }
      | none => { out with dtype := .float64, cells := vals.map Value.asFloat }
    else asObject
  | .float64 =>
    if result.dtype.isNumeric then { out with cells := vals.map Value.asFloat } else asObject
  | .bool => if result.dtype == .bool then { out with cells := vals } else asObject
  | _ => asObject

/-- A step of evaluating a condition: it reads the table, may change a column in place, and may fail
keeping that. -/
abbrev Probe := ExceptT Fault (StateM Table)

def Probe.lift {α : Type} (x : Outcome α) : Probe α :=
  match x with
  | .ok a => pure a
  | .error e => throw e

namespace Condition

/-- Whether the character before position `i` is a backslash, which keeps a quote from counting. -/
def escapedAt (cs : Array Char) (i : Nat) : Bool :=
  i > 0 && cs[i - 1]? == some '\\'

structure Scan where
  quote : Option Char := none
  depth : Int := 0

def Scan.next (s : Scan) (cs : Array Char) (i : Nat) : Scan :=
  let c := cs.getD i ' '
  let s :=
    if (c == '"' || c == '\'') && !escapedAt cs i then
      match s.quote with
      | none => { s with quote := some c }
      | some q => if q == c then { s with quote := none } else s
    else s
  if s.quote.isNone then
    if c == '(' then { s with depth := s.depth + 1 }
    else if c == ')' then { s with depth := s.depth - 1 } else s
  else s

def standsAt (cs : Array Char) (i : Nat) (word : List Char) : Bool :=
  (cs.extract i (i + word.length)).toList == word

/-- Splits a condition at `word` (in upper case) outside quotes and brackets; an empty last part is
dropped. -/
def splitTop (expr : String) (word : String) : List String :=
  let cs := expr.toList.toArray
  let up := (Text.upper expr).toList.toArray
  let w := word.toList
  let rec go : Nat → Nat → Scan → List Char → List String → List String
    | 0, _, _, cur, parts => (if cur.isEmpty then parts else String.ofList cur.reverse :: parts).reverse
    | fuel + 1, i, s, cur, parts =>
      if i ≥ cs.size then
        (if cur.isEmpty then parts else String.ofList cur.reverse :: parts).reverse
      else
        let s := s.next cs i
        if s.quote.isNone && s.depth == 0 && standsAt up i w then
          go fuel (i + w.length) s [] (String.ofList cur.reverse :: parts)
        else go fuel (i + 1) s (cs.getD i ' ' :: cur) parts
  go (cs.size + 1) 0 {} [] []

/-- The first position from `start` of an operator outside quotes and brackets, in upper case. -/
def operatorFrom (start : Nat) (expr : String) (op : String) : Option Nat :=
  let cs := expr.toList.toArray
  let up := (Text.upper expr).toList.toArray
  let w := (Text.upper op).toList
  let rec go : Nat → Nat → Scan → Option Nat
    | 0, _, _ => none
    | fuel + 1, i, s =>
      if i + w.length > cs.size then none
      else
        let s := s.next cs i
        if s.quote.isNone && s.depth == 0 && standsAt up i w then
          if op == "=" && i > 0 && "!><".contains (cs.getD (i - 1) ' ') then go fuel (i + 1) s
          else if op == "=" && cs[i + 1]? == some '=' then go fuel (i + 1) s
          else if i < start then go fuel (i + 1) s
          else some i
        else go fuel (i + 1) s
  go (cs.size + 1) 0 {}

/-- The position of the first operator outside quotes and brackets, unless it is the first character
(then none). -/
def findOperator (expr : String) (op : String) : Option Nat :=
  match operatorFrom 0 expr op with
  | some 0 => none
  | r => r

def wrapped (expr : String) : Bool :=
  let cs := expr.toList
  expr.startsWith "(" && expr.endsWith ")" &&
    let rec go : List Char → Int → Nat → Bool
      | [], _, _ => true
      | c :: rest, depth, i =>
        let depth := if c == '(' then depth + 1 else if c == ')' then depth - 1 else depth
        if depth == 0 && i + 1 < cs.length then false else go rest depth (i + 1)
    go cs 0 0

/-- Text between matching quotes at both ends, quotes removed; a lone quote gives the empty text. -/
def unquote? (s : String) : Option String :=
  if (s.startsWith "\"" && s.endsWith "\"") || (s.startsWith "'" && s.endsWith "'") then
    some (String.ofList ((s.toList.drop 1).dropLast))
  else none

/-- A value in a list or a function's arguments: a quoted text, a number, else the text. -/
def readLiteral (s : String) : Value :=
  match unquote? s with
  | some t => .str t
  | none => (Command.wordNumber? s).getD (.str s)

/-- The right side of a comparison: a quoted text, a number, a column, else the text itself. -/
def readRight (t : Table) (s : String) : Operand :=
  let s := Text.trimBlanks s
  match unquote? s with
  | some q => .value (.str q)
  | none =>
    match Command.wordNumber? s with
    | some v => .value v
    | none =>
      match t.find? s with
      | some c => .column c
      | none => .value (.str s)

/-- The regular expression of a `LIKE` pattern: `%` any text, `_` one character, anchored, other
specials escaped. -/
def likePattern (p : String) : String :=
  "^" ++ String.join (p.toList.map fun c =>
    if c == '%' then ".*"
    else if c == '_' then "."
    else if "\\.^$+?{}[]|()".contains c then "\\" ++ c.toString
    else c.toString) ++ "$"

/-- Runs a fixed pattern at the start of a text, in any case; the groups it captured. -/
def matchGroups (pattern : String) (s : String) : Option (List (Option String)) :=
  match Regex.compile pattern true with
  | .ok re =>
    let text := s.toList.toArray
    (re.matchFrom text 0 false false).map fun h =>
      (List.range re.groups).map fun i => h.group? text (i + 1)
  | .error _ => none

def column (t : Table) (name : String) : Outcome Column :=
  match t.find? name with
  | some c => pure c
  | none => throw (Fault.invalid s!"Field not found: {name}")

def memberOf (c : Column) (vs : List Value) : Array Bool :=
  if c.dtype == .datetime then
    let stamps := vs.map Value.instant?
    if stamps.all Option.isSome then
      c.cells.map fun x => match x with
        | .time ns => stamps.contains (some ns)
        | _ => false
    else c.cells.map fun _ => false
  else c.cells.map fun x => !x.isMissing && vs.any (Value.same x)

/-- A function applied to a column without text operations, as text: the whole column as text. -/
def listingOf (t : Table) (c : Column) : String :=
  c.listing t.index

def ufuncOf? : String → Option UFunc
  | "abs" => some .abs
  | "floor" => some .floor
  | "ceil" => some .ceil
  | "sqrt" => some .sqrt
  | _ => none

/-- An array function of an operand writing into the column `out`, which the condition then reads.
-/
def applyInto (f : UFunc) (x : Operand) (out : Column) : Outcome Column := do
  let result ← match x with
    | .column c => Column.ufunc f c
    | .value v => do
      let r ← f.onValue v
      let dtype : DType := match r with
        | .int _ => .int64
        | .float _ => .float64
        | .bool _ => .bool
        | _ => .object
      pure { out with dtype, cells := out.cells.map fun _ => r }
  return out.receive result

def applyFunction (t : Table) (name : String) (args : List Operand) : Outcome Operand :=
  match name, args with
  | "abs", [.column c] => return .column (← c.ufunc .abs)
  | "floor", [.column c] => return .column (← c.ufunc .floor)
  | "ceil", [.column c] => return .column (← c.ufunc .ceil)
  | "sqrt", [.column c] => return .column (← c.ufunc .sqrt)
  | "abs", [.value v] => return .value (← UFunc.abs.onValue v)
  | "floor", [.value v] => return .value (← UFunc.floor.onValue v)
  | "ceil", [.value v] => return .value (← UFunc.ceil.onValue v)
  | "sqrt", [.value v] => return .value (← UFunc.sqrt.onValue v)
  | "len", [.column c] =>
    if c.textual then pure (.column c.textLength)
    else pure (.value (.int (listingOf t c).length))
  | "len", [.value v] => pure (.value (.int v.text.length))
  | "lower", [.column c] =>
    if c.textual then pure (.column (c.mapText fun s => .str (Text.lower s)))
    else pure (.value (.str (Text.lower (listingOf t c))))
  | "lower", [.value v] => pure (.value (.str (Text.lower v.text)))
  | "upper", [.column c] =>
    if c.textual then pure (.column (c.mapText fun s => .str (Text.upper s)))
    else pure (.value (.str (Text.upper (listingOf t c))))
  | "upper", [.value v] => pure (.value (.str (Text.upper v.text)))
  | "round", x :: rest => do
    let places : Int ← match rest with
      | [] => pure 0
      | [.value (.int n)] => pure n
      | [.value (.float y)] =>
        if y.isNaN then pure 0
        else if y.isInf then throw (Fault.inner .overflowError "cannot convert float infinity to integer")
        else pure (Num.truncate y)
      | [.value (.str s)] => Command.textToInt s
      | [.value (.bool b)] => pure (if b then 1 else 0)
      | [.column _] => throw (Fault.inner .valueError
          "The truth value of a Series is ambiguous. Use a.empty, a.bool(), a.item(), a.any() or a.all().")
      | _ => throw (Fault.raised .typeError
          s!"FilterCommand.<lambda>() takes from 1 to 2 positional arguments but {rest.length + 1} were given")
    match x with
    | .column c => return .column (← c.roundTo places)
    | .value (.int n) => return .value (.int (roundInt n places))
    | .value (.float y) => return .value (.float (Float.roundTo y places))
    | .value (.bool b) => return .value (.bool b)
    | .value _ => throw (Fault.inner .ufuncTypeError "")
  | "len", _ | "lower", _ | "upper", _ =>
    let k := args.length
    throw (Fault.raised .typeError
      s!"FilterCommand.<lambda>() takes 1 positional argument but {k} were given")
  | _, _ => throw (Fault.inner .typeError s!"{name}() takes a different number of arguments")

def compare (op : CmpOp) : Operand → Operand → Outcome Truth
  | .column a, .column b => return .rows (← a.compareColumn op b)
  | .column a, .value v => return .rows (← a.compareValue op v)
  | .value v, .column b => return .rows (← b.compareValue op.swap v)
  | .value a, .value b => return .single (.bool (← Value.compareBy op a b))

def readLeft (s : String) : Probe Operand := do
  let t ← get
  let s := Text.trimBlanks s
  match matchGroups "(\\w+)\\s*\\(\\s*(.+?)\\s*\\)$" s with
  | some [some f, some argText] =>
    let f := Text.lower f
    if ["abs", "len", "lower", "upper", "round", "floor", "ceil", "sqrt"].contains f then
      let args : List Operand := (argText.splitOn ",").map fun a =>
        let a := Text.trimBlanks a
        match t.find? a with
        | some c => Operand.column c
        | none => .value (readLiteral a)
      match ufuncOf? f, args with
      | some u, [x, .column out] =>
        let c ← Probe.lift (applyInto u x out)
        set (t.put c)
        return .column c
      | _, _ => return ← Probe.lift (applyFunction t f args)
  | _ => pure ()
  match t.find? s with
  | some c => pure (.column c)
  | none => throw (Fault.invalid s!"Field not found: {s}")

def operators : List (String × CmpOp) :=
  [(">=", .ge), ("<=", .le), ("!=", .ne), ("==", .eq), ("=", .eq), (">", .gt), ("<", .lt)]

def comparison (expr : String) : Probe Truth := do
  let cs := expr.toList
  match operators.findSome? fun (w, op) => (findOperator expr w).map (w, op, ·) with
  | some (w, op, i) =>
    let left := Text.trimBlanks (String.ofList (cs.take i))
    let right := Text.trimBlanks (String.ofList (cs.drop (i + w.length)))
    let l ← readLeft left
    Probe.lift (compare op l (readRight (← get) right))
  | none => throw (Fault.invalid s!"Cannot parse expression: {expr}")

def evaluate : Nat → String → Probe Truth
  | 0, _ => throw (Fault.inner .recursionError "maximum recursion depth exceeded")
  | fuel + 1, expr => do
    let n := (← get).rowCount
    let expr := Text.trimBlanks expr
    let ors := splitTop expr " OR "
    if ors.length > 1 then
      return .rows (← ors.foldlM (fun acc part => do
        return Truth.or acc (← evaluate fuel (Text.trimBlanks part))) (Array.replicate n false))
    let ands := splitTop expr " AND "
    if ands.length > 1 then
      return .rows (← ands.foldlM (fun acc part => do
        return Truth.and acc (← evaluate fuel (Text.trimBlanks part))) (Array.replicate n true))
    if (Text.upper expr).startsWith "NOT " then
      return (← evaluate fuel (Text.trimBlanks (String.ofList (expr.toList.drop 4)))).not
    if wrapped expr then
      return ← evaluate fuel (String.ofList ((expr.toList.drop 1).dropLast))
    let listed (s : String) : List Value :=
      (s.splitOn ",").map fun v => readLiteral (Text.trimBlanks v)
    match matchGroups "(\\w+)\\s+NOT\\s+IN\\s*\\(([^)]+)\\)" expr with
    | some [some f, some vs] => return .rows ((memberOf (← Probe.lift (column (← get) f)) (listed vs)).map (!·))
    | _ => pure ()
    match matchGroups "(\\w+)\\s+IN\\s*\\(([^)]+)\\)" expr with
    | some [some f, some vs] => return .rows (memberOf (← Probe.lift (column (← get) f)) (listed vs))
    | _ => pure ()
    match matchGroups "(\\w+)\\s+LIKE\\s+(?:[\"']([^\"']+)[\"']|(\\S+))" expr with
    | some (some f :: quoted :: bare :: _) =>
      let pattern := (quoted.orElse fun _ => bare).getD ""
      let c ← Probe.lift (column (← get) f)
      match Regex.compile (likePattern pattern) false with
      | .ok re =>
        return .rows (c.texts.map fun s => (re.matchStart? s).isSome)
      | .error e => throw (e.fault (likePattern pattern))
    | _ => pure ()
    match matchGroups "isnull\\s*\\(\\s*(\\w+)\\s*\\)" expr with
    | some [some f] => return .rows ((← Probe.lift (column (← get) f)).cells.map (·.isMissing))
    | _ => pure ()
    match matchGroups "isnotnull\\s*\\(\\s*(\\w+)\\s*\\)" expr with
    | some [some f] => return .rows ((← Probe.lift (column (← get) f)).cells.map (!·.isMissing))
    | _ => pure ()
    comparison expr

end Condition

namespace Command

/-- Keeps the rows where a condition holds, labelled afresh, and the table as the condition left it.
-/
def filterInPlace (expr : String) (t : Table) : Outcome Table × Table :=
  if t.isEmpty || expr.isEmpty then (pure t, t)
  else
    let (res, t) := (Condition.evaluate (expr.length + 2) expr).run.run t
    match res with
    | .ok (.rows bs) => (pure (t.keep bs).resetIndex, t)
    | .ok (.single v) => (throw (Fault.inner .keyError v.repr), t)
    | .error e => (throw e, t)

def filter (expr : String) (t : Table) : Outcome Table :=
  (filterInPlace expr t).1

end Command

end PipeQuery
