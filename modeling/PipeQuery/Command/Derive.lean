import PipeQuery.Calc.Eval
import PipeQuery.Command.Filter
import PipeQuery.Catalog

/-!
# `eval`

`eval f = formula, …` sets columns one after the other, each formula seeing the columns set
before it. A formula is read from the outside in: a condition (split at ` OR ` and ` AND `, then
a comparison), `if(c, a, b)`, `case(c1, v1, …, default)`, a function of the library, and else a
formula of the calculation language (`Calc.run`). A single value counts for every row. A table
without rows or columns stays as it is.
-/

namespace PipeQuery.Derive

open Calc

def balanced (s : String) : Bool :=
  let cs := s.toList.toArray
  let rec go : Nat → Nat → Condition.Scan → Bool
    | 0, _, st => st.depth == 0
    | fuel + 1, i, st =>
      if i ≥ cs.size then st.depth == 0
      else
        let st := st.next cs i
        if st.depth < 0 then false else go fuel (i + 1) st
  go (cs.size + 1) 0 {}

/-- Splits at commas outside quotes and brackets, trimming parts; a last part empty before trimming
is dropped. -/
def splitArgs (s : String) : List String :=
  let cs := s.toList.toArray
  let rec go : Nat → Nat → Condition.Scan → List Char → List String → List String
    | 0, _, _, cur, acc => (if cur.isEmpty then acc else Text.trimBlanks (String.ofList cur.reverse) :: acc).reverse
    | fuel + 1, i, st, cur, acc =>
      if i ≥ cs.size then
        (if cur.isEmpty then acc else Text.trimBlanks (String.ofList cur.reverse) :: acc).reverse
      else
        let c := cs.getD i ' '
        let st := st.next cs i
        if c == ',' && st.quote.isNone && st.depth == 0 then
          go fuel (i + 1) st [] (Text.trimBlanks (String.ofList cur.reverse) :: acc)
        else go fuel (i + 1) st (c :: cur) acc
  go (cs.size + 1) 0 {} [] []

/-- Splits at commas outside brackets (quotes are not looked at); an empty last part is dropped. -/
def splitPlain (s : String) : List String :=
  let rec go : List Char → Int → List Char → List String → List String
    | [], _, cur, acc => (if cur.isEmpty then acc else String.ofList cur.reverse :: acc).reverse
    | c :: rest, depth, cur, acc =>
      if c == '(' then go rest (depth + 1) (c :: cur) acc
      else if c == ')' then go rest (depth - 1) (c :: cur) acc
      else if c == ',' && depth == 0 then go rest depth [] (String.ofList cur.reverse :: acc)
      else go rest depth (c :: cur) acc
  go s.toList 0 [] []

/-- The arguments of the call a formula begins with, split by `splitArgs`; `none` when it is not
closed. -/
def callArgs? (expr : String) : Option (List String) :=
  let expr := Text.trimBlanks expr
  let cs := expr.toList.toArray
  match cs.findIdx? (· == '(') with
  | none => none
  | some start =>
    let rec go : Nat → Nat → Condition.Scan → Option (List String)
      | 0, _, _ => none
      | fuel + 1, i, st =>
        if i ≥ cs.size then none
        else
          let c := cs.getD i ' '
          let st := st.next cs i
          if c == ')' && st.quote.isNone && st.depth == 0 then
            some (splitArgs (String.ofList (cs.extract (start + 1) i).toList))
          else go fuel (i + 1) st
    go (cs.size + 1) start {}

def numberWord? (s : String) : Option Value :=
  if s.contains '.' then (Text.readFloat? s).map Value.float else (Text.readInt? s).map Value.int

/-- A library function's argument in a formula: a quoted text, a column, a number, else the text. -/
def readArg (t : Table) (arg : String) : Datum :=
  let arg := Text.trimBlanks arg
  match Condition.unquote? arg with
  | some s => .scalar (.str s)
  | none =>
    match t.find? arg with
    | some c => .column c
    | none =>
      match numberWord? arg with
      | some v => .scalar v
      | none => .scalar (.str arg)

/-- One side of a comparison: a quoted text, a column, a number, a computable formula, or else the
text. -/
def operand (t : Table) (s : String) : Datum :=
  let s := Text.trimBlanks s
  match Condition.unquote? s with
  | some q => .scalar (.str q)
  | none =>
    match t.find? s with
    | some c => .column c
    | none =>
      match numberWord? s with
      | some v => .scalar v
      | none =>
        if s.toList.any (fun c => "(+-*/".contains c) then
          match Calc.run t s with
          | .ok d => d
          | .error _ => .scalar (.str s)
        else .scalar (.str s)

def hasOperator (expr : String) : Bool :=
  Condition.operators.any fun (w, _) => (Condition.operatorFrom 0 expr w).isSome

def comparison (t : Table) (expr : String) : Outcome Datum := do
  let expr := Text.trimBlanks expr
  let cs := expr.toList
  match Condition.operators.findSome? fun (w, op) => (Condition.operatorFrom 0 expr w).map (w, op, ·) with
  | some (w, op, i) =>
    let left := operand t (String.ofList (cs.take i))
    let right := operand t (String.ofList (cs.drop (i + w.length)))
    let r ← Datum.compare op left right
    match r with
    | .scalar (.bool b) => pure (.column (Datum.spread .none t.rowCount (.bool b)))
    | r => pure r
  | none => throw (Fault.invalid s!"Cannot evaluate condition: {expr}")

/-- A condition of ` OR `, ` AND ` and comparisons, or `none` when the formula is none. -/
def condition (t : Table) : Nat → String → Outcome (Option Datum)
  | 0, _ => throw (Fault.inner .recursionError "maximum recursion depth exceeded")
  | fuel + 1, expr => do
    let expr := Text.trimBlanks expr
    let expr :=
      if expr.startsWith "(" && expr.endsWith ")" then
        let inner := String.ofList (expr.toList.drop 1).dropLast
        if balanced inner then Text.trimBlanks inner else expr
      else expr
    let part (s : String) : Outcome Datum := do
      match ← condition t fuel s with
      | some d => pure d
      | none => comparison t s
    let split (word : String) (op : BinOp) : Option (Outcome Datum) :=
      (Condition.operatorFrom 0 expr word).map fun i => do
        let cs := expr.toList
        let l ← part (Text.trimBlanks (String.ofList (cs.take i)))
        let r ← part (Text.trimBlanks (String.ofList (cs.drop (i + word.length))))
        Datum.bits op l r
    match split " OR " .bitOr with
    | some r => return some (← r)
    | none =>
      match split " AND " .bitAnd with
      | some r => return some (← r)
      | none => if hasOperator expr then return some (← comparison t expr) else return none

def rowTruths (n : Nat) : Datum → Array Bool
  | .column c | .series c _ => c.cells.map Value.truthy
  | .scalar v | .element v _ => Array.replicate n v.truthy
  | .seq _ items => Array.replicate n !items.isEmpty
  | _ => Array.replicate n true

def sideKind : Datum → DType
  | .column c | .series c _ => c.dtype
  | .element _ dtype => dtype
  | _ => .object

def cellAt (d : Datum) (i : Nat) : Value :=
  match d with
  | .column c | .series c _ => c.cell i
  | .scalar v | .element v _ => v
  | _ => .none

/-- `if(c, a, b)` over `n` rows: the sides' common kind, each row from the side its truth picks. -/
def choose (n : Nat) (c a b : Datum) : Column :=
  let truths := rowTruths n c
  let ka := sideKind a
  let kb := sideKind b
  let dtype := if ka == kb then ka else DType.promote ka kb
  let cells := (Array.range n).map fun i =>
    (if truths.getD i false then cellAt a i else cellAt b i).storedAs dtype
  { label := .none, dtype, cells }

/-- The branches of `case(c1, v1, c2, v2, …)`: its arguments two by two, an odd last one left over.
-/
def casePairs : List String → List (String × String)
  | c :: v :: rest => (c, v) :: casePairs rest
  | _ => []

/-- One `case` branch over `n` rows: a row whose condition holds and has no value yet takes the
branch's. -/
def caseBranch (n : Nat) (result : Array Value) (cd vd : Datum) : Outcome (Array Value) := do
  let present := Datum.truths .none (result.map (!·.isMissing))
  let keep := rowTruths n (← Datum.bits .bitOr (← cd.invert) present)
  return (Array.range n).map fun i => if keep.getD i true then result.getD i .none else cellAt vd i

/-- `case(c1, v1, …, default)` over `n` rows: the branches in turn, then the default for rows still
without a value. -/
def caseOf (n : Nat) (eval : String → Outcome Datum) (args : List String) : Outcome Datum := do
  let result ← (casePairs args).foldlM (fun result (c, v) => do
    let cd ← eval c
    caseBranch n result cd (Datum.widen n (← eval v))) (Array.replicate n Value.none)
  if args.length % 2 == 1 then
    let fallback := Datum.widen n (← eval (args.getD (args.length - 1) ""))
    if fallback matches .scalar .none then
      throw (Fault.inner .valueError "Must specify a fill 'value' or 'method'.")
    let filled := (Array.range n).map fun i =>
      let v := result.getD i .none
      if v.isMissing then cellAt fallback i else v
    return .column (Column.infer .none filled)
  else return .column { label := .none, dtype := .object, cells := result }

/-- The value of a formula in one of the command's own forms, or `none` for the calculation
language. -/
def ownValue (t : Table) (fuel : Nat) (eval : String → Outcome Datum) (expr : String) :
    Outcome (Option Datum) := do
  if let some d ← condition t (fuel + 1) expr then return some d
  let n := t.rowCount
  let low := Text.lower expr
  if low.startsWith "if(" || low.startsWith "if " then
    if let some [c, a, b] := callArgs? expr then
      let cd ← eval c
      let ad ← eval a
      let bd ← eval b
      return some (.column (choose n cd (Datum.widen n ad) (Datum.widen n bd)))
  if low.startsWith "case(" || low.startsWith "case " then
    if let some args := callArgs? expr then
      if !args.isEmpty then return some (← caseOf n eval args)
  match Condition.matchGroups "(\\w+)\\s*\\((.+)\\)$" expr with
  | some [some f, some argText] =>
    let f := Text.lower f
    if functionNames.contains f then
      return some (← callFunction t f ((splitPlain argText).map (readArg t ∘ Text.trimBlanks)) [])
  | _ => pure ()
  return none

/-- A formula's value: `own` when it has one, else its value in the calculation language. -/
def ownOrCompute (t : Table) (own : Outcome (Option Datum)) (expr : String) :
    Outcome Datum × Effects :=
  match own with
  | .error e => (.error e, {})
  | .ok (some d) => (.ok d, {})
  | .ok none =>
    let (r, effects) := Calc.compute t expr
    match r with
    | .ok d => (.ok (Datum.widen t.rowCount d), effects)
    | .error e => (.error (Fault.invalid s!"Failed to evaluate expression '{expr}': {e.text}"), effects)

def evaluate (t : Table) : Nat → String → Outcome Datum × Effects
  | 0, _ => (throw (Fault.inner .recursionError "maximum recursion depth exceeded"), {})
  | fuel + 1, expr =>
    let expr := Text.trimBlanks expr
    ownOrCompute t (ownValue t fuel (fun s => (evaluate t fuel s).1) expr) expr

/-- A column with row labels of its own matched to `rows`, missing where a label is absent; repeated
labels fail. -/
def reindex (rows : Array Value) (c : Column) (labels : Array Value) : Outcome Column := do
  let key (v : Value) : Value := if v.isMissing then .none else v
  if labels.size == rows.size && (labels.zip rows).all fun (a, b) => Value.same (key a) (key b) then
    return c
  let dup := (List.range labels.size).any fun i => (List.range i).any fun j =>
    Value.same (key (labels.getD i .none)) (key (labels.getD j .none))
  if dup then throw (Fault.inner .valueError "cannot reindex on an axis with duplicate labels")
  let labelled (l r : Value) : Bool :=
    match l, r with
    | .other "Interval" t, .int _ | .other "Interval" t, .float _ => Binning.holds t r.toDouble
    | _, _ => Value.same (key l) (key r)
  let found := rows.map fun r => labels.findIdx? fun l => labelled l r
  if found.all Option.isSome then
    return { c with cells := found.map fun i => c.cell (i.getD 0) }
  let blank : Value := match c.dtype with
    | .datetime | .duration => .nat
    | _ => Value.nan
  let cells := found.map fun i => match i with
    | some k => c.cell k
    | none => blank
  match c.dtype with
  | .int64 | .int32 | .int16 | .int8 | .uint64 | .uint32 | .uint16 | .uint8 | .float64 => pure { c with dtype := .float64, cells := cells.map Value.asFloat }
  | .bool => pure { c with dtype := .object, cells }
  | .complex128 => pure { c with cells := cells.map fun v => if v.isMissing then .complex (0.0 / 0.0) 0.0 else v }
  | _ => pure { c with cells }

/-- The column a formula's value makes for `rows`; sets, generators and wider tables make none. -/
def toColumn (rows : Array Value) (field : String) (present : Bool) : Datum → Outcome Column
  | .frame cols labels =>
    match cols with
    | [c] => reindex rows c labels
    | _ =>
      if present then throw (Fault.inner .valueError "Columns must be same length as key")
      else if cols.isEmpty then
        throw (Fault.inner .valueError s!"Cannot set a DataFrame without columns to the column {field}")
      else throw (Fault.inner .valueError
        s!"Cannot set a DataFrame with multiple columns to the single column {field}")
  | .column c =>
    if c.size != rows.size then
      throw (Fault.inner .valueError
        s!"Length of values ({c.size}) does not match length of index ({rows.size})")
    else pure c
  | .series c labels => reindex rows c labels
  | .scalar v => pure (Datum.spread .none rows.size v)
  | .element v dtype => pure { label := .none, dtype, cells := Array.replicate rows.size v }
  | .seq _ items =>
    if items.length != rows.size then
      throw (Fault.inner .valueError
        s!"Length of values ({items.length}) does not match length of index ({rows.size})")
    else pure (Column.infer .none (items.map (·.toCell rows 8)).toArray)
  | .mapping es =>
    let labels := (es.map fun (k, _) => k.toCell rows 8).toArray
    let values := (es.map fun (_, v) => v.toCell rows 8).toArray
    let c : Column := if es.isEmpty then { label := .none, dtype := .object, cells := #[] }
      else Column.infer .none values
    reindex rows c labels
  | .setOf _ => throw (Fault.inner .typeError "Set type is unordered")
  | .generator _ => throw (Fault.inner .typeError "")
  | .accessor kind _ _ =>
    let what := if kind == "str" then "StringMethods" else "DatetimeProperties"
    throw (Fault.inner .typeError s!"object of type '{what}' has no len()")
  | d => pure (Datum.spread .none rows.size (d.toCell rows 8))

end PipeQuery.Derive

namespace PipeQuery.Command

def mergeListChanges (earlier later : List (Nat × List Value)) : List (Nat × List Value) :=
  later ++ earlier.filter fun (k, _) => !later.any (·.1 == k)

/-- Sets column `field` to a formula's value `res`, after the lists and columns it changed in place.
-/
def assignWith (t : Table) (field : String) (res : Outcome Calc.Datum × Calc.Effects) :
    Outcome Table :=
  let t := t.shareLists res.2.lists
  match res.1 with
  | .error e => .error e
  | .ok d =>
    let t := res.2.columns.foldl (fun t (name, c) => t.put { c with label := .str name }) t
    match Derive.toColumn t.index field (t.has field) d with
    | .error e => .error e
    | .ok c => .ok (t.put { c with label := .str field })

/-- Makes the assignments in turn over the table so far, gathering the lists they changed; the first
failure stops. -/
def assignAll (eval : Table → String → Outcome Calc.Datum × Calc.Effects) :
    List (String × String) → Table → List (Nat × List Value) →
      Outcome Table × List (Nat × List Value)
  | [], t, lists => (.ok t, lists)
  | (field, formula) :: rest, t, lists =>
    let res := eval t formula
    let lists := mergeListChanges lists res.2.lists
    match assignWith t field res with
    | .error e => (.error e, lists)
    | .ok t => assignAll eval rest t lists

/-- Sets each named column to its formula's value in order, each seeing the changes before; changed
cell lists stay on failure. -/
def derive (assignments : List (String × String)) (t : Table) :
    Outcome Table × List (Nat × List Value) :=
  if t.isEmpty then (.ok t, [])
  else assignAll (fun t formula => Derive.evaluate t (formula.length + 2) formula) assignments t []

end PipeQuery.Command

namespace PipeQuery.Derive

open Query

def formulaOf : Expr → String
  | .lit (.text s) _ _ => "\"" ++ s ++ "\""
  | .lit v _ _ => v.word
  | .ident n _ => n
  | .binary l op r _ => "(" ++ formulaOf l ++ " " ++ op ++ " " ++ formulaOf r ++ ")"
  | .call n args _ => n ++ "(" ++ ", ".intercalate (args.map formulaOf) ++ ")"
  | e => e.render

def assignmentsOfStage (st : Stage) : List (String × String) :=
  st.args.filterMap fun a => (Arg.keyword? a).map fun (k, v) => (k, formulaOf v)

/-- The assignments of a command's words: joined, split at commas outside brackets, each
`name = formula`. -/
def assignmentsOfWords (ws : List String) : List (String × String) :=
  (splitPlain (" ".intercalate ws)).filterMap fun part =>
    let part := Text.trimBlanks part
    if part.contains '=' then
      match Condition.matchGroups "(\\w+)\\s*=\\s*(.+)" part with
      | some [some field, some formula] => some (field, formula)
      | _ => none
    else none

end PipeQuery.Derive
