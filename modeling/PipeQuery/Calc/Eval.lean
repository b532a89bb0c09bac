import PipeQuery.Calc.ArrayRoutines
import PipeQuery.Calc.TableLibrary
import PipeQuery.Calc.Read
import PipeQuery.Calc.Store

/-!
# Calculations: evaluating a formula over a table

`Calc.compute t src` reads a formula, computes it over the table `t`, and tells what it changed
outside itself (`Effects`).

A name stands for, in this order: what the formula bound to it, a function of the library, the
column of that name, or `np`/`pd`. `and`, `or`, `not`, the conditional expression and chained
comparisons stop as soon as the answer is known.

Lists, dictionaries, sets, generators, constants, columns and the lists in table cells are
objects of the formula's store (`Calc.Scope`), so a method that changes one in place is seen
through every name holding it. `a is b` holds for one object twice and for the values the
language keeps only once (`None`, truths, small integers, short texts, the empty tuple).
-/

namespace PipeQuery.Calc

/-- A call of a column's indexer, such as `s.iloc(0)`: the indexer is not callable. -/
def indexerCall? (name : String) : Option Fault :=
  if name == "iloc" || name == "loc" || name == "at" || name == "iat" then
    let indexer := if name == "iloc" || name == "iat" then "_iLocIndexer" else "_LocIndexer"
    some (Fault.raised .typeError s!"'{indexer}' object is not callable")
  else none

def recursionLimit : Fault :=
  Fault.raised .recursionError "maximum recursion depth exceeded"

def listMethodNames : List String :=
  ["append", "extend", "insert", "remove", "pop", "clear", "index", "count", "sort", "reverse",
   "copy"]

def dictMethodNames : List String :=
  ["keys", "values", "items", "get", "copy", "pop", "popitem", "setdefault", "update", "clear"]

def setMethodNames : List String :=
  ["add", "discard", "remove", "pop", "clear", "update", "union", "intersection", "difference",
   "symmetric_difference", "copy", "issubset", "issuperset", "isdisjoint", "intersection_update",
   "difference_update", "symmetric_difference_update"]

def textMethodNames : List String :=
  ["upper", "lower", "casefold", "title", "capitalize", "swapcase", "isupper", "islower", "istitle",
   "isdigit", "isdecimal", "isnumeric", "isalpha", "isalnum", "isspace", "isascii", "isprintable",
   "strip", "lstrip", "rstrip", "split", "rsplit", "splitlines", "partition", "rpartition",
   "removeprefix", "removesuffix", "startswith", "endswith", "find", "rfind", "index", "rindex",
   "count", "join", "replace", "zfill", "center", "ljust", "rjust", "encode", "format",
   "format_map", "isidentifier", "expandtabs", "translate", "maketrans"]

/-- The methods (not fields) of the time accessor and of instants. -/
def timeMethodNames : List String :=
  ["day_name", "month_name", "strftime", "normalize", "total_seconds", "isoformat", "weekday",
   "timestamp", "date", "time"]

def accessorMethodNames : List String :=
  ["day_name", "month_name", "strftime", "normalize", "total_seconds", "floor", "ceil", "round",
   "isocalendar", "to_period", "to_pydatetime", "to_pytimedelta", "tz_localize", "tz_convert", "as_unit"]

def fullKind (d : Datum) : String :=
  match d with
  | .element v dtype => if dtype.isTimeLike then v.typeName else "numpy." ++ dtype.name
  | d => d.kindName

def memberOf (rows : Array Value) (d : Datum) (name : String) : Outcome Datum :=
  let missing : Outcome Datum :=
    throw (Fault.raised .attributeError s!"'{fullKind d}' object has no attribute '{name}'")
  let bound (names : List String) : Outcome Datum :=
    if names.contains name then pure (.bound d name) else missing
  let value (v : Value) : Outcome Datum := pure (.scalar v)
  match d with
  | .library lib => Libraries.member lib name
  | .column _ | .series _ _ =>
    match Owner.of? rows d with
    | some o => Methods.member o name
    | none => missing
  | .accessor "str" _ _ => pure (.bound d name)
  | .accessor "cat" c ls => Members.categoryMember (ls.getD rows) ls.isNone c name
  | .offset o =>
    match name with
    | "n" => value (.int o.n)
    | "years" => value (.int o.years)
    | "months" => value (.int o.months)
    | "weeks" => value (.int o.weeks)
    | "days" => value (.int o.days)
    | "hours" => value (.int o.hours)
    | "minutes" => value (.int o.minutes)
    | "seconds" => value (.int o.seconds)
    | "microseconds" => value (.int o.microseconds)
    | "nanoseconds" => value (.int o.nanoseconds)
    | "name" => value (.str o.kindName)
    | "freqstr" => value (.str o.freqText)
    | "normalize" => value (.bool false)
    | "kwds" => pure (.mapping (o.units.map fun (k, v) => (.scalar (.str k), .scalar (.int v))))
    | _ =>
      if o.units.any (·.1 == name) then value (.int 0)
      else missing
  | .array c form =>
    let fallback := Methods.member { col := c, labels := rows, aligned := true } name
    match form, name with
    | .values, "codes" | .values, "categories" =>
      if c.dtype == .category then
        if name == "codes" then pure (.array { Members.categoryCodes c with label := .none } .values)
        else pure (Members.categoryIndex c)
      else fallback
    | .labels _, _ =>
      if c.dtype == .datetime || c.dtype == .duration then
        if accessorMethodNames.contains name then fallback
        else
          match Members.timeMember (Table.rangeIndex c.size) false c name none with
          | .ok (.series r _) => pure (.array { r with label := .none } (.labels none))
          | .ok (.column r) => pure (.array { r with label := .none } (.labels none))
          | _ => fallback
      else fallback
    | _, _ => fallback
  | .function f =>
    if ArrayLibrary.isUfunc f then
      if name == "reduce" || name == "accumulate" then pure (.bound d name)
      else throw (Fault.raised .attributeError s!"'numpy.ufunc' object has no attribute '{name}'")
    else missing
  | .windowed w _ _ =>
    if Windows.has w name then pure (.bound d name)
    else throw (Fault.raised .attributeError s!"'{Windows.kindOf w}' object has no attribute '{name}'")
  | .frame cols ls =>
    match cols.find? fun c => Value.sameEntry c.label (.str name) with
    | some c => pure (.series c ls)
    | none =>
      match name with
      | "shape" => pure (.seq false [.scalar (.int ls.size), .scalar (.int cols.length)])
      | "columns" =>
        let names : Column := { label := .none, dtype := .object, cells := (cols.map (·.label)).toArray }
        pure (.array names (.labels none))
      | "empty" => pure (.scalar (.bool (ls.isEmpty || cols.isEmpty)))
      | "ndim" => pure (.scalar (.int 2))
      | "size" => pure (.scalar (.int (ls.size * cols.length)))
      | _ => throw (Fault.raised .attributeError s!"'DataFrame' object has no attribute '{name}'")
  | .accessor _ c ls =>
    if accessorMethodNames.contains name then pure (.bound d name)
    else Members.timeMember (ls.getD rows) ls.isNone c name none
  | .scalar (.str _) => bound textMethodNames
  | .scalar (.complex re im) =>
    match name with
    | "real" => value (.float re)
    | "imag" => value (.float im)
    | _ => bound ["conjugate"]
  | .scalar (.int n) =>
    match name with
    | "real" | "numerator" => value (.int n)
    | "imag" => value (.int 0)
    | "denominator" => value (.int 1)
    | _ => bound ["bit_length", "conjugate"]
  | .scalar (.bool b) =>
    match name with
    | "real" | "numerator" => value (.int (if b then 1 else 0))
    | "imag" => value (.int 0)
    | "denominator" => value (.int 1)
    | _ => bound ["bit_length", "conjugate"]
  | .scalar (.float x) =>
    match name with
    | "real" => value (.float x)
    | "imag" => value (.float 0.0)
    | _ => bound ["is_integer", "conjugate"]
  | .scalar (.time ns) | .element (.time ns) (.instantsIn _) =>
    let s := Time.Stamp.ofNanos ns
    let whole (n : Int) : Outcome Datum := value (.int n)
    let digits := match d with
      | .element _ k => k.unitDigits
      | _ => 9
    match name with
    | "unit" => value (.str (DType.unitName digits))
    | "year" => whole s.date.year
    | "month" => whole s.date.month
    | "day" => whole s.date.day
    | "hour" => whole s.hour
    | "minute" => whole s.minute
    | "second" => whole s.second
    | "microsecond" => whole (s.nano / 1000)
    | "nanosecond" => whole (s.nano % 1000)
    | "dayofweek" | "day_of_week" => whole (Time.weekday (Int.fdiv ns Time.nsPerDay))
    | "dayofyear" | "day_of_year" => whole s.date.dayOfYear
    | "quarter" => whole ((s.date.month - 1) / 3 + 1)
    | "value" => whole ns
    | "is_leap_year" => value (.bool (Time.isLeap s.date.year))
    | _ => bound timeMethodNames
  | .scalar (.span ns) | .element (.span ns) (.spansIn _) =>
    let digits := match d with
      | .element _ k => k.unitDigits
      | _ => 9
    match name with
    | "unit" => value (.str (DType.unitName digits))
    | "days" => value (.int (Int.fdiv ns Time.nsPerDay))
    | "seconds" => value (.int (Int.fmod ns Time.nsPerDay / Time.nsPerSecond))
    | "microseconds" => value (.int (Int.fmod ns Time.nsPerSecond / 1000))
    | "nanoseconds" => value (.int (Int.fmod ns 1000))
    | "value" => value (.int ns)
    | _ => bound ["total_seconds"]
  | .element _ dtype =>
    match name with
    | "real" => pure d
    | "imag" => pure (.element (if dtype == .float64 then .float 0.0 else .int 0) dtype)
    | "dtype" => value (.other dtype.className dtype.name)
    | _ => bound ["item", "is_integer", "conjugate"]
  | .seq true _ => bound listMethodNames
  | .seq false _ => bound ["index", "count"]
  | .mapping _ => bound dictMethodNames
  | .setOf _ => bound setMethodNames
  | .bytes _ => bound ["decode", "hex", "upper", "lower", "startswith", "endswith"]
  | _ => missing

def callInstant (ns : Int) (name : String) (args : List Datum) : Outcome Datum :=
  match name, args with
  | "strftime", [.scalar (.str fmt)] => pure (.scalar (.str (Time.strftime fmt ns)))
  | "day_name", _ => pure (.scalar (.str (Time.dayNames.getD (Time.weekday (Int.fdiv ns Time.nsPerDay)) "")))
  | "month_name", _ =>
    pure (.scalar (.str (Time.monthNames.getD ((Time.Stamp.ofNanos ns).date.month - 1) "")))
  | "isoformat", _ => pure (.scalar (.str (Time.isoText ns)))
  | "weekday", _ => pure (.scalar (.int (Time.weekday (Int.fdiv ns Time.nsPerDay))))
  | "normalize", _ => pure (.scalar (.time (ns - Int.fmod ns Time.nsPerDay)))
  | "timestamp", _ => pure (.scalar (.float (Num.intToFloat ns / 1000000000.0)))
  | _, _ => throw (Fault.raised .typeError s!"{name}() argument must be str")

def callPlain (rows : Array Value) (owner : Datum) (name : String) (args : List Datum)
    (kwargs : List (String × Datum)) : Outcome Datum := do
  let arg (i : Nat) : Option Datum := args[i]?
  match owner with
  | .scalar (.str s) => Strings.call rows (memberOf rows) s name args kwargs
  | .bytes b => Strings.callBytes b name args kwargs
  | .seq isList items =>
    match name, arg 0 with
    | "count", some x => pure (.scalar (.int (items.filter (Datum.equal 16 x)).length))
    | "index", some x =>
      match items.findIdx? (Datum.equal 16 x) with
      | some i => pure (.scalar (.int i))
      | none => throw (Fault.raised .valueError
          (if isList then s!"{(x.texts rows 16).2} is not in list" else "tuple.index(x): x not in tuple"))
    | "copy", _ => pure owner
    | "pop", _ =>
      match items.getLast? with
      | some x => pure x
      | none => throw (Fault.raised .indexError "pop from empty list")
    | _, _ => pure (.scalar .none)
  | .mapping es =>
    match name with
    | "keys" => pure (.seq true (es.map (·.1)))
    | "values" => pure (.seq true (es.map (·.2)))
    | "items" => pure (.seq true (es.map fun (k, v) => .seq false [k, v]))
    | "get" | "pop" | "setdefault" =>
      match arg 0 with
      | some k =>
        Datum.checkKey 8 k
        match es.find? (fun (k', _) => Datum.sameKey 16 k' k), arg 1 with
        | some (_, v), _ => pure v
        | none, some d => pure d
        | none, none =>
          if name == "pop" then throw (Fault.raised .keyError (k.texts rows 8).2)
          else pure (.scalar .none)
      | none => throw (Fault.raised .typeError s!"{name} expected at least 1 argument, got 0")
    | "copy" => pure owner
    | _ => pure (.scalar .none)
  | .scalar (.int n) =>
    match name with
    | "bit_length" => pure (.scalar (.int (if n == 0 then 0 else n.natAbs.log2 + 1)))
    | _ => pure owner
  | .scalar (.bool b) =>
    match name with
    | "bit_length" => pure (.scalar (.int (if b then 1 else 0)))
    | _ => pure (.scalar (.int (if b then 1 else 0)))
  | .scalar (.float x) =>
    match name with
    | "is_integer" => pure (.scalar (.bool (!x.isNaN && !x.isInf && x == x.floor)))
    | _ => pure owner
  | .scalar (.complex re im) => pure (.scalar (.complex re (-im)))
  | .scalar (.time ns) => callInstant ns name args
  | .element (.time ns) k => do
    match ← callInstant ns name args with
    | .scalar (.time r) => pure (.element (.time r) k)
    | r => pure r
  | .element (.span ns) _ => pure (.scalar (.float (Num.intToFloat ns / 1000000000.0)))
  | .scalar (.span ns) => pure (.scalar (.float (Num.intToFloat ns / 1000000000.0)))
  | .element v dtype =>
    match name with
    | "item" => pure (.scalar v)
    | "is_integer" => pure (.scalar (.bool (v.toDouble == v.toDouble.floor)))
    | _ => pure (.element v dtype)
  | d => throw (Fault.raised .typeError s!"'{d.kindName}' object is not callable")

def sliceBound (d : Option Datum) : Outcome (Option Int) :=
  match d with
  | none | some (.scalar .none) => pure none
  | some (.scalar (.int n)) | some (.element (.int n) _) => pure (some n)
  | some (.scalar (.bool b)) => pure (some (if b then 1 else 0))
  | some _ => throw (Fault.raised .typeError
      "slice indices must be integers or None or have an __index__ method")

def sliceOf (rows : Array Value) (a : Datum) (lo hi : Option Int) (step : Int) : Outcome Datum := do
  if step == 0 then throw (Fault.raised .valueError "slice step cannot be zero")
  let pick {α : Type} [Inhabited α] (xs : List α) : List α :=
    (slicePositions xs.length lo hi step).map fun i => xs[i]!
  match a with
  | .scalar (.str s) => pure (.scalar (.str (String.ofList (pick s.toList))))
  | .seq k items => pure (.seq k (pick items))
  | .bytes b => pure (.bytes (String.ofList (pick b.toList)))
  | .column _ | .series _ _ | .bound (.column _) "iloc" | .bound (.series _ _) "iloc" =>
    let target := match a with
      | .bound o _ => o
      | _ => a
    match Owner.of? rows target with
    | some o => pure (o.rows (slicePositions o.col.size lo hi step).toArray)
    | none => throw (Fault.raised .typeError s!"'{a.kindName}' object is not subscriptable")
  | .array c form =>
    let kept := form matches .values || step == 1
    pure (.array { c with cells := (slicePositions c.size lo hi step).toArray.map c.cell }
      (if kept then form else .labels none))
  | .accessor "str" c ls =>
    let sliced := c.mapText fun s => .str (String.ofList (pick s.toList))
    pure (match ls with
      | some labels => .series sliced labels
      | none => .column sliced)
  | d => throw (Fault.raised .typeError s!"'{fullKind d}' object is not subscriptable")

/-- The position of the row labelled `key`; a whole number that is no label is a position when
labels are not whole. -/
def rowOf (labels : Array Value) (key : Value) (positional : Bool) : Outcome Nat :=
  match labels.findIdx? fun l => !l.isMissing && Value.same l key with
  | some i => pure i
  | none =>
    match key with
    | .int i =>
      if positional && !labels.any (fun l => l matches .int _) then
        let n : Int := labels.size
        let j := if i < 0 then i + n else i
        if 0 ≤ j && j < n then pure j.toNat
        else throw (Fault.raised .indexError "index out of bounds")
      else throw (Fault.raised .keyError key.repr)
    | _ => throw (Fault.raised .keyError key.repr)

/-- `a[k]`: a column's value at a row label (or position via `iloc`), a text's character, an item, a
dictionary's value. -/
def itemOf (rows : Array Value) (a k : Datum) : Outcome Datum := do
  let keyValue : Option Value := match k with
    | .scalar v | .element v _ => some v
    | _ => none
  match a with
  | .frame cols ls =>
    match keyValue with
    | some key =>
      match cols.find? fun c => Value.sameEntry c.label key with
      | some c => pure (.series c ls)
      | none => throw (Fault.raised .keyError key.repr)
    | none => throw (Fault.raised .typeError "unhashable type: 'list'")
  | .column _ | .series _ _ =>
    let o := (Owner.of? rows a).get!
    match k with
    | .column m | .series m _ =>
      if m.dtype == .bool then
        pure (o.rows ((Array.range o.col.size).filter fun i => (m.cell i).truthy))
      else
        let rs ← m.cells.mapM fun v => rowOf o.labels v false
        pure (o.rows rs)
    | .seq _ keys =>
      let rs ← keys.mapM fun kd => match kd with
        | .scalar v | .element v _ => rowOf o.labels v false
        | _ => throw (Fault.raised .keyError (kd.texts rows 8).2)
      pure (o.rows rs.toArray)
    | _ =>
      match keyValue with
      | some v => do
        let i ← rowOf o.labels v true
        pure (reduced o.col (o.col.cell i))
      | none => do
        Datum.checkKey 8 k
        throw (Fault.raised .keyError (k.texts rows 8).2)
  | .bound owner how =>
    match Owner.of? rows owner with
    | some o =>
      if how == "iloc" || how == "iat" then
        match k with
        | .seq _ keys =>
          let rs ← keys.mapM fun kd => do
            let i ← Strings.intArg kd
            let n : Int := o.col.size
            let j := if i < 0 then i + n else i
            if 0 ≤ j && j < n then pure j.toNat
            else throw (Fault.raised .indexError "positional indexers are out-of-bounds")
          pure (o.rows rs.toArray)
        | _ => do
          let i ← Strings.intArg k
          let n : Int := o.col.size
          let j := if i < 0 then i + n else i
          if 0 ≤ j && j < n then pure (reduced o.col (o.col.cell j.toNat))
          else throw (Fault.raised .indexError "single positional indexer is out-of-bounds")
      else
        match keyValue with
        | some v => do
          let i ← rowOf o.labels v false
          pure (reduced o.col (o.col.cell i))
        | none => throw (Fault.raised .keyError (k.texts rows 8).2)
    | none => throw (Fault.raised .typeError s!"'method' object is not subscriptable")
  | .accessor "str" c ls => Members.textCall (ls.getD rows) ls.isNone c "get" [k] []
  | .scalar (.str s) =>
    match keyValue with
    | some (.int i) =>
      match itemAt s.toList i with
      | some ch => pure (.scalar (.str ch.toString))
      | none => throw (Fault.raised .indexError "string index out of range")
    | some (.bool b) =>
      match itemAt s.toList (if b then 1 else 0) with
      | some ch => pure (.scalar (.str ch.toString))
      | none => throw (Fault.raised .indexError "string index out of range")
    | _ => throw (Fault.raised .typeError s!"string indices must be integers, not '{fullKind k}'")
  | .seq isList items =>
    let kind := if isList then "list" else "tuple"
    match keyValue with
    | some v =>
      match v with
      | .int i =>
        match itemAt items i with
        | some d => pure d
        | none => throw (Fault.raised .indexError s!"{kind} index out of range")
      | .bool b =>
        match itemAt items (if b then 1 else 0) with
        | some d => pure d
        | none => throw (Fault.raised .indexError s!"{kind} index out of range")
      | _ => throw (Fault.raised .typeError s!"{kind} indices must be integers or slices, not {fullKind k}")
    | none => throw (Fault.raised .typeError s!"{kind} indices must be integers or slices, not {fullKind k}")
  | .bytes b =>
    match keyValue with
    | some (.int i) =>
      match itemAt b.toList i with
      | some ch => pure (.scalar (.int ch.toNat))
      | none => throw (Fault.raised .indexError "index out of range")
    | _ => throw (Fault.raised .typeError s!"byte indices must be integers or slices, not {fullKind k}")
  | .mapping es =>
    Datum.checkKey 8 k
    match es.find? (fun (k', _) => Datum.sameKey 16 k' k) with
    | some (_, v) => pure v
    | none => throw (Fault.raised .keyError (k.texts rows 8).2)
  | .element _ _ => throw (Fault.raised .indexError "invalid index to scalar variable.")
  | d => throw (Fault.raised .typeError s!"'{fullKind d}' object is not subscriptable")

/-- `a in b`: a column's row label, a dictionary's or set's key, a sequence's item, a text in a
text. -/
def contains (rows : Array Value) (a b : Datum) : Outcome Bool := do
  match b with
  | .column _ | .series _ _ =>
    Datum.checkKey 8 a
    let labels := match b with
      | .series _ ls => ls
      | _ => rows
    match a with
    | .scalar v | .element v _ => pure (labels.any fun l => !l.isMissing && !v.isMissing && Value.same l v)
    | _ => pure false
  | .mapping es =>
    Datum.checkKey 8 a
    pure (es.any fun (k, _) => Datum.sameKey 16 k a)
  | .setOf items =>
    Datum.checkKey 8 a
    pure (items.any fun x => Datum.sameKey 16 x a)
  | .seq _ items | .generator items => pure (items.any (Datum.equal 16 a))
  | .scalar (.str s) =>
    match a with
    | .scalar (.str x) => pure (x.isEmpty || (Text.splitText s x).length > 1)
    | _ => throw (Fault.raised .typeError
        s!"'in <string>' requires string as left operand, not {fullKind a}")
  | .bytes s =>
    match a with
    | .bytes x => pure (x.isEmpty || (Text.splitText s x).length > 1)
    | .scalar (.int n) => pure (s.toList.any fun c => (c.toNat : Int) == n)
    | _ => throw (Fault.raised .typeError s!"a bytes-like object is required, not '{fullKind a}'")
  | d => throw (Fault.raised .typeError s!"argument of type '{fullKind d}' is not iterable")


def sameValue (a b : Datum) : Bool :=
  a.kindName == b.kindName && Datum.equal 16 a b


def Rel.cmp? : Rel → Option CmpOp
  | .lt => some .lt
  | .gt => some .gt
  | .le => some .le
  | .ge => some .ge
  | .eq => some .eq
  | .ne => some .ne
  | _ => none

/-- Binds a `lambda`'s parameters to a call's arguments (positional, `*args`, keywords, `**kwargs`,
defaults); unknown, surplus or missing ones fail. -/
def bindParams (name : String) (params : List (ParamKind × String × Option Datum))
    (args : List Datum) (kwargs : List (String × Datum)) : Outcome (List (String × Datum)) := do
  let positional := params.filter fun (k, _, _) => k == .positionalOnly || k == .plain
  let keywordOnly := params.filter fun (k, _, _) => k == .keywordOnly
  let onlyByPosition := (params.filter fun (k, _, _) => k == .positionalOnly).map (·.2.1)
  let varArgs := (params.find? (·.1 == .varArgs)).map (·.2.1)
  let varKeywords := (params.find? (·.1 == .varKeywords)).map (·.2.1)
  let byKeyword := (positional ++ keywordOnly).filter fun (k, _, _) => k != .positionalOnly
  let filled : List (String × Option Datum) := (positional.zip (List.range positional.length)).map
    fun ((_, n, _), i) => (n, args[i]?)
  let start : List (String × Option Datum) × List (String × Datum) :=
    (filled ++ keywordOnly.map fun (_, n, _) => (n, none), [])
  let (slots, extra) ← kwargs.foldlM (fun (acc : List (String × Option Datum) × List (String × Datum))
      (k, v) => do
    let (slots, extra) := acc
    if byKeyword.any (·.2.1 == k) then
      if slots.any fun (n, d) => n == k && d.isSome then
        throw (Fault.raised .typeError s!"{name}() got multiple values for argument '{k}'")
      pure (slots.map fun (n, d) => if n == k then (n, some v) else (n, d), extra)
    else if varKeywords.isSome then pure (slots, extra ++ [(k, v)])
    else
      let passed := (kwargs.map (·.1)).filter onlyByPosition.contains
      let passedText := ", ".intercalate passed
      if !passed.isEmpty then
        throw (Fault.raised .typeError
          s!"{name}() got some positional-only arguments passed as keyword arguments: '{passedText}'")
      throw (Fault.raised .typeError s!"{name}() got an unexpected keyword argument '{k}'")) start
  let given := args.length
  if given > positional.length && varArgs.isNone then
    let defaults := (positional.filter (·.2.2.isSome)).length
    let kwGiven := (slots.drop positional.length).countP (·.2.isSome)
    let sig := if defaults > 0 then s!"from {positional.length - defaults} to {positional.length}"
      else toString positional.length
    let plural := defaults > 0 || positional.length != 1
    let ending (n : Nat) : String := if n != 1 then "s" else ""
    let givenEnding := ending given
    let kwEnding := ending kwGiven
    let kwSig := if kwGiven == 0 then ""
      else s!" positional argument{givenEnding} (and {kwGiven} keyword-only argument{kwEnding})"
    let verb := if given == 1 && kwGiven == 0 then "was" else "were"
    let sigEnding := if plural then "s" else ""
    throw (Fault.raised .typeError
      s!"{name}() takes {sig} positional argument{sigEnding} but {given}{kwSig} {verb} given")
  let missingOf (ps : List (ParamKind × String × Option Datum)) : List String :=
    ps.filterMap fun (_, n, d) =>
      if d.isNone && slots.any (fun (m, v) => m == n && v.isNone) then some n else none
  let missing := missingOf positional
  if !missing.isEmpty then
    let what := if missing.length == 1 then "1 required positional argument"
      else s!"{missing.length} required positional arguments"
    throw (Fault.raised .typeError s!"{name}() missing {what}: {namesText missing}")
  let missing := missingOf keywordOnly
  if !missing.isEmpty then
    let what := if missing.length == 1 then "1 required keyword-only argument"
      else s!"{missing.length} required keyword-only arguments"
    throw (Fault.raised .typeError s!"{name}() missing {what}: {namesText missing}")
  let bound := slots.map fun (n, v) =>
    (n, v.getD (((params.find? (·.2.1 == n)).bind (·.2.2)).getD (.scalar .none)))
  let rest := match varArgs with
    | some n => [(n, Datum.seq false (args.drop positional.length))]
    | none => []
  let more := match varKeywords with
    | some n => [(n, Datum.mapping (extra.map fun (k, v) => (.scalar (.str k), v)))]
    | none => []
  pure (bound ++ rest ++ more)


def unaryOf (op : UnOp) (d : Datum) : Outcome Datum :=
  match op with
  | .neg => d.negate
  | .pos => d.plus
  | .invert => d.invert

def bitCount (n : Int) : Nat :=
  if n == 0 then 0 else n.natAbs.log2 + 1

def wholeOperand? : Datum → Option Int
  | .scalar (.int n) => some n
  | .scalar (.bool b) => some (if b then 1 else 0)
  | _ => none

/-- Whether `d * n` of a tuple, text or bytes is folded on reading: at most 256 items, 4096
characters. -/
def repeatFolds (n : Int) (d : Datum) : Bool :=
  let bounded (size limit : Nat) : Bool := size == 0 || (0 ≤ n && n ≤ ((limit / size : Nat) : Int))
  match d with
  | .seq false items => bounded items.length 256
  | .scalar (.str s) => bounded s.length 4096
  | .bytes s => bounded s.length 4096
  | _ => true

/-- Whether constant `a op b` is folded on reading: not past 128 bits, 256 items or 4096 characters,
nor `%` on texts, `@`. -/
def foldsBinary (op : BinOp) (a b : Datum) : Bool :=
  match op, wholeOperand? a, wholeOperand? b with
  | .mul, some x, some y => x == 0 || y == 0 || bitCount x + bitCount y ≤ 128
  | .mul, some n, none => repeatFolds n b
  | .mul, none, some n => repeatFolds n a
  | .pow, some v, some w => v == 0 || w ≤ 0 || bitCount v ≤ 128 / w.toNat
  | .shiftLeft, some v, some w =>
    v == 0 || w == 0 || (0 < w && w ≤ 128 && bitCount v ≤ 128 - w.toNat)
  | .mod, _, _ => !(a matches .scalar (.str _)) && !(a matches .bytes _)
  | .matMul, _, _ => false
  | _, _, _ => true

/-- The value a constant part of a formula gets on reading: literals, and small operations on
constants. -/
def fold (rows : Array Value) : Nat → Term → Option Datum
  | 0, _ => none
  | fuel + 1, term =>
    match term with
    | .int n => some (.scalar (.int n))
    | .float x => some (.scalar (.float x))
    | .imaginary x => some (.scalar (.complex 0.0 x))
    | .str s => some (.scalar (.str s))
    | .bytes s => some (.bytes s)
    | .const v => some (.scalar v)
    | .ellipsis => some (.scalar (.other "ellipsis" "Ellipsis"))
    | .format [.text s] => some (.scalar (.str s))
    | .unary op e => do
      let d ← fold rows fuel e
      (unaryOf op d).toOption
    | .binary op l r => do
      let a ← fold rows fuel l
      let b ← fold rows fuel r
      if foldsBinary op a b then (Datum.binary rows op a b).toOption else none
    | .tuple items => do
      let ds ← items.mapM (fold rows fuel)
      pure (.seq false ds)
    | .index e i => do
      let a ← fold rows fuel e
      let k ← fold rows fuel i
      (itemOf rows a k).toOption
    | _ => none

/-- The key telling constants apart: kind and exact value (negative zero apart), a tuple by its
items' keys; NaN has none. -/
def constantKey? : Nat → Datum → Option String
  | 0, _ => none
  | fuel + 1, d =>
    let tagged (kind text : String) : Option String := some (kind ++ ":" ++ text)
    match d with
    | .scalar (.int n) => tagged "int" (toString n)
    | .scalar (.float x) => if x.isNaN then none else tagged "float" (Value.float x).repr
    | .scalar (.complex re im) =>
      if re.isNaN || im.isNaN then none
      else tagged "complex" ((Value.float re).repr ++ "," ++ (Value.float im).repr)
    | .scalar (.str s) => tagged "str" s
    | .scalar (.bool b) => tagged "bool" (toString b)
    | .scalar .none => tagged "none" ""
    | .scalar (.other "ellipsis" _) => tagged "ellipsis" ""
    | .bytes b => tagged "bytes" b
    | .seq false items => do
      let keys ← items.mapM (constantKey? fuel)
      tagged "tuple" (String.join (keys.map fun k => toString k.length ++ ":" ++ k))
    | _ => none

/-- A formula constant as an object: equal constants are one object (a tuple's items too); values
kept once stay plain. -/
def constant : Nat → Datum → Compute Datum
  | 0, d => pure d
  | fuel + 1, d =>
    if keptOnce d then pure d
    else
      let make (content : Datum) : Compute Datum :=
        match constantKey? 16 d with
        | some k => intern (.constant k) (pure (.value content))
        | none => alloc (.value content)
      match d with
      | .seq false items => do make (.seq false (← items.mapM (constant fuel)))
      | d => make d

/-- What a name stands for: a bound name, a library function, a column, `np` or `pd`. -/
def lookupName (t : Table) (name : String) : Compute Datum := do
  match ← boundName? name with
  | some d => pure d
  | none =>
    if functionNames.contains name then pure (.function name)
    else
      match t.find? name with
      | some c => intern (.column name) (pure (.value (.column c)))
      | none =>
        if name == "np" then pure (.library "numpy")
        else if name == "pd" then pure (.library "pandas")
        else throw (Fault.raised .nameError s!"name '{name}' is not defined")

namespace Scope

def sameKey (s : Scope) (a b : Datum) : Bool :=
  (match a, b with
    | .ref x, .ref y => x == y
    | _, _ => false) || Datum.sameKey 16 (s.plain a) (s.plain b)

def entryOf (s : Scope) (es : List (Datum × Datum)) (k : Datum) : Option Nat :=
  es.findIdx? fun (k', _) => s.sameKey k' k

def addEntry (s : Scope) (es : List (Datum × Datum)) (k v : Datum) : List (Datum × Datum) :=
  match s.entryOf es k with
  | some i => es.mapIdx fun j (k', v') => if j == i then (k', v) else (k', v')
  | none => es ++ [(k, v)]

def columnName? (s : Scope) (id : Nat) : Option String :=
  s.origins.findSome? fun (o, n) =>
    match o with
    | .column name => if n == id then some name else none
    | _ => none

end Scope

def hashKey (k : Datum) : Compute Int := do
  let p ← resolved k
  Datum.checkKey 8 p
  let salt := match k with
    | .ref id => id + 1
    | _ => 0
  return (hashOf? 16 p).getD (fallbackHash salt p)

def setAdd (t : SetTable) (k : Datum) : Compute SetTable := do
  let h ← hashKey k
  let s ← get
  return t.add s.sameKey k h

/-- The table of a set of constants: built member by member, then rebuilt from its members in slot
order. -/
def frozenTable (fuel : Nat) (ds : List Datum) : Compute SetTable := do
  let first ← (← ds.mapM (constant fuel)).foldlM setAdd {}
  first.members.foldlM setAdd {}

def setTable? (d : Datum) : Compute (Option SetTable) := do
  match d with
  | .ref id =>
    match (← get).obj id with
    | .set t => pure (some t)
    | _ => pure none
  | _ => pure none

/-- A datum as an object its methods may change: plain containers become new objects; lists of cells
stay themselves. -/
def ownObject (d : Datum) : Compute Datum := do
  match d with
  | .seq true _ | .mapping _ | .generator _ => alloc (.value d)
  | .setOf items => do alloc (.set (← items.foldlM setAdd {}))
  | .scalar (.list _ _) => adopt d
  | d => pure d

/-- The items of a datum when iterated, as objects (a dictionary's keys; a generator loses its
items). -/
def iterate (d : Datum) : Compute (List Datum) := do
  let plainItems : Compute (List Datum) := do
    let xs ← (← resolved d).items?
    xs.mapM adopt
  match d with
  | .ref id =>
    match (← get).obj id with
    | .value (.seq _ xs) => xs.mapM adopt
    | .value (.mapping es) => pure (es.map (·.1))
    | .value (.generator xs) => do
      store id (.value (.generator []))
      pure xs
    | .set t => pure t.members
    | .value _ => plainItems
  | .seq _ xs | .generator xs => xs.mapM adopt
  | .mapping es => pure (es.map (·.1))
  | _ => plainItems

def unpackItems (d : Datum) : Compute (List Datum) := do
  let p ← resolved d
  match p.items? with
  | .ok _ => iterate d
  | .error _ => throw (Fault.raised .typeError s!"cannot unpack non-iterable {fullKind p} object")

/-- Binds a comprehension target to an item in the innermost frame; a starred target takes a list of
the rest. -/
def bindTarget : Nat → Target → Datum → Compute Unit
  | 0, _, _ => throw recursionLimit
  | fuel + 1, target, item =>
    match target with
    | .name x => do bindHere x (← box item)
    | .several targets => do
      let parts ← unpackItems item
      let pairs ← match targets.findIdx? (· matches .starred _) with
        | none =>
          if parts.length < targets.length then
            throw (Fault.raised .valueError
              s!"not enough values to unpack (expected {targets.length}, got {parts.length})")
          else if parts.length > targets.length then
            throw (Fault.raised .valueError
              s!"too many values to unpack (expected {targets.length})")
          else pure (targets.zip parts)
        | some i => do
          let after := targets.length - i - 1
          if parts.length < i + after then
            let least := i + after
            throw (Fault.raised .valueError
              s!"not enough values to unpack (expected at least {least}, got {parts.length})")
          else
            let middle := (parts.drop i).take (parts.length - i - after)
            let rest ← alloc (.value (.seq true (← middle.mapM box)))
            pure (targets.zip (parts.take i ++ [rest] ++ parts.drop (parts.length - after)))
      pairs.forM fun (x, d) => do
        let x := match x with
          | .starred inner => inner
          | x => x
        bindTarget fuel x d
    | _ => throw (Fault.raised .typeError "cannot assign to this target")

def truthOf (d : Datum) : Compute Bool := do
  match d with
  | .ref id =>
    match (← get).obj id with
    | .value (.generator _) => pure true
    | .set t => pure (t.used > 0)
    | _ => (← resolved d).truth
  | d => d.truth

def equalValues (a b : Datum) : Bool :=
  let value? (d : Datum) : Option Value := match d with
    | .scalar v | .element v _ => some v
    | _ => none
  match value? a, value? b with
  | some x, some y => (Value.compareBy .eq x y).toOption == some true
  | _, _ => Datum.equal 16 a b

def sameOrEqual (a b : Datum) : Compute Bool := do
  if let (.ref x, .ref y) := (a, b) then
    if x == y then return true
  return equalValues (← resolved a) (← resolved b)

def firstIndexM (p : Datum → Compute Bool) : List Datum → Nat → Compute (Option Nat)
  | [], _ => pure none
  | x :: xs, i => do if ← p x then return some i else firstIndexM p xs (i + 1)

def identical (a b : Datum) : Compute Bool := do
  match a, b with
  | .ref x, .ref y => return x == y
  | _, _ =>
    let pa ← resolved a
    let pb ← resolved b
    if keptOnce pa && keptOnce pb then return sameValue pa pb
    match pa, pb with
    | .function f, .function g => return f == g
    | .library x, .library y => return x == y
    | _, _ => return false

/-- Whether parts `l` and `r` of a formula, computed as `a` and `b`, are one object: one object or
one name's attribute twice. -/
def isSame (l r : Term) (a b : Datum) : Compute Bool := do
  if ← identical a b then return true
  match l, r, a, b with
  | .attr (.name x) m, .attr (.name y) m', .scalar _, .scalar _ => return x == y && m == m'
  | _, _, _, _ => return false

def containsRaw (rows : Array Value) (a b : Datum) : Compute Bool := do
  let inItems (xs : List Datum) : Compute Bool := xs.anyM (sameOrEqual · a)
  match b with
  | .ref id =>
    match (← get).obj id with
    | .value (.seq _ xs) => inItems xs
    | .value (.mapping es) => do
      Datum.checkKey 8 (← resolved a)
      let s ← get
      return es.any fun (k, _) => s.sameKey k a
    | .set t => do
      let h ← hashKey a
      let s ← get
      return t.holds s.sameKey a h
    | .value (.generator xs) => do
      let found ← firstIndexM (sameOrEqual · a) xs 0
      let left := match found with
        | some i => xs.drop (i + 1)
        | none => []
      store id (.value (.generator left))
      return found.isSome
    | .value _ => contains rows (← resolved a) (← resolved b)
  | .seq _ xs | .generator xs => inItems xs
  | _ => contains rows (← resolved a) (← resolved b)

def relate (rows : Array Value) (rel : Rel) (l r : Term) (a b : Datum) : Compute Datum := do
  match rel.cmp? with
  | some op => Datum.compare op (← resolved a) (← resolved b)
  | none =>
    match rel with
    | .isIn => return .scalar (.bool (← containsRaw rows a b))
    | .notIn => return .scalar (.bool !(← containsRaw rows a b))
    | .is => return .scalar (.bool (← isSame l r a b))
    | _ => return .scalar (.bool !(← isSame l r a b))

def binaryRaw (rows : Array Value) (op : BinOp) (a b : Datum) : Compute Datum := do
  let s ← get
  match op, ← setTable? a, ← setTable? b with
  | .bitOr, some x, some y => alloc (.set ((x.copy s.sameKey).merge s.sameKey y))
  | .bitAnd, some x, some y => alloc (.set (x.inter s.sameKey y))
  | .sub, some x, some y => alloc (.set (x.diff s.sameKey y))
  | .bitXor, some x, some y => alloc (.set (x.symDiff s.sameKey y))
  | _, _, _ =>
    let sa ← shallow a
    let sb ← shallow b
    let repeated (isList : Bool) (xs : List Datum) (n : Int) : Compute Datum :=
      let ys := (List.replicate n.toNat xs).flatten
      if isList then alloc (.value (.seq true ys)) else pure (.seq false ys)
    let plainly : Compute Datum := do Datum.binary rows op (← resolved a) (← resolved b)
    match op, sa, sb with
    | .add, .seq true xs, .seq true ys => alloc (.value (.seq true (xs ++ ys)))
    | .add, .seq false xs, .seq false ys => pure (.seq false (xs ++ ys))
    | .mul, .seq k xs, n =>
      match wholeOperand? n with
      | some n => repeated k xs n
      | none => plainly
    | .mul, n, .seq k xs =>
      match wholeOperand? n with
      | some n => repeated k xs n
      | none => plainly
    | _, _, _ => plainly

/-- The position in `c` of the cell key `k` picks: by row label, or by position through `iloc` and
`iat`. -/
def cellRow? (rows : Array Value) (c : Column) (how : String) (k : Datum) : Option Nat :=
  let key? : Option Value := match k with
    | .scalar v | .element v _ => some v
    | _ => none
  match how, key? with
  | "iloc", some v | "iat", some v =>
    match v with
    | .int i =>
      let n : Int := c.size
      let j := if i < 0 then i + n else i
      if 0 ≤ j && j < n then some j.toNat else none
    | .bool b => some (if b then 1 else 0)
    | _ => none
  | "", some v => (rowOf rows v true).toOption
  | _, some v => (rowOf rows v false).toOption
  | _, none => none

def dictItem (rows : Array Value) (es : List (Datum × Datum)) (k : Datum) : Compute Datum := do
  let p ← resolved k
  Datum.checkKey 8 p
  match (← get).entryOf es k with
  | some i => adopt (es.getD i (.scalar .none, .scalar .none)).2
  | none => throw (Fault.raised .keyError (p.texts rows 8).2)

/-- `a[k]` for computed data: list, tuple and dictionary items as their objects, a column's cell as
a new object. -/
def indexRaw (t : Table) (a k : Datum) : Compute Datum := do
  let rows := t.index
  let plainly : Compute Datum := do adopt (← itemOf rows (← resolved a) (← resolved k))
  let viaCell (id : Nat) (c : Column) (how : String) : Compute Datum := do
    let r ← itemOf rows (← resolved a) (← resolved k)
    match r with
    | .scalar (.list _ _) => adopt r
    | _ =>
      match (← get).columnName? id, cellRow? rows c how (← resolved k) with
      | some n, some i =>
        if c.dtype == .object && !keptOnce r then intern (.cell n i) (pure (.value r)) else pure r
      | _, _ => pure r
  match a with
  | .ref id =>
    match (← get).obj id with
    | .value (.seq isList items) => do adopt (← itemOf rows (.seq isList items) (← resolved k))
    | .value (.mapping es) => dictItem rows es k
    | .set _ => throw (Fault.raised .typeError "'set' object is not subscriptable")
    | .value (.column c) => viaCell id c ""
    | .value _ => plainly
  | .seq isList items => do adopt (← itemOf rows (.seq isList items) (← resolved k))
  | .bound (.ref id) how =>
    match (← get).obj id with
    | .value (.column c) => viaCell id c how
    | _ => plainly
  | _ => plainly

def sliceRaw (rows : Array Value) (a : Datum) (lo hi : Option Int) (step : Int) : Compute Datum := do
  if step == 0 then throw (Fault.raised .valueError "slice step cannot be zero")
  let pick (xs : List Datum) : List Datum :=
    (slicePositions xs.length lo hi step).map fun i => xs.getD i (.scalar .none)
  match a with
  | .ref id =>
    match (← get).obj id with
    | .value (.seq true xs) => alloc (.value (.seq true (pick xs)))
    | .value (.seq false xs) => pure (.seq false (pick xs))
    | _ => sliceOf rows (← resolved a) lo hi step
  | .seq false xs => pure (.seq false (pick xs))
  | _ => sliceOf rows (← resolved a) lo hi step

/-- `d.name` for a computed datum: a method bound to its object; a library's value a new object each
time. -/
def memberRaw (rows : Array Value) (d : Datum) (name : String) : Compute Datum := do
  let d ← ownObject d
  let missing (kind : String) : Compute Datum :=
    throw (Fault.raised .attributeError s!"'{kind}' object has no attribute '{name}'")
  let methodOf (names : List String) (kind : String) : Compute Datum :=
    if names.contains name then pure (.bound d name) else missing kind
  match d with
  | .ref id =>
    match (← get).obj id with
    | .value (.seq true _) => methodOf listMethodNames "list"
    | .value (.seq false _) => methodOf ["index", "count"] "tuple"
    | .value (.mapping _) => methodOf dictMethodNames "dict"
    | .value (.generator _) => missing "generator"
    | .set _ => methodOf setMethodNames "set"
    | .value _ =>
      match ← memberOf rows (← resolved d) name with
      | .bound _ m => pure (.bound d m)
      | m => pure m
  | .library lib => do
    let m ← Libraries.member lib name
    match m with
    | .scalar _ | .element _ _ =>
      if keptOnce m then pure m else intern (.member (lib ++ "." ++ name)) (pure (.value m))
    | m => pure m
  | .seq false _ => methodOf ["index", "count"] "tuple"
  | d => memberOf rows d name

def lessThan (a b : Datum) : Compute Bool := do
  let r ← Datum.compare .lt (← resolved a) (← resolved b)
  r.truth

/-- Sorts items stably by key as the language's list sort does, with `<` only, failing where it
fails. -/
def sortPairs (ps : List (Datum × Datum)) : Compute (List (Datum × Datum)) := do
  let size := ps.length
  if size < 2 then return ps
  let blank : Datum × Datum := (.scalar .none, .scalar .none)
  let start := ps.toArray
  let key (a : Array (Datum × Datum)) (i : Nat) : Datum := (a.getD i blank).1
  let descending ← lessThan (key start 1) (key start 0)
  let mut run := 2
  for i in [2:size] do
    if (← lessThan (key start i) (key start (i - 1))) == descending then run := run + 1
    else break
  let mut arr := if descending then (start.extract 0 run).reverse ++ start.extract run size
    else start
  for next in [run:size] do
    let pivot := arr.getD next blank
    let mut lo := 0
    let mut hi := next
    for _ in [0:size] do
      if lo < hi then
        let mid := (lo + hi) / 2
        if ← lessThan pivot.1 (key arr mid) then hi := mid else lo := mid + 1
    arr := ((arr.extract 0 lo).push pivot ++ arr.extract lo next) ++ arr.extract (next + 1) size
  return arr.toList

def searchBound (len : Int) (d : Option Datum) (default : Int) : Compute Int := do
  match d with
  | some d =>
    let i ← match ← resolved d with
      | .scalar (.int n) | .element (.int n) _ => pure n
      | .scalar (.bool b) => pure (if b then 1 else 0)
      | _ => throw (Fault.raised .typeError
          "slice indices must be integers or have an __index__ method")
    pure (if i < 0 then max 0 (i + len) else min i len)
  | none => pure default

def searchCall (rows : Array Value) (kind : String) (xs : List Datum) (name : String)
    (args : List Datum) (kwargs : List (String × Datum)) : Compute Datum := do
  let n := args.length
  if !kwargs.isEmpty then
    throw (Fault.raised .typeError s!"{kind}.{name}() takes no keyword arguments")
  match name with
  | "count" =>
    match args with
    | [x] => do
      let found ← xs.filterM (sameOrEqual · x)
      pure (.scalar (.int found.length))
    | _ => throw (Fault.raised .typeError
        s!"{kind}.count() takes exactly one argument ({n} given)")
  | _ => do
    if n == 0 then throw (Fault.raised .typeError "index expected at least 1 argument, got 0")
    if n > 3 then throw (Fault.raised .typeError s!"index expected at most 3 arguments, got {n}")
    let x := args.headD (.scalar .none)
    let len : Int := xs.length
    let lo ← searchBound len args[1]? 0
    let hi ← searchBound len args[2]? len
    let window := (xs.drop lo.toNat).take (hi - lo).toNat
    match ← firstIndexM (sameOrEqual · x) window 0 with
    | some i => pure (.scalar (.int (lo + i)))
    | none =>
      if kind == "list" then
        let shown := ((← resolved x).texts rows 16).2
        throw (Fault.raised .valueError s!"{shown} is not in list")
      else throw (Fault.raised .valueError "tuple.index(x): x not in tuple")

/-- Calls method `name` of list object `id` holding `xs`; `call` runs a sort's key; changing methods
give `None`. -/
def listCall (rows : Array Value) (call : Datum → List Datum → Compute Datum) (id : Nat)
    (xs : List Datum) (name : String) (args : List Datum) (kwargs : List (String × Datum)) :
    Compute Datum := do
  let n := args.length
  let put (ys : List Datum) : Compute Datum := do
    store id (.value (.seq true ys))
    pure (.scalar .none)
  if name == "index" || name == "count" then return ← searchCall rows "list" xs name args kwargs
  if name != "sort" && !kwargs.isEmpty then
    throw (Fault.raised .typeError s!"list.{name}() takes no keyword arguments")
  let one : Compute Datum := match args with
    | [x] => pure x
    | _ => throw (Fault.raised .typeError s!"list.{name}() takes exactly one argument ({n} given)")
  let noArgs : Compute Unit :=
    if n == 0 then pure ()
    else throw (Fault.raised .typeError s!"list.{name}() takes no arguments ({n} given)")
  match name with
  | "append" => do put (xs ++ [← box (← one)])
  | "extend" => do
    let items ← iterate (← one)
    put (xs ++ (← items.mapM box))
  | "insert" =>
    match args with
    | [i, x] => do
      let i ← Strings.intArg (← resolved i)
      let len : Int := xs.length
      let j := (if i < 0 then max 0 (i + len) else min i len).toNat
      let x ← box x
      put (xs.take j ++ [x] ++ xs.drop j)
    | _ => throw (Fault.raised .typeError s!"insert expected 2 arguments, got {n}")
  | "remove" => do
    let x ← one
    match ← firstIndexM (sameOrEqual · x) xs 0 with
    | some i => put (xs.eraseIdx i)
    | none => throw (Fault.raised .valueError "list.remove(x): x not in list")
  | "pop" => do
    if n > 1 then throw (Fault.raised .typeError s!"pop expected at most 1 argument, got {n}")
    let len : Int := xs.length
    let i ← match args with
      | [i] => Strings.intArg (← resolved i)
      | _ => pure (len - 1)
    if xs.isEmpty then throw (Fault.raised .indexError "pop from empty list")
    let j := if i < 0 then i + len else i
    if j < 0 || j ≥ len then throw (Fault.raised .indexError "pop index out of range")
    let item := xs.getD j.toNat (.scalar .none)
    let _ ← put (xs.eraseIdx j.toNat)
    pure item
  | "clear" => do
    noArgs
    put []
  | "reverse" => do
    noArgs
    put xs.reverse
  | "copy" => do
    noArgs
    alloc (.value (.seq true xs))
  | "sort" => do
    if n > 0 then throw (Fault.raised .typeError "sort() takes no positional arguments")
    for (k, _) in kwargs do
      if k != "key" && k != "reverse" then
        throw (Fault.raised .typeError s!"'{k}' is an invalid keyword argument for sort()")
    let reverse ← match (kwargs.find? (·.1 == "reverse")).map (·.2) with
      | some d => do pure ((← Strings.intArg (← resolved d)) != 0)
      | none => pure false
    let keys ← match (kwargs.find? (·.1 == "key")).map (·.2) with
      | some f =>
        if (← resolved f) matches .scalar .none then pure xs
        else xs.mapM fun x => call f [x]
      | none => pure xs
    let pairs := keys.zip xs
    let sorted ← sortPairs (if reverse then pairs.reverse else pairs)
    put ((if reverse then sorted.reverse else sorted).map (·.2))
  | _ => throw (Fault.raised .attributeError s!"'list' object has no attribute '{name}'")

def updatePairs (d : Datum) : Compute (List (Datum × Datum)) := do
  match ← shallow d with
  | .mapping es => pure es
  | _ => do
    let items ← iterate d
    let numbered := items.zip (List.range items.length)
    numbered.mapM fun (item, i) => do
      let parts ← match (← resolved item).items? with
        | .ok _ => iterate item
        | .error _ => throw (Fault.raised .typeError
            s!"cannot convert dictionary update sequence element #{i} to a sequence")
      match parts with
      | [k, v] => pure (k, v)
      | _ => throw (Fault.raised .valueError
          s!"dictionary update sequence element #{i} has length {parts.length}; 2 is required")

/-- Calls method `name` of dictionary object `id` holding `es`; changing methods give `None` unless
they take a value out. -/
def dictCall (rows : Array Value) (id : Nat) (es : List (Datum × Datum)) (name : String)
    (args : List Datum) (kwargs : List (String × Datum)) : Compute Datum := do
  let n := args.length
  let none' : Datum := .scalar .none
  let put (fs : List (Datum × Datum)) : Compute Unit := store id (.value (.mapping fs))
  if name != "update" && !kwargs.isEmpty then
    throw (Fault.raised .typeError s!"dict.{name}() takes no keyword arguments")
  let noArgs : Compute Unit :=
    if n == 0 then pure ()
    else throw (Fault.raised .typeError s!"dict.{name}() takes no arguments ({n} given)")
  let keyOf (k : Datum) : Compute (Option Nat) := do
    let p ← resolved k
    Datum.checkKey 8 p
    return (← get).entryOf es k
  match name with
  | "keys" => do
    noArgs
    pure (.seq true (es.map (·.1)))
  | "values" => do
    noArgs
    pure (.seq true (es.map (·.2)))
  | "items" => do
    noArgs
    pure (.seq true (es.map fun (k, v) => .seq false [k, v]))
  | "get" | "pop" | "setdefault" => do
    if n == 0 then throw (Fault.raised .typeError s!"{name} expected at least 1 argument, got 0")
    if n > 2 then throw (Fault.raised .typeError s!"{name} expected at most 2 arguments, got {n}")
    let k := args.headD none'
    match ← keyOf k with
    | some i =>
      let v := (es.getD i (none', none')).2
      if name == "pop" then put (es.eraseIdx i)
      adopt v
    | none =>
      match name, args[1]? with
      | "pop", some d => pure d
      | "pop", none => throw (Fault.raised .keyError ((← resolved k).texts rows 8).2)
      | "setdefault", d => do
        let v ← box (d.getD none')
        let k ← box k
        put (es ++ [(k, v)])
        pure v
      | _, d => pure (d.getD none')
  | "popitem" => do
    noArgs
    match es.getLast? with
    | some (k, v) => do
      put es.dropLast
      pure (.seq false [k, v])
    | none => throw (Fault.raised .keyError "'popitem(): dictionary is empty'")
  | "update" => do
    if n > 1 then throw (Fault.raised .typeError s!"update expected at most 1 argument, got {n}")
    let mut fs := es
    for other in args do
      for (k, v) in ← updatePairs other do
        Datum.checkKey 8 (← resolved k)
        let k ← box k
        let v ← box v
        fs := (← get).addEntry fs k v
    for (k, v) in kwargs do
      let v ← box v
      fs := (← get).addEntry fs (.scalar (.str k)) v
    put fs
    pure none'
  | "clear" => do
    noArgs
    put []
    pure none'
  | "copy" => do
    noArgs
    alloc (.value (.mapping es))
  | _ => throw (Fault.raised .attributeError s!"'dict' object has no attribute '{name}'")

def tableOf (d : Datum) : Compute SetTable := do
  match ← setTable? d with
  | some t => pure t
  | none => (← iterate d).foldlM setAdd {}

def updateWith (t : SetTable) (d : Datum) : Compute SetTable := do
  match ← setTable? d with
  | some other => do
    let s ← get
    pure (t.merge s.sameKey other)
  | none => (← iterate d).foldlM setAdd t

def interWith (t : SetTable) (d : Datum) : Compute SetTable := do
  match ← setTable? d with
  | some other => do
    let s ← get
    pure (t.inter s.sameKey other)
  | none =>
    (← iterate d).foldlM (fun r x => do
      let h ← hashKey x
      let s ← get
      pure (if t.holds s.sameKey x h then r.add s.sameKey x h else r)) {}

def discardAll (t : SetTable) (d : Datum) : Compute SetTable := do
  match ← setTable? d with
  | some other => do
    let s ← get
    pure (other.entries.foldl (fun r (k, h) => (r.discard s.sameKey k h).1) t)
  | none =>
    (← iterate d).foldlM (fun r x => do
      let h ← hashKey x
      let s ← get
      pure (r.discard s.sameKey x h).1) t

def diffWith (t : SetTable) (d : Datum) : Compute SetTable := do
  match ← setTable? d with
  | some other => do
    let s ← get
    pure (t.diff s.sameKey other)
  | none => do
    let s ← get
    discardAll (t.copy s.sameKey) d

/-- Calls method `name` of set object `id` with table `t`. Changing methods give `None`, but `pop`.
-/
def setCall (rows : Array Value) (id : Nat) (t : SetTable) (name : String) (args : List Datum)
    (kwargs : List (String × Datum)) : Compute Datum := do
  let n := args.length
  if !kwargs.isEmpty then
    throw (Fault.raised .typeError s!"set.{name}() takes no keyword arguments")
  let one : Compute Datum := match args with
    | [x] => pure x
    | _ => throw (Fault.raised .typeError s!"set.{name}() takes exactly one argument ({n} given)")
  let noArgs : Compute Unit :=
    if n == 0 then pure ()
    else throw (Fault.raised .typeError s!"set.{name}() takes no arguments ({n} given)")
  let put (u : SetTable) : Compute Datum := do
    store id (.set u)
    pure (.scalar .none)
  let s ← get
  match name with
  | "add" => do put (← setAdd t (← one))
  | "discard" | "remove" => do
    let x ← one
    let h ← hashKey x
    let s ← get
    let (u, found) := t.discard s.sameKey x h
    if !found && name == "remove" then
      throw (Fault.raised .keyError ((← resolved x).texts rows 8).2)
    put u
  | "pop" => do
    noArgs
    match t.pop? with
    | some (k, u) => do
      let _ ← put u
      pure k
    | none => throw (Fault.raised .keyError "'pop from an empty set'")
  | "clear" => do
    noArgs
    put {}
  | "copy" => do
    noArgs
    alloc (.set (t.copy s.sameKey))
  | "update" => do put (← args.foldlM updateWith t)
  | "union" => do alloc (.set (← args.foldlM updateWith (t.copy s.sameKey)))
  | "intersection" => do
    if args.isEmpty then alloc (.set (t.copy s.sameKey))
    else alloc (.set (← args.foldlM interWith t))
  | "intersection_update" => do put (← args.foldlM interWith t)
  | "difference" => do
    match args with
    | [] => alloc (.set (t.copy s.sameKey))
    | first :: rest => alloc (.set (← rest.foldlM discardAll (← diffWith t first)))
  | "difference_update" => do put (← args.foldlM discardAll t)
  | "symmetric_difference" => do
    let other ← tableOf (← one)
    let s ← get
    alloc (.set (t.symDiff s.sameKey other))
  | "symmetric_difference_update" => do
    let other ← tableOf (← one)
    let s ← get
    put (t.symDiff s.sameKey other)
  | "issubset" => do
    let other ← tableOf (← one)
    let s ← get
    return .scalar (.bool (t.used ≤ other.used &&
      t.entries.all fun (k, h) => other.holds s.sameKey k h))
  | "issuperset" => do
    let other ← tableOf (← one)
    let s ← get
    return .scalar (.bool (other.entries.all fun (k, h) => t.holds s.sameKey k h))
  | "isdisjoint" => do
    let other ← tableOf (← one)
    let s ← get
    return .scalar (.bool (other.entries.all fun (k, h) => !t.holds s.sameKey k h))
  | _ => throw (Fault.raised .attributeError s!"'set' object has no attribute '{name}'")

/-- The column methods that with `inplace=True` put their result into the column, when of its
length. -/
def inPlaceMethodNames : List String :=
  ["fillna", "clip", "replace", "interpolate", "where", "mask", "ffill", "bfill", "dropna",
   "drop_duplicates", "sort_index"]

def inplaceFlag (d : Datum) : Compute Bool := do
  match ← resolved d with
  | .scalar (.bool b) | .element (.bool b) _ => pure b
  | .scalar .none => pure false
  | p => throw (Fault.inner .valueError
      s!"For argument \"inplace\" expected type bool, received type {p.kindName}.")

/-- Column `c` with `other`'s present values: by row label from a column or dictionary, by position
from a list. -/
def updateColumn (rows : Array Value) (c : Column) (other : Datum) : Outcome Column := do
  let pairs : Array (Value × Value) ← match other with
    | .column o => pure (rows.zip o.cells)
    | .series o ls => pure (ls.zip o.cells)
    | .seq _ items => pure (items.toArray.mapIdx fun i d => (Value.int i, d.toCell rows 8))
    | .mapping es => pure (es.toArray.map fun (k, v) => (k.toCell rows 8, v.toCell rows 8))
    | .scalar v | .element v _ => pure #[(Value.int 0, v)]
    | d => throw (Fault.inner .typeError s!"'{d.kindName}' object is not iterable")
  let news := rows.map fun r =>
    (pairs.find? fun (l, _) => Value.same l r).bind fun (_, v) => if v.isMissing then none else some v
  let fraction (v : Option Value) : Bool := match v with
    | some (.float x) => x.isNaN || x.isInf || x != x.floor
    | _ => false
  if c.dtype.isInteger && news.any fraction then
    let cells := (c.cells.zip news).map fun (old, new) => (new.getD old).asFloat
    return { c with dtype := .float64, cells }
  let fit (v : Value) : Value := match c.dtype, v with
    | .float64, v => v.asFloat
    | d, .float x => if d.isInteger then .int x.toInt64.toInt else .float x
    | d, .bool b => if d.isInteger then .int (if b then 1 else 0) else .bool b
    | _, v => v
  return { c with cells := (c.cells.zip news).map fun (old, new) => (new.map fit).getD old }

/-- Calls method `name` of column object `id`; with `inplace=True` a changing method stores and
gives `None`. -/
def columnCall (rows : Array Value) (callback : Datum → List Datum → Outcome Datum)
    (call : Datum → List Datum → Compute Datum) (id : Nat) (c : Column) (name : String)
    (rawArgs : List Datum) (rawKwargs : List (String × Datum)) : Compute Datum := do
  let o : Owner := { col := c, labels := rows, aligned := true }
  let args ← rawArgs.mapM resolved
  let kwargs ← rawKwargs.mapM fun (k, v) => do pure (k, ← resolved v)
  if ["apply", "map", "transform", "agg", "aggregate"].contains name then
    let f? := param rawArgs rawKwargs 0 (if name == "map" then "arg" else "func")
    let stateful ← match f? with
      | some (.ref _) | some (.closure ..) | some (.bound (.ref _) _) => do
        pure ((← resolved (f?.getD (.scalar .none))) matches .closure .. | .bound _ _)
      | _ => pure false
    if let (true, some f) := (stateful, f?) then
      let skip := name == "map" &&
        (param args kwargs 1 "na_action") matches some (.scalar (.str "ignore"))
      let each : Compute Datum := do
        let cells ← c.cells.mapM fun v => do
          if skip && v.isMissing then pure v
          else
            let r ← call f [← adopt (.scalar v)]
            match ← resolved r with
            | .scalar r | .element r _ => pure r
            | _ => pure ((← get).cellOf 64 [] r)
        return .column (inferred c.label cells)
      -- an aggregation whose function fails on single values gets the whole column instead
      if name == "agg" || name == "aggregate" then
        return ← tryCatch each fun e =>
          if e.kind == .valueError || e.kind == .attributeError || e.kind == .typeError then
            call f [.column c]
          else throw e
      return ← each
  let put (d : Datum) : Compute Datum := do
    match d with
    | .column r | .series r _ =>
      if r.size == c.size then store id (.value (.column { r with label := c.label }))
    | _ => pure ()
    pure (.scalar .none)
  if name == "update" then
    match args ++ (kwargs.filter (·.1 == "other")).map (·.2) with
    | [other] => return ← put (.column (← updateColumn rows c other))
    | _ => throw (Fault.raised .typeError
        "Series.update() missing 1 required positional argument: 'other'")
  let inplace ← match kwargs.find? (·.1 == "inplace") with
    | some (_, v) => inplaceFlag v
    | none => pure false
  if !inplace then return ← Methods.call callback o name args kwargs
  if name == "sort_values" then
    throw (Fault.inner .valueError
      "This Series is a view of some other array, to sort in-place you must create a copy")
  let r ← Methods.call callback o name args (kwargs.filter (·.1 != "inplace"))
  if inPlaceMethodNames.contains name then put r else pure (.scalar .none)

/-- Runs a computation from state `s` as a library callback: its value as a plain datum. -/
def Compute.detached (s : Scope) (x : Compute Datum) : Outcome Datum :=
  ((x >>= resolved).run.run s).1

mutual

def evalTerm (t : Table) : Nat → Term → Compute Datum
  | 0, _ => throw recursionLimit
  | fuel + 1, term => do
    let rows := t.index
    match fold rows fuel term with
    | some d => constant fuel d
    | none =>
    match term with
    | .name n => lookupName t n
    | .int n => pure (.scalar (.int n))
    | .float x => pure (.scalar (.float x))
    | .imaginary x => pure (.scalar (.complex 0.0 x))
    | .str s => pure (.scalar (.str s))
    | .bytes s => pure (.bytes s)
    | .const v => pure (.scalar v)
    | .ellipsis => pure (.scalar (.other "ellipsis" "Ellipsis"))
    | .unary op e => do
      let d ← evalTerm t fuel e
      unaryOf op (← resolved d)
    | .not e => do
      let d ← evalTerm t fuel e
      return .scalar (.bool !(← truthOf d))
    | .binary op l r => do
      let a ← evalTerm t fuel l
      let b ← evalTerm t fuel r
      binaryRaw rows op a b
    | .logic isAnd l r => do
      let a ← evalTerm t fuel l
      if (← truthOf a) == isAnd then evalTerm t fuel r else pure a
    | .compare first rest => do
      let a ← evalTerm t fuel first
      let (_, _, result, _) ← rest.foldlM (fun (state : Term × Datum × Option Datum × Bool) (rel, e) => do
        let (curTerm, cur, result, stopped) := state
        if stopped then return state
        match result with
        | some r => if !(← truthOf r) then return (curTerm, cur, result, true)
        | none => pure ()
        let b ← evalTerm t fuel e
        let r ← relate rows rel curTerm e cur b
        return (e, b, some r, false)) (first, a, none, false)
      pure (result.getD a)
    | .call f args kwargs => return (← callTerm t fuel f args kwargs).plain
    | .attr e name => do
      -- an array keeps its form for its own members (the fields of a time index)
      let d ← evalKept t fuel e
      return (← memberRaw rows d name).plain
    | .index e i => do
      let a ← evalTerm t fuel e
      match i with
      | .slice lo hi step => do
        let bound (x : Option Term) : Compute (Option Int) := do
          match x with
          | some b => sliceBound (some (← resolved (← evalTerm t fuel b)))
          | none => pure none
        let lo ← bound lo
        let hi ← bound hi
        let step ← bound step
        return (← sliceRaw rows a lo hi (step.getD 1)).plain
      | _ => return (← indexRaw t a (← evalTerm t fuel i)).plain
    | .slice _ _ _ => throw (Fault.raised .syntaxError "invalid syntax")
    | .cond test body orElse => do
      if ← truthOf (← evalTerm t fuel test) then evalTerm t fuel body else evalTerm t fuel orElse
    | .tuple items => do
      let xs ← spreadItems t fuel false items
      return .seq false (← xs.mapM box)
    | .list items => do
      let xs ← spreadItems t fuel false items
      alloc (.value (.seq true (← xs.mapM box)))
    | .set items => do
      let constants : Option (List Datum) :=
        if items.length > 2 then items.mapM (fold rows fuel) else none
      match constants with
      | some ds => do
        let frozen ← frozenTable fuel ds
        let s ← get
        alloc (.set (({} : SetTable).merge s.sameKey frozen))
      | none => do
        let tbl ← items.foldlM (fun tbl item => do
          match item with
          | .starred e => updateWith tbl (← evalTerm t fuel e)
          | e => do setAdd tbl (← box (← evalTerm t fuel e))) {}
        alloc (.set tbl)
    | .dict items => do
      let entries ← items.foldlM (fun (acc : List (Datum × Datum)) (k, v) => do
        match k with
        | some ke => do
          let key ← box (← evalTerm t fuel ke)
          let value ← box (← evalTerm t fuel v)
          Datum.checkKey 8 (← resolved key)
          return (← get).addEntry acc key value
        | none => do
          match ← shallow (← evalTerm t fuel v) with
          | .mapping es => do
            let s ← get
            pure (es.foldl (fun acc (k, x) => s.addEntry acc k x) acc)
          | d => throw (Fault.raised .typeError s!"'{d.kindName}' object is not a mapping")) []
      alloc (.value (.mapping entries))
    | .starred _ => throw (Fault.raised .syntaxError "can't use starred expression here")
    | .walrus n e => do
      let d ← box (← evalTerm t fuel e)
      bindAssigned n d
      pure d
    | .lambda params body => do
      let params ← params.mapM fun (k, n, dflt) => do
        match dflt with
        | some e => pure (k, n, some (← box (← evalTerm t fuel e)))
        | none => pure (k, n, none)
      pure (.closure "<lambda>" params body (← get).chain)
    | .comp kind elt value clauses => do
      match clauses with
      | [] => throw (Fault.raised .syntaxError "invalid syntax")
      | (target, source, conds) :: more =>
        let items ← sourceItems t fuel source
        let saved ← enterFrame { comprehension := true }
        let found ← gather t fuel elt value target conds more items
        leaveFrame saved
        match kind with
        | .list => alloc (.value (.seq true (← found.mapM fun (k, _) => box k)))
        | .generator => alloc (.value (.generator (← found.mapM fun (k, _) => box k)))
        | .set => do
          let tbl ← found.foldlM (fun tbl (k, _) => do setAdd tbl (← box k)) {}
          alloc (.set tbl)
        | .dict => do
          let entries ← found.foldlM (fun (acc : List (Datum × Datum)) (k, v) => do
            let k ← box k
            let v ← box v
            Datum.checkKey 8 (← resolved k)
            return (← get).addEntry acc k v) []
          alloc (.value (.mapping entries))
    | .format pieces => return .scalar (.str (← formatted t fuel pieces))
    | .await _ => throw (Fault.raised .syntaxError "'await' outside function")
    | .yieldValue v delegating => do
      let d ← match v with
        | some e => evalTerm t fuel e
        | none => pure (.scalar .none)
      if delegating then
        for x in ← iterate d do yieldHere x
      else yieldHere (← box d)
      pure (.scalar .none)

/-- A format field's formula as `evalTerm` computes it, but an attribute, call or item giving an
array keeps it one. -/
def evalField (t : Table) : Nat → Term → Compute Datum
  | 0, _ => throw recursionLimit
  | fuel + 1, term => do
    match term with
    | .call f args kwargs => callTerm t fuel f args kwargs
    | .attr e name => memberRaw t.index (← evalTerm t fuel e) name
    | .index e i =>
      match i with
      | .slice lo hi step => do
        let a ← evalField t fuel e
        let bound (x : Option Term) : Compute (Option Int) := do
          match x with
          | some b => sliceBound (some (← resolved (← evalTerm t fuel b)))
          | none => pure none
        let lo ← bound lo
        let hi ← bound hi
        let step ← bound step
        sliceRaw t.index a lo hi (step.getD 1)
      | _ => do indexRaw t (← evalTerm t fuel e) (← evalTerm t fuel i)
    | _ => evalTerm t fuel term

/-- Calls what `f` computes with the terms' values; a text's `format` takes format fields as
arguments. -/
def callTerm (t : Table) : Nat → Term → List Term → List (String × Term) → Compute Datum
  | 0, _, _, _ => throw recursionLimit
  | fuel + 1, f, args, kwargs => do
      let callee ← evalTerm t fuel f
      let asFields := (← resolved callee) matches .bound (.scalar (.str _)) "format"
      -- the array library tells plain arrays from columns, so its arguments keep their form
      let keepArrays := match ← resolved callee with
        | .function name => name.startsWith "numpy."
        | .bound (.function _) _ => true
        | _ => false
      let values ← if keepArrays && !(args.any (· matches .starred _)) then
          args.mapM (evalKept t fuel)
        else spreadItems t fuel asFields args
      let named ← kwargs.foldlM (fun (acc : List (String × Datum)) (k, e) => do
        let v ← if asFields then evalField t fuel e else evalTerm t fuel e
        if k.isEmpty then
          match ← shallow v with
          | .mapping es =>
            let more ← es.mapM fun (key, x) => do
              match ← resolved key with
              | .scalar (.str s) => pure (s, x)
              | _ => throw (Fault.raised .typeError "keywords must be strings")
            pure (acc ++ more)
          | d => throw (Fault.raised .typeError s!"argument after ** must be a mapping, not {d.kindName}")
        else pure (acc ++ [(k, v)])) []
      apply t fuel callee values named

/-- An argument's value as made, a plain array staying one (else a call's result or member is taken
as its columns). -/
def evalKept (t : Table) : Nat → Term → Compute Datum
  | 0, _ => throw recursionLimit
  | fuel + 1, e =>
    match e with
    | .call f args kwargs => callTerm t fuel f args kwargs
    | .attr x name => do memberRaw t.index (← evalTerm t fuel x) name
    | .index x i => do
      if (fold t.index fuel e).isSome then return ← evalTerm t fuel e
      -- an array sliced stays an array
      let a ← evalKept t fuel x
      let base := if a matches .array _ _ then a else a.plain
      let r ← match i with
        | .slice lo hi step => do
          let bound (b : Option Term) : Compute (Option Int) := do
            match b with
            | some b => sliceBound (some (← resolved (← evalTerm t fuel b)))
            | none => pure none
          let lo ← bound lo
          let hi ← bound hi
          let step ← bound step
          sliceRaw t.index base lo hi (step.getD 1)
        | i => do indexRaw t a.plain (← evalTerm t fuel i)
      return if a matches .array _ _ && i matches .slice .. then r else r.plain
    | e => evalTerm t fuel e

def spreadItems (t : Table) : Nat → Bool → List Term → Compute (List Datum)
  | 0, _, _ => throw recursionLimit
  | _ + 1, _, [] => pure []
  | fuel + 1, asFields, item :: rest => do
    let here ← match item with
      | .starred e => do iterate (← evalTerm t fuel e)
      | e => do pure [← if asFields then evalField t fuel e else evalTerm t fuel e]
    return here ++ (← spreadItems t fuel asFields rest)

/-- The elements a comprehension gives: each source item bound to the target, kept when conditions
hold. -/
def gather (t : Table) : Nat → Term → Option Term → Target → List Term →
    List (Target × Term × List Term) → List Datum → Compute (List (Datum × Datum))
  | 0, _, _, _, _, _, _ => throw recursionLimit
  | fuel + 1, elt, value, target, conds, more, items =>
    items.foldlM (fun (acc : List (Datum × Datum)) item => do
      bindTarget fuel target item
      let keep ← conds.foldlM (fun ok c => do
        if !ok then pure false else truthOf (← evalTerm t fuel c)) true
      if !keep then return acc
      match more with
      | [] => do
        let k ← evalTerm t fuel elt
        match value with
        | some v => return acc ++ [(k, ← evalTerm t fuel v)]
        | none => return acc ++ [(k, k)]
      | (target', source', conds') :: rest => do
        let items' ← sourceItems t fuel source'
        return acc ++ (← gather t fuel elt value target' conds' rest items')) []

def sourceItems (t : Table) : Nat → Term → Compute (List Datum)
  | 0, _ => throw recursionLimit
  | fuel + 1, source => do
    match source with
    | .set items =>
      match items.mapM (fold t.index fuel) with
      | some ds => return (← frozenTable fuel ds).members
      | none => iterate (← evalTerm t fuel source)
    | _ => iterate (← evalTerm t fuel source)

def formatted (t : Table) : Nat → List (FormatPiece Term) → Compute String
  | 0, _ => throw recursionLimit
  | _ + 1, [] => pure ""
  | fuel + 1, piece :: rest => do
    let here ← match piece with
      | .text s => pure s
      | .field term echo conv spec => do
        let d ← resolved (← evalField t fuel term)
        let specText ← formatted t fuel spec
        let conv := if echo.isSome && conv.isNone && spec.isEmpty then some 'r' else conv
        let shown ← Strings.convert t.index conv d
        let text ← match shown.formatBy specText with
          | .ok s => pure s
          | .error (kind, msg) => throw (Fault.raised kind msg)
        pure (echo.getD "" ++ text)
    return here ++ (← formatted t fuel rest)

/-- Calls a computed datum: a `lambda` runs its body in a new frame chained to its own; methods act
on their object. -/
def apply (t : Table) : Nat → Datum → List Datum → List (String × Datum) → Compute Datum
  | 0, _, _, _ => throw recursionLimit
  | fuel + 1, callee, args, kwargs => do
    let rows := t.index
    let s ← get
    let callback : Datum → List Datum → Outcome Datum := fun f xs =>
      Compute.detached s (apply t fuel f xs [])
    let plainArgs ← args.mapM resolved
    let plainKwargs ← kwargs.mapM fun (k, v) => do pure (k, ← resolved v)
    match callee with
    | .ref id =>
      match s.obj id with
      | .value d => apply t fuel d args kwargs
      | .set _ => throw (Fault.raised .typeError "'set' object is not callable")
    | .closure name params body frames => do
      let binding ← bindParams name params args kwargs
      let binding ← binding.mapM fun (n, d) => do pure (n, ← box d)
      let saved := (← get).chain
      modify fun s => { s with chain := frames }
      let here := (← get).frames.size
      let _ ← enterFrame { vars := binding }
      let r ← evalTerm t fuel body
      let yields := ((← get).frames.getD here {}).yields
      leaveFrame saved
      -- a generator's body runs at once, its yielded values kept for whoever iterates it
      if Term.holdsYield fuel body then alloc (.value (.generator yields.toList)) else pure r
    | .function name =>
      if name.startsWith "numpy." then
        ArrayRoutines.call rows callback (name.drop 6).toString plainArgs plainKwargs
      else if name == "pandas.eval" then
        match plainArgs with
        | [.scalar (.str src)] =>
          match read src with
          | .ok term => evalTerm t fuel term
          | .error e => throw e
        | _ => throw (Fault.inner .valueError "expr must be a string")
      else if name.startsWith "pandas." then
        TableLibrary.call rows (name.drop 7).toString plainArgs plainKwargs
      else callFunction t name plainArgs plainKwargs
    | .bound (.ref oid) name =>
      match s.obj oid with
      | .value (.seq true xs) => listCall rows (fun f xs => apply t fuel f xs []) oid xs name args kwargs
      | .value (.seq false xs) => searchCall rows "tuple" xs name args kwargs
      | .value (.mapping es) => dictCall rows oid es name args kwargs
      | .set tbl => setCall rows oid tbl name args kwargs
      | .value (.column c) =>
        if let some e := indexerCall? name then throw e
        else columnCall rows callback (fun f xs => apply t fuel f xs []) oid c name args kwargs
      | .value _ => apply t fuel (.bound (← resolved (.ref oid)) name) args kwargs
    | .bound (.seq false xs) name => searchCall rows "tuple" xs name args kwargs
    | .bound owner name =>
      match owner with
      | .column _ | .series _ _ =>
        match Owner.of? rows owner with
        | some o =>
          if let some e := indexerCall? name then throw e
          else
            let r ← Methods.call callback o name plainArgs plainKwargs
            -- a column of its own changed in place is not kept anywhere
            match kwargs.find? (·.1 == "inplace") with
            | some (_, v) => if ← inplaceFlag v then pure (.scalar .none) else pure r
            | none => pure r
        | none => throw (Fault.raised .typeError "'method' object is not callable")
      | .accessor "str" c ls => Members.textCall (ls.getD rows) ls.isNone c name plainArgs plainKwargs
      | .accessor _ c ls => Members.timeMember (ls.getD rows) ls.isNone c name (some plainArgs)
      | .windowed w c ls => Windows.call w c (ls.getD rows) ls.isNone name plainArgs plainKwargs
      | .function f =>
        match name, plainArgs with
        | "reduce", [a] => ArrayLibrary.reduce callback rows f a
        | "accumulate", [a] => ArrayLibrary.accumulate rows f a
        | _, _ => throw (Fault.raised .typeError s!"{name}() takes exactly one positional argument")
      | o => callPlain rows o name plainArgs plainKwargs
    | .scalar (.other "type" kind) => Libraries.construct rows kind plainArgs
    | d => throw (Fault.raised .typeError s!"'{fullKind d}' object is not callable")

end

/-- What a formula changed outside itself: the cell lists reached, by identity, and columns changed
in place. -/
structure Effects where
  lists : List (Nat × List Value) := []
  columns : List (String × Column) := []
  deriving Inhabited

/-- Reads a formula and computes it over `t`'s rows; changed lists stay on failure, columns count on
success only. -/
def compute (t : Table) (src : String) : Outcome Datum × Effects :=
  match read src with
  | .error e => (.error e, {})
  | .ok term =>
    let (r, s) := Id.run ((evalTerm t (4 * src.length + 8) term).run.run {})
    match r with
    | .ok d => (.ok (s.plain d).plain, { lists := s.listChanges, columns := s.columnChanges })
    | .error e => (.error e, { lists := s.listChanges })

def run (t : Table) (src : String) : Outcome Datum :=
  (compute t src).1

end PipeQuery.Calc
