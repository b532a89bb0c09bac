import PipeQuery.Calc.Parse
import PipeQuery.Fault

/-!
# Calculations: a formula read whole

`Calc.read` reads a formula and checks it whole before it runs, as the language does: nesting
deeper than `depthLimit`, the names of `lambda` parameters and of `:=` in comprehensions, and
repeated keywords and `await` in calls, each with the language's message. Reading failures come
first, and a formula nested deeper than the reader can go fails with an empty message.
-/

namespace PipeQuery.Calc

mutual

/-- How deep a formula nests as the language's syntax tree. -/
def Term.nesting : Nat → Term → Nat
  | 0, _ => 0
  | fuel + 1, t =>
    let d := Term.nesting fuel
    let most (ts : List Term) : Nat := ts.foldl (fun m x => max m (d x)) 0
    match t with
    | .name _ | .int _ | .float _ | .imaginary _ | .str _ | .bytes _ | .const _ | .ellipsis => 1
    | .unary _ e | .not e | .attr e _ | .starred e | .await e => 1 + d e
    | .yieldValue v _ => 1 + (v.map d).getD 0
    | .binary _ l r => 1 + max (d l) (d r)
    | .logic isAnd l r => 1 + max (Term.operandNesting fuel isAnd l) (d r)
    | .compare first rest => 1 + max (d first) (most (rest.map (·.2)))
    | .call f args kwargs => 1 + max (d f) (max (most args) (most (kwargs.map (·.2))))
    | .index e i => 1 + max (d e) (d i)
    | .slice lo hi step => 1 + most ([lo, hi, step].filterMap id)
    | .cond a b c => 1 + max (d a) (max (d b) (d c))
    | .tuple items | .list items | .set items => 1 + most items
    | .dict items => 1 + most (items.filterMap (·.1) ++ items.map (·.2))
    | .walrus _ e => 1 + max 1 (d e)
    | .lambda params body => 1 + max (d body) (most (params.filterMap (·.2.2)))
    | .comp _ elt value clauses =>
      let clauseDepth := clauses.foldl (fun m (target, source, conds) =>
        max m (max (Target.nesting fuel target) (max (d source) (most conds)))) 0
      1 + max (d elt) (max (most value.toList) clauseDepth)
    | .format pieces => 1 + Term.piecesNesting fuel pieces

def Target.nesting : Nat → Target → Nat
  | 0, _ => 0
  | fuel + 1, t =>
    match t with
    | .name _ => 1
    | .several items => 1 + items.foldl (fun m x => max m (Target.nesting fuel x)) 0
    | .starred x => 1 + Target.nesting fuel x
    | .part e => Term.nesting fuel e

/-- How deep the operands of a chain of `and` (or of `or`) nest, the chain's own links not counted.
-/
def Term.operandNesting : Nat → Bool → Term → Nat
  | 0, _, _ => 0
  | fuel + 1, isAnd, t =>
    match t with
    | .logic op l r =>
      if op == isAnd then max (Term.operandNesting fuel isAnd l) (Term.nesting fuel r)
      else Term.nesting fuel t
    | t => Term.nesting fuel t

def Term.piecesNesting : Nat → List (FormatPiece Term) → Nat
  | 0, _ => 0
  | fuel + 1, ps =>
    ps.foldl (fun m p => max m (match p with
      | .text _ => 1
      | .field e _ _ spec =>
        1 + max (Term.nesting fuel e) (if spec.isEmpty then 0 else 1 + Term.piecesNesting fuel spec))) 0

end

/-- How deep a formula's parts may nest before the language gives up compiling it. -/
def depthLimit : Nat := 2976

/-- A scope of names while checking a formula: the module, a `lambda` or a comprehension. -/
structure NameScope where
  isComprehension : Bool := false
  gathers : String := ""
  params : List String := []
  loopNames : List String := []
  assigned : List String := []
  inSource : Nat := 0
  inTarget : Bool := false

abbrev NameCheck := StateT (List NameScope) (Except String)

def NameCheck.modifyTop (f : NameScope → NameScope) : NameCheck Unit :=
  modify fun ss => match ss with
    | s :: rest => f s :: rest
    | [] => []

def NameCheck.assignment (name : String) : NameCheck Unit := do
  let ss ← get
  match ss with
  | top :: _ =>
    if top.inSource > 0 then
      throw "assignment expression cannot be used in a comprehension iterable expression"
    if top.isComprehension then
      for s in ss.takeWhile (·.isComprehension) do
        if s.loopNames.contains name then
          throw s!"assignment expression cannot rebind comprehension iteration variable '{name}'"
      NameCheck.modifyTop fun s => { s with assigned := name :: s.assigned }
  | [] => pure ()

def NameCheck.variable (name : String) : NameCheck Unit := do
  let ss ← get
  if let top :: _ := ss then
    if top.assigned.contains name then
      throw s!"comprehension inner loop cannot rebind assignment expression target '{name}'"
  NameCheck.modifyTop fun s => { s with loopNames := name :: s.loopNames }

/-- Looks at `r` inside a clause's targets, where every name met becomes a variable of the
comprehension. -/
def NameCheck.inTarget {α : Type} (r : NameCheck α) : NameCheck α := do
  NameCheck.modifyTop fun s => { s with inTarget := true }
  let v ← r
  NameCheck.modifyTop fun s => { s with inTarget := false }
  return v

def NameCheck.inSource {α : Type} (r : NameCheck α) : NameCheck α := do
  NameCheck.modifyTop fun s => { s with inSource := s.inSource + 1 }
  let v ← r
  NameCheck.modifyTop fun s => { s with inSource := s.inSource - 1 }
  return v

/-- A `lambda`'s parameters as the language records them: positional, keyword-only, then `*args` and
`**kwargs`. -/
def paramOrder (params : List (ParamKind × String × Option Term)) : List String :=
  let of (ks : List ParamKind) := (params.filter fun (k, _, _) => ks.contains k).map (·.2.1)
  of [.positionalOnly, .plain] ++ of [.keywordOnly] ++ of [.varArgs] ++ of [.varKeywords]

mutual

def Term.checkNames : Nat → Term → NameCheck Unit
  | 0, _ => pure ()
  | fuel + 1, t => do
    let c := Term.checkNames fuel
    match t with
    | .name n => do
      if let top :: _ := (← get) then
        if top.inTarget then NameCheck.variable n
    | .int _ | .float _ | .imaginary _ | .str _ | .bytes _ | .const _ | .ellipsis => pure ()
    | .unary _ e | .not e | .attr e _ | .starred e | .await e => c e
    | .yieldValue v _ => do
      if let some e := v then c e
      if let top :: _ := (← get) then
        if top.isComprehension then throw s!"'yield' inside {top.gathers}"
    | .binary _ l r | .logic _ l r | .index l r => do c l; c r
    | .compare first rest => do c first; for (_, e) in rest do c e
    | .call f args kwargs => do
      c f
      for a in args do c a
      for (_, v) in kwargs do c v
    | .slice lo hi step => for e in [lo, hi, step].filterMap id do c e
    | .cond a b e => do c a; c b; c e
    | .tuple items | .list items | .set items => for e in items do c e
    | .dict items => for (k, v) in items do
        if let some k := k then c k
        c v
    | .walrus n e => do
      NameCheck.assignment n
      c e
      c (.name n)
    | .lambda params body => do
      for (_, _, dflt) in params do
        if let some e := dflt then c e
      let names := paramOrder params
      let dup := (names.zip (List.range names.length)).find? fun (n, i) => (names.take i).contains n
      if let some (n, _) := dup then throw s!"duplicate argument '{n}' in function definition"
      modify fun ss => { params := names } :: ss
      c body
      modify fun ss => ss.drop 1
    | .comp kind elt value clauses =>
      match clauses with
      | [] => pure ()
      | (target, source, conds) :: more => do
        NameCheck.inSource (c source)
        let gathers := match kind with
          | .list => "list comprehension"
          | .set => "set comprehension"
          | .dict => "dict comprehension"
          | .generator => "generator expression"
        modify fun ss => { isComprehension := true, gathers } :: ss
        NameCheck.inTarget (Target.checkNames fuel target)
        for e in conds do c e
        for (target, source, conds) in more do
          NameCheck.inTarget (Target.checkNames fuel target)
          NameCheck.inSource (c source)
          for e in conds do c e
        if let some v := value then c v
        c elt
        modify fun ss => ss.drop 1
    | .format pieces => Term.checkPieceNames fuel pieces

def Target.checkNames : Nat → Target → NameCheck Unit
  | 0, _ => pure ()
  | fuel + 1, t =>
    match t with
    | .name n => NameCheck.variable n
    | .several items => for x in items do Target.checkNames fuel x
    | .starred x => Target.checkNames fuel x
    | .part e => Term.checkNames fuel e

def Term.checkPieceNames : Nat → List (FormatPiece Term) → NameCheck Unit
  | 0, _ => pure ()
  | fuel + 1, ps =>
    for p in ps do
      match p with
      | .text _ => pure ()
      | .field e _ _ spec => do
        Term.checkNames fuel e
        Term.checkPieceNames fuel spec

end

/-- Where a part of a formula stands for the `await` check: top level, a `lambda`, or a
comprehension. -/
inductive Place
  | top | function | comprehension
  deriving DecidableEq, Inhabited

mutual

/-- Whether `await` appears in a formula outside any `lambda`. -/
def Term.awaits : Nat → Term → Bool
  | 0, _ => false
  | fuel + 1, t =>
    let a := Term.awaits fuel
    match t with
    | .await _ => true
    | .yieldValue v _ => (v.map a).getD false
    | .lambda params _ => params.any fun (_, _, d) => (d.map a).getD false
    | .unary _ e | .not e | .attr e _ | .starred e | .walrus _ e => a e
    | .binary _ l r | .logic _ l r | .index l r => a l || a r
    | .compare first rest => a first || rest.any (a ·.2)
    | .call f args kwargs => a f || args.any a || kwargs.any (a ·.2)
    | .slice lo hi step => [lo, hi, step].any fun e => (e.map a).getD false
    | .cond x y z => a x || a y || a z
    | .tuple items | .list items | .set items => items.any a
    | .dict items => items.any fun (k, v) => (k.map a).getD false || a v
    | .comp _ elt value clauses =>
      a elt || (value.map a).getD false ||
        clauses.any fun (_, source, conds) => a source || conds.any a
    | .format pieces => Term.piecesAwait fuel pieces
    | _ => false

def Term.piecesAwait : Nat → List (FormatPiece Term) → Bool
  | 0, _ => false
  | fuel + 1, ps => ps.any fun p => match p with
    | .text _ => false
    | .field e _ _ spec => Term.awaits fuel e || Term.piecesAwait fuel spec

end

/-- Whether a `lambda`'s body holds a `yield` of its own (not one of a nested `lambda`, defaults
apart), making it a generator. -/
def Term.holdsYield : Nat → Term → Bool
  | 0, _ => false
  | fuel + 1, t =>
    let a := Term.holdsYield fuel
    match t with
    | .yieldValue _ _ => true
    | .lambda params _ => params.any fun (_, _, d) => (d.map a).getD false
    | .unary _ e | .not e | .attr e _ | .starred e | .walrus _ e | .await e => a e
    | .binary _ l r | .logic _ l r | .index l r => a l || a r
    | .compare first rest => a first || rest.any (a ·.2)
    | .call f args kwargs => a f || args.any a || kwargs.any (a ·.2)
    | .slice lo hi step => [lo, hi, step].any fun e => (e.map a).getD false
    | .cond x y z => a x || a y || a z
    | .tuple items | .list items | .set items => items.any a
    | .dict items => items.any fun (k, v) => (k.map a).getD false || a v
    | .comp _ _ _ ((_, source, _) :: _) => a source
    | .format pieces => pieces.any fun p => match p with
      | .field e _ _ _ => a e
      | .text _ => false
    | _ => false

mutual

/-- Checks a part of a formula as compiling it does, in its order; `place` tells where the part
stands. -/
def Term.checkCompiled : Nat → Place → Term → Except String Unit
  | 0, _, _ => pure ()
  | fuel + 1, place, t => do
    let c := Term.checkCompiled fuel place
    match t with
    | .await e => do
      if place == .top then throw "'await' outside function"
      if place == .function then throw "'await' outside async function"
      c e
    | .yieldValue v _ => do
      if place == .top then throw "'yield' outside function"
      if let some e := v then c e
    | .call f args kwargs => do
      let named := (kwargs.map (·.1)).filter (!·.isEmpty)
      for (k, i) in named.zip (List.range named.length) do
        if k == "__debug__" then throw "cannot assign to __debug__"
        if (named.drop (i + 1)).contains k then throw s!"keyword argument repeated: {k}"
      c f
      for x in args do c x
      for (_, v) in kwargs do c v
    | .unary _ e | .not e | .attr e _ | .starred e | .walrus _ e => c e
    | .binary _ l r | .logic _ l r | .index l r => do c l; c r
    | .compare first rest => do c first; for (_, e) in rest do c e
    | .slice lo hi step => for e in [lo, hi, step].filterMap id do c e
    | .cond x y z => do c x; c y; c z
    | .tuple items | .list items | .set items => for e in items do c e
    | .dict items => for (k, v) in items do
        if let some k := k then c k
        c v
    | .lambda params body => do
      if params.any (·.2.1 == "__debug__") then throw "cannot assign to __debug__"
      for (_, _, dflt) in params do
        if let some e := dflt then c e
      Term.checkCompiled fuel .function body
    | .comp kind elt value clauses =>
      match clauses with
      | [] => pure ()
      | (target, source, conds) :: more => do
        let inner := Term.checkCompiled fuel .comprehension
        let asyncBody := elt :: value.toList ++ conds ++
          more.flatMap fun (_, s, cs) => s :: cs
        if kind != .generator && place != .comprehension &&
            asyncBody.any (Term.awaits fuel) then
          throw "asynchronous comprehension outside of an asynchronous function"
        Target.checkCompiled fuel true target
        for e in conds do inner e
        for (x, s, cs) in more do
          inner s
          Target.checkCompiled fuel true x
          for e in cs do inner e
        match kind, value with
        | .dict, some v => do inner elt; inner v
        | _, _ => inner elt
        c source
    | .format pieces => Term.checkCompiledPieces fuel place pieces
    | _ => pure ()

/-- Checks a clause's target as compiled: no `__debug__`, one starred target at most, only among
several. -/
def Target.checkCompiled : Nat → Bool → Target → Except String Unit
  | 0, _, _ => pure ()
  | fuel + 1, top, t =>
    match t with
    | .name n => if n == "__debug__" then throw "cannot assign to __debug__" else pure ()
    | .several items => do
      if (items.filter (· matches .starred _)).length > 1 then
        throw "multiple starred expressions in assignment"
      for x in items do Target.checkCompiled fuel false x
    | .starred x =>
      if top then throw "starred assignment target must be in a list or tuple"
      else Target.checkCompiled fuel true x
    | .part (.attr e n) => do
      Term.checkCompiled fuel .comprehension e
      if n == "__debug__" then throw "cannot assign to __debug__"
    | .part (.index e i) => do
      Term.checkCompiled fuel .comprehension e
      Term.checkCompiled fuel .comprehension i
    | .part e => Term.checkCompiled fuel .comprehension e

def Term.checkCompiledPieces : Nat → Place → List (FormatPiece Term) → Except String Unit
  | 0, _, _ => pure ()
  | fuel + 1, place, ps =>
    for p in ps do
      match p with
      | .text _ => pure ()
      | .field e _ _ spec => do
        Term.checkCompiled fuel place e
        Term.checkCompiledPieces fuel place spec

end

def read (src : String) : Outcome Term := do
  if src.contains (Char.ofNat 0) then
    throw (Fault.raised .syntaxError "source code string cannot contain null bytes")
  -- a carriage return, alone or before a line feed, ends a line as a line feed does
  let src := (src.replace "\r\n" "\n").replace "\r" "\n"
  let fuel := 4 * src.length + 16
  match readSource fuel 0 src with
  | .error .tooDeep => throw (Fault.raised .memoryError "")
  | .error (.message m) => throw (Fault.raised .syntaxError (m ++ " (<string>, line 1)"))
  | .error (.located m line) | .error (.cutting m line) =>
    throw (Fault.raised .syntaxError (m ++ s!" (<string>, line {line})"))
  | .error .plain => throw (Fault.raised .syntaxError "invalid syntax (<string>, line 1)")
  | .ok t =>
    if Term.nesting fuel t > depthLimit then
      throw (Fault.raised .recursionError "maximum recursion depth exceeded during compilation")
    let located (r : Except String Unit) : Outcome Unit :=
      r.mapError fun m => Fault.raised .syntaxError (m ++ " (<string>, line 1)")
    located ((Term.checkNames fuel t).run' [{}])
    located (Term.checkCompiled fuel .top t)
    pure t

end PipeQuery.Calc
