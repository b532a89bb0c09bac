import PipeQuery.Calc.Lex
import PipeQuery.Calc.Literal
import PipeQuery.Calc.Template

/-!
# Calculations: reading a formula

A recursive descent over the tokens, one function a precedence level. A malformed formula is
refused with the language's message: the cutter's message, `'(' was never closed` at the end
with a bracket open, the specific message of a form that is never valid, and `invalid syntax`
otherwise. A field of a formatted text is read as a formula of its own; its messages start with
`f-string: `.
-/

namespace PipeQuery.Calc

/-- The reading state: position, furthest token seen, bracket and nesting depth, and the positions
read quietly, checked or tried. -/
structure Cursor where
  pos : Nat := 0
  far : Nat := 0
  depth : Nat := 0
  nest : Nat := 0
  checks : Bool := true
  quietExpressions : List Nat := []
  quietDisjunctions : List Nat := []
  checked : List Nat := []
  tried : List Nat := []
  memo : Bool := false

/-- `cur` after a look ahead ending at `c`: its own position, depth and checks, with `c`'s furthest
token and memo. -/
def Cursor.after (cur c : Cursor) : Cursor :=
  { cur with
    far := max cur.far c.far
    quietExpressions := c.quietExpressions
    quietDisjunctions := c.quietDisjunctions
    checked := c.checked
    tried := c.tried }

/-- Why reading failed: invalid syntax, an error with its own message, or too deep a nesting. -/
inductive ReadFailure
  | plain
  | message (text : String)
  | located (text : String) (line : Nat)
  /-- A failure of cutting the formula into tokens, on its line; a formatted text's field reports it
  as it is. -/
  | cutting (text : String) (line : Nat)
  | tooDeep
  deriving Inhabited

abbrev Reader := ExceptT ReadFailure (StateM Cursor)

/-- Entering or leaving a bracket. -/
def openBracket : Reader Unit := modify fun c => { c with depth := c.depth + 1 }

def closeBracket : Reader Unit := modify fun c => { c with depth := c.depth - 1 }

/-- How deep the reader may go, counted from the formula's start; about thirty per bracket. -/
def nestLimit : Nat := 5976

def softKeywords : List String :=
  ["match", "case", "_"]

/-- Whether the reader takes a name for a soft keyword, comparing over the name's length, so a
prefix (`m`, `ca`) counts. -/
def isSoftKeyword (n : String) : Bool :=
  !n.isEmpty && softKeywords.any fun w => n.toList.isPrefixOf w.toList

section Reading

variable (ts : Array Tok)

def peekTok : Reader Tok := do
  let c ← get
  set { c with far := max c.far c.pos }
  return ts.getD c.pos .stop

def peekNext : Reader Tok := do
  let c ← get
  set { c with far := max c.far (c.pos + 1) }
  return ts.getD (c.pos + 1) .stop

/-- Whether a `for` clause comes next, looking past an `async`. -/
def forAhead : Reader Bool := do
  match ← peekTok ts with
  | .name "for" => return true
  | .name "async" => do
    let _ ← peekNext ts
    return false
  | _ => return false

def skipTok : Reader Unit :=
  modify fun c => { c with pos := c.pos + 1 }

/-- Whether the next token is operator `s`; if so it is taken. -/
def takeOp (s : String) : Reader Bool := do
  if (← peekTok ts) == .op s then
    skipTok
    return true
  return false

def takeWord (w : String) : Reader Bool := do
  if (← peekTok ts) == .name w then
    skipTok
    return true
  return false

def invalid {α : Type} : Reader α :=
  throw .plain

def fail {α : Type} (msg : String) : Reader α :=
  throw (.message msg)

/-- Fails with the message of a never valid form, or plain invalid syntax while looking ahead. -/
def refuse {α : Type} (msg : String) : Reader α := do
  if (← get).checks then fail msg else invalid

/-- Runs `r` `k` levels deeper, failing when that passes `nestLimit`. -/
def deeper {α : Type} (k : Nat) (r : Reader α) : Reader α := do
  let c ← get
  if c.nest + k ≥ nestLimit then throw .tooDeep
  set { c with nest := c.nest + k }
  let v ← r
  modify fun c => { c with nest := c.nest - k }
  return v

def needOp (s : String) : Reader Unit := do
  if !(← takeOp ts s) then invalid

/-- Whether `r` reads here, looking ahead quietly; a failure with a message anyway is passed on. -/
def readsHere {α : Type} (r : Reader α) : Reader Bool := do
  let cur ← get
  match (r.run).run { cur with checks := false } with
  | (.ok _, c) =>
    set (cur.after c)
    return true
  | (.error e, c) =>
    set (cur.after c)
    match e with
    | .plain => return false
    | e => throw e

/-- Runs `r` without the specific messages, then goes on with them as before. -/
def quietly {α : Type} (r : Reader α) : Reader α := do
  let before := (← get).checks
  modify fun c => { c with checks := false }
  try
    let v ← r
    modify fun c => { c with checks := before }
    return v
  catch e =>
    modify fun c => { c with checks := before }
    throw e

/-- Whether `r` reads from here, with its messages; the position is put back, failures other than
invalid syntax passed on. -/
def succeeds {α : Type} (r : Reader α) : Reader Bool := do
  let cur ← get
  match (r.run).run cur with
  | (.ok _, c) =>
    set (cur.after c)
    return true
  | (.error .plain, c) =>
    set (cur.after c)
    return false
  | (.error e, c) =>
    set c
    throw e

/-- Runs `r`; on invalid syntax puts the position back and gives nothing. Other failures are passed
on. -/
def attempt {α : Type} (r : Reader α) : Reader (Option α) := do
  let cur ← get
  match (r.run).run cur with
  | (.ok v, c) =>
    set c
    return some v
  | (.error .plain, c) =>
    set (cur.after c)
    return none
  | (.error e, c) =>
    set c
    throw e

end Reading

def textValue (body : String) (raw isBytes : Bool) : Reader String :=
  match if isBytes then unescapeBytes body raw else if raw then pure body else unescape body with
  | .ok v => pure v
  | .error e => fail e

def Tok.startsTerm : Tok → Bool
  | .name w => !keywords.contains w || ["True", "False", "None", "not", "lambda", "await"].contains w
  | .number _ | .text .. | .word _ => true
  | .op s => ["(", "[", "\x7b", "-", "+", "~", "..."].contains s
  | _ => false

def numberTerm (text : String) : Term :=
  let t := String.ofList (text.toList.filter (· != '_'))
  let lower := Text.lower t
  if lower.startsWith "0x" then .int (Regex.digitsIn 16 (String.ofList (t.toList.drop 2)))
  else if lower.startsWith "0o" then .int (Regex.digitsIn 8 (String.ofList (t.toList.drop 2)))
  else if lower.startsWith "0b" then .int (Regex.digitsIn 2 (String.ofList (t.toList.drop 2)))
  else if lower.endsWith "j" then .imaginary ((Text.readFloat? (String.ofList t.toList.dropLast)).getD 0.0)
  else if t.any (fun c => c == '.' || c == 'e' || c == 'E') then .float ((Text.readFloat? t).getD 0.0)
  else .int (Regex.digitsIn 10 t)

def binaryLevels : List (List (String × BinOp)) :=
  [[("|", .bitOr)], [("^", .bitXor)], [("&", .bitAnd)],
   [("<<", .shiftLeft), (">>", .shiftRight)], [("+", .add), ("-", .sub)],
   [("*", .mul), ("/", .div), ("//", .floorDiv), ("%", .mod), ("@", .matMul)]]

/-- The comparison a token stands for, `not` and `is` needing a look at the next token. -/
def relOf? (t : Tok) : Option Rel :=
  match t with
  | .op "<" => some .lt
  | .op ">" => some .gt
  | .op "<=" => some .le
  | .op ">=" => some .ge
  | .op "==" => some .eq
  | .op "!=" => some .ne
  | .name "in" => some .isIn
  | .name "is" => some .is
  | _ => none

/-- What messages about assignments call a kind of expression. -/
def Term.kindWord : Term → String
  | .attr .. => "attribute"
  | .index .. => "subscript"
  | .starred _ => "starred"
  | .name _ => "name"
  | .list _ => "list"
  | .tuple _ => "tuple"
  | .lambda .. => "lambda"
  | .call .. => "function call"
  | .logic .. | .binary .. | .unary .. | .not _ => "expression"
  | .comp .generator .. => "generator expression"
  | .await _ => "await expression"
  | .yieldValue .. => "yield expression"
  | .comp .list .. => "list comprehension"
  | .comp .set .. => "set comprehension"
  | .comp .dict .. => "dict comprehension"
  | .dict _ => "dict literal"
  | .set _ => "set display"
  | .format _ => "f-string expression"
  | .const .none => "None"
  | .const (.bool false) => "False"
  | .const (.bool true) => "True"
  | .ellipsis => "ellipsis"
  | .compare .. => "comparison"
  | .cond .. => "conditional expression"
  | .walrus .. => "named expression"
  | _ => "literal"

/-- The first part of `e` a `for` clause could not assign to. -/
def Term.badTarget : Nat → Term → Option Term
  | 0, _ => none
  | fuel + 1, e =>
    match e with
    | .list items | .tuple items => items.findSome? (Term.badTarget fuel)
    | .starred x => Term.badTarget fuel x
    | .compare l ((.isIn, _) :: _) => Term.badTarget fuel l
    | .compare _ _ => none
    | .name _ | .index .. | .attr .. => none
    | e => some e

abbrev Params := List (ParamKind × String × Option Term)

section Reading

variable (ts : Array Tok) (field : String → Except ReadFailure Term)

mutual

/-- An expression (see `conditional`), read without the specific messages where it was first
read so. -/
def expression : Nat → Reader Term
  | 0 => invalid
  | fuel + 1 => do
    let c ← get
    if c.memo && !c.checks && !c.quietExpressions.contains c.pos then
      set { c with quietExpressions := c.pos :: c.quietExpressions }
    if c.checks && c.quietExpressions.contains c.pos then quietly (conditional fuel)
    else conditional fuel

/-- `a if c else b`, a `lambda`, or a disjunction. -/
def conditional : Nat → Reader Term
  | 0 => invalid
  | fuel + 1 => do
    if ← takeWord ts "lambda" then
      let params ← lambdaParams fuel [] false false
      return .lambda params (← deeper 2 (expression fuel))
    let start := (← get).pos
    let a ← disjunction fuel
    if (← peekTok ts) == .name "if" then
      let cond ← attempt do
        skipTok
        let c ← disjunction fuel
        if ← takeWord ts "else" then return Term.cond c a (← deeper 1 (expression fuel))
        else if (← peekTok ts) == .op ":" then invalid
        else refuse "expected 'else' after 'if' expression"
      if let some e := cond then return e
    let first := ts.getD start .stop
    let second := ts.getD (start + 1) .stop
    let legacy := match first, a with
      | .name n, .name m => n == m && (n == "print" || n == "exec")
      | _, _ => false
    let next ← peekTok ts
    let cur ← get
    if cur.checks then
      let nameThenText := match first with
        | .name n => !keywords.contains n && (second matches .text ..)
        | _ => false
      let soft := match first with
        | .name n => isSoftKeyword n
        | _ => false
      if next.startsTerm && !nameThenText && !soft then
        if (← readsHere (conditional fuel)) && cur.depth > 0 && !legacy then
          fail "invalid syntax. Perhaps you forgot a comma?"
      -- a name not called, followed by expressions (which are read with their messages): a call
      -- of `print` or `exec` without brackets; looked at once for each position
      let plainName : Option String := match first with
        | .name n => if !keywords.contains n && second != Tok.op "(" then some n else none
        | _ => none
      if let some n := plainName then
        if !((← get).checked.contains start) then
          let here : Cursor ← get
          set { here with pos := start + 1, checked := start :: here.checked }
          let reads ← succeeds (starExpressions fuel)
          modify fun c => { c with pos := here.pos }
          if reads && (n == "print" || n == "exec") then
            fail s!"Missing parentheses in call to '{n}'. Did you mean {n}(...)?"
    return a

/-- The parameters of a `lambda` up to its `:`, with the language's rules on defaults, `/`, `*` and
`**`. -/
def lambdaParams : Nat → Params → Bool → Bool → Reader Params
  | 0, _, _, _ => invalid
  | fuel + 1, acc, star, sep => do
    if ← takeOp ts ":" then return acc.reverse
    if sep then
      if ← takeOp ts "," then return ← lambdaParams fuel acc star false
      else invalid
    let t ← peekTok ts
    if acc.any (·.1 == .varKeywords) then
      match t with
      | .name _ | .op "*" | .op "**" | .op "/" => refuse "arguments cannot follow var-keyword argument"
      | _ => invalid
    match t with
    | .op "/" =>
      if acc.isEmpty then
        -- only the reading with the specific messages looks past a `/` that opens the list
        if (← get).checks then
          skipTok
          if (← peekTok ts) == .op "," then fail "at least one argument must precede /"
        invalid
      else if star then refuse "/ must be ahead of *"
      else if acc.any (·.1 == .positionalOnly) then refuse "/ may appear only once"
      else
        skipTok
        if (← peekTok ts) == .op "*" then refuse "expected comma between / and *"
        let acc := acc.map fun (k, n, d) => ((if k == .plain then .positionalOnly else k), n, d)
        lambdaParams fuel acc star true
    | .op "*" =>
      skipTok
      -- a second `*` followed by a parameter without default, or by a comma
      if star then
        if !(← get).checks then invalid
        match ← peekTok ts with
        | .op "," => refuse "* argument may appear only once"
        | .name n =>
          let after ← peekNext ts
          if !keywords.contains n && (after == .op "," || after == .op ":") then
            refuse "* argument may appear only once"
          invalid
        | _ => invalid
      let nx ← peekTok ts
      match nx with
      | .op ":" => refuse "named arguments must follow bare *"
      | .op "," => do
        skipTok
        let after ← peekTok ts
        if after == .op ":" || after == .op "**" then refuse "named arguments must follow bare *"
        lambdaParams fuel acc true false
      | .name n => do
        if keywords.contains n then invalid
        skipTok
        if (← peekTok ts) == .op "=" then refuse "var-positional argument cannot have default value"
        lambdaParams fuel ((.varArgs, n, none) :: acc) true true
      | _ => invalid
    | .op "**" =>
      skipTok
      match ← peekTok ts with
      | .name n => do
        if keywords.contains n then invalid
        skipTok
        if (← peekTok ts) == .op "=" then refuse "var-keyword argument cannot have default value"
        lambdaParams fuel ((.varKeywords, n, none) :: acc) star true
      | _ => invalid
    | .op "(" =>
      let plainOnly := !star && acc.all fun (k, _, d) => k == .plain && d.isNone
      if plainOnly && (← get).checks then
        if ← readsHere (bracketedNames fuel) then
          refuse "Lambda expression parameters cannot be parenthesized"
      invalid
    | .name n =>
      if keywords.contains n then invalid
      skipTok
      let dflt ← if ← takeOp ts "=" then some <$> expression fuel else pure none
      let after ← peekTok ts
      let afterDefault := acc.any fun (k, _, d) => (k == .plain || k == .positionalOnly) && d.isSome
      if !star && dflt.isNone && afterDefault && (after == .op "," || after == .op ":") then
        refuse "non-default argument follows default argument"
      let kind := if star then ParamKind.keywordOnly else .plain
      lambdaParams fuel ((kind, n, dflt) :: acc) star true
    | _ => invalid

/-- `(a, b)`: names between brackets, as a parameter list may not hold them. -/
def bracketedNames : Nat → Reader Unit
  | 0 => invalid
  | fuel + 1 => do
    needOp ts "("
    namesUntilClose fuel

/-- Names separated by commas up to a closing bracket (taken). -/
def namesUntilClose : Nat → Reader Unit
  | 0 => invalid
  | fuel + 1 => do
    match ← peekTok ts with
    | .name n =>
      if keywords.contains n then invalid
      skipTok
      if ← takeOp ts "," then
        if ← takeOp ts ")" then return
        namesUntilClose fuel
      else needOp ts ")"
    | _ => invalid

/-- `name := e`, or an expression, refusing `=` and `:=` after what they cannot assign to. -/
def namedExpr : Nat → Reader Term
  | 0 => invalid
  | fuel + 1 => do
    let start := (← get).pos
    let first ← peekTok ts
    if let .name n := first then
      if !keywords.contains n then
        if (← peekNext ts) == .op ":=" then
          skipTok; skipTok
          return .walrus n (← expression fuel)
    let a ← expression fuel
    let next ← peekTok ts
    if (← get).checks && (next == .op ":=" || next == .op "=") then
      let afterAssign : Reader Bool := do
        skipTok
        let _ ← binaryAt fuel 0
        let t ← peekTok ts
        return t != .op "=" && t != .op ":="
      if next == .op ":=" then
        skipTok
        if ← succeeds (expression fuel) then
          fail s!"cannot use assignment expressions with {a.kindWord}"
        invalid
      let nameFirst : Bool := match first with
        | .name n => !keywords.contains n && ts.getD (start + 1) .stop == .op "="
        | _ => false
      if nameFirst then
        let cur ← get
        set { cur with pos := start + 1 }
        let ok ← succeeds afterAssign
        set cur
        if ok then fail "invalid syntax. Maybe you meant '==' or ':=' instead of '='?"
      -- a bitwise expression before the `=`, unless a display, a generator or a constant word
      let cur ← get
      set { cur with pos := start }
      let lhs := ((binaryAt fuel 0).run).run { cur with pos := start, checks := false }
      set cur
      match lhs with
      | (.ok b, c) =>
        let excluded := match b with
          | .list _ | .tuple _ | .comp .generator .. => true
          | .const (.bool _) | .const .none => first != .op "("
          | _ => false
        if !excluded && ts.getD c.pos .stop == .op "=" then
          set { cur with pos := c.pos }
          let ok ← succeeds afterAssign
          set cur
          if ok then fail s!"cannot assign to {b.kindWord} here. Maybe you meant '==' instead of '='?"
      | _ => pure ()
    return a

/-- `*e` among the items of a display, or a named expression. -/
def starExpr : Nat → Reader Term
  | 0 => invalid
  | fuel + 1 => do
    if ← takeOp ts "*" then return .starred (← binaryAt fuel 0)
    namedExpr fuel

/-- A `for` target: `*target`, an attribute or item of a value, a name, or bracketed targets. -/
def starTarget : Nat → Reader Target
  | 0 => invalid
  | fuel + 1 => do
    if ← takeOp ts "*" then
      if (← peekTok ts) == .op "*" then invalid
      return .starred (← starTarget fuel)
    let part ← attempt do
      let e ← primary fuel
      let t ← peekTok ts
      if t == .op "(" || t == .op "[" || t == .op "." then invalid
      match e with
      | .attr .. | .index .. => pure e
      | _ => invalid
    if let some e := part then return .part e
    match ← peekTok ts with
    | .name n =>
      if keywords.contains n then invalid
      skipTok
      return .name n
    | .op "(" =>
      skipTok
      if ← takeOp ts ")" then return .several []
      let first ← starTarget fuel
      if ← takeOp ts ")" then
        if first matches .starred _ then invalid
        return first
      needOp ts ","
      let rest ← targetsAfterComma fuel ")" []
      needOp ts ")"
      return .several (first :: rest)
    | .op "[" =>
      skipTok
      if ← takeOp ts "]" then return .several []
      let first ← starTarget fuel
      let rest ← if ← takeOp ts "," then targetsAfterComma fuel "]" [] else pure []
      needOp ts "]"
      return .several (first :: rest)
    | _ => invalid

/-- Targets after a comma, up to `close` or a token that cannot start one (not taken). -/
def targetsAfterComma : Nat → String → List Target → Reader (List Target)
  | 0, _, _ => invalid
  | fuel + 1, close, acc => do
    let t ← peekTok ts
    if t == .op close || t == .name "in" then return acc.reverse
    let x ← starTarget fuel
    if ← takeOp ts "," then targetsAfterComma fuel close (x :: acc)
    else return (x :: acc).reverse

def starTargets : Nat → Reader Target
  | 0 => invalid
  | fuel + 1 => do
    let first ← starTarget fuel
    if ← takeOp ts "," then return .several (first :: (← targetsAfterComma fuel "" []))
    return first

/-- Expressions separated by commas, some perhaps starred, as a tuple when there are several. -/
def starExpressions : Nat → Reader Term
  | 0 => invalid
  | fuel + 1 => do
    let one : Reader Term := do
      if ← takeOp ts "*" then return .starred (← binaryAt fuel 0) else expression fuel
    let first ← one
    if (← peekTok ts) != .op "," then return first
    let rec more : Nat → List Term → Reader (List Term)
      | 0, acc => pure acc.reverse
      | k + 1, acc => do
        if ← takeOp ts "," then
          match ← attempt one with
          | some e => more k (e :: acc)
          | none => pure acc.reverse
        else pure acc.reverse
    return .tuple (← more fuel [first])

/-- A comprehension's `for target in source` clauses with their `if` conditions; targets not
assignable are refused. -/
def forClauses : Nat → List (Target × Term × List Term) →
    Reader (List (Target × Term × List Term))
  | 0, _ => invalid
  | fuel + 1, acc => do
    if !(← forAhead ts) then return acc.reverse
    skipTok
    let target ← attempt do
      let x ← starTargets fuel
      if !(← takeWord ts "in") then invalid
      pure x
    match target with
    | some x =>
      let source ← disjunction fuel
      let conds ← ifConditions fuel []
      forClauses fuel ((x, source, conds) :: acc)
    | none =>
      if (← get).checks then
        let e ← starExpressions fuel
        match Term.badTarget (fuel + 1) e with
        | some bad => fail s!"cannot assign to {bad.kindWord}"
        | none => invalid
      else invalid

def ifConditions : Nat → List Term → Reader (List Term)
  | 0, _ => invalid
  | fuel + 1, acc => do
    if ← takeWord ts "if" then ifConditions fuel ((← disjunction fuel) :: acc)
    else return acc.reverse

/-- `a or b or …` -/
def disjunction : Nat → Reader Term
  | 0 => invalid
  | fuel + 1 => do
    let c ← get
    let body : Reader Term := do
      let a ← conjunction fuel
      orTail fuel a
    if c.memo && !c.checks && !c.quietDisjunctions.contains c.pos then
      set { c with quietDisjunctions := c.pos :: c.quietDisjunctions }
    if c.checks && c.quietDisjunctions.contains c.pos then quietly body else body

def orTail : Nat → Term → Reader Term
  | 0, _ => invalid
  | fuel + 1, a => do
    if (← peekTok ts) == .name "or" then
      match ← attempt (do skipTok; deeper 2 (conjunction fuel)) with
      | some b => orTail fuel (.logic false a b)
      | none => return a
    else return a

/-- `a and b and …` -/
def conjunction : Nat → Reader Term
  | 0 => invalid
  | fuel + 1 => do
    let a ← inversion fuel
    andTail fuel a

def andTail : Nat → Term → Reader Term
  | 0, _ => invalid
  | fuel + 1, a => do
    if (← peekTok ts) == .name "and" then
      match ← attempt (do skipTok; deeper 2 (inversion fuel)) with
      | some b => andTail fuel (.logic true a b)
      | none => return a
    else return a

def inversion : Nat → Reader Term
  | 0 => invalid
  | fuel + 1 => do
    if ← takeWord ts "not" then return .not (← deeper 1 (inversion fuel))
    let first ← binaryAt fuel 0
    let rest ← comparisons fuel []
    return if rest.isEmpty then first else .compare first rest

def comparisons : Nat → List (Rel × Term) → Reader (List (Rel × Term))
  | 0, _ => invalid
  | fuel + 1, acc => do
    let t ← peekTok ts
    -- the token after is looked at only after `not` and `is`
    let next ← if t == .name "not" || t == .name "is" then peekNext ts else pure .stop
    let rel : Option (Rel × Nat) :=
      if t == .name "not" then (if next == .name "in" then some (.notIn, 2) else none)
      else if t == .name "is" then (if next == .name "not" then some (.isNot, 2) else some (.is, 1))
      else (relOf? t).map (·, 1)
    match rel with
    | some (r, width) =>
      match ← attempt (do
          for _ in List.range width do skipTok
          deeper 3 (binaryAt fuel 0)) with
      | some b => comparisons fuel ((r, b) :: acc)
      | none => return acc.reverse
    | none => return acc.reverse

def binaryAt : Nat → Nat → Reader Term
  | 0, _ => invalid
  | fuel + 1, lvl =>
    if lvl ≥ binaryLevels.length then factor fuel
    else do
      let a ← binaryAt fuel (lvl + 1)
      binaryTail fuel lvl a

def binaryTail : Nat → Nat → Term → Reader Term
  | 0, _, _ => invalid
  | fuel + 1, lvl, a => do
    match ← peekTok ts with
    | .op s =>
      match (binaryLevels.getD lvl []).lookup s with
      | some op =>
        match ← attempt (do skipTok; binaryAt fuel (lvl + 1)) with
        | some b => binaryTail fuel lvl (.binary op a b)
        | none => return a
      | none => return a
    | _ => return a

def factor : Nat → Reader Term
  | 0 => invalid
  | fuel + 1 => do
    if ← takeOp ts "-" then return .unary .neg (← deeper 1 (factor fuel))
    if ← takeOp ts "+" then return .unary .pos (← deeper 1 (factor fuel))
    if ← takeOp ts "~" then return .unary .invert (← deeper 1 (factor fuel))
    let a ← primary fuel
    if (← peekTok ts) == .op "**" then
      if let some b ← attempt (do skipTok; deeper 2 (factor fuel)) then
        return .binary .pow a b
    return a

def primary : Nat → Reader Term
  | 0 => invalid
  | fuel + 1 => do
    -- what `await` applies to is a primary without `await`
    if ← takeWord ts "await" then
      return .await (← deeper 1 (do trailers fuel (← atom fuel)))
    let a ← atom fuel
    trailers fuel a

/-- A bracket after a primary, looked at once as a failed comprehension with its parts' messages. -/
def comprehensionMistake : Nat → Reader Unit
  | 0 => pure ()
  | fuel + 1 => do
    let here ← get
    if here.tried.contains here.pos then return
    set { here with tried := here.pos :: here.tried }
    let enter : Reader Unit := do
      skipTok
      openBracket
    let clauses : Reader Unit := do
      if !(← forAhead ts) then invalid
      let _ ← forClauses fuel []
    let unpacks ← succeeds (deeper 29 do
      enter
      if !(← takeOp ts "*") then invalid
      if (← attempt (expression fuel)).isNone then fail "Invalid star expression"
      clauses)
    if unpacks then fail "iterable unpacking cannot be used in comprehension"
    if ts.getD here.pos .stop != .op "(" then
      let target ← succeeds (deeper 29 do
        enter
        let _ ← starExpr fuel
        needOp ts ","
        if !(← forAhead ts) then
          let _ ← starExpr fuel
          let _ ← itemsAfter fuel "" []
        clauses)
      if target then fail "did you forget parentheses around the comprehension target?"

/-- Attribute access, calls and indexing after an atom, as many as follow. -/
def trailers : Nat → Term → Reader Term
  | 0, _ => invalid
  | fuel + 1, a => do
    let t ← peekTok ts
    if (← get).checks && (t == .op "(" || t == .op "[" || t == .op "\x7b") then
      comprehensionMistake fuel
    let next ← attempt do
      if t == .op "." then
        skipTok
        match ← peekTok ts with
        | .name n =>
          if keywords.contains n then invalid
          skipTok
          pure (Term.attr a n)
        | _ => invalid
      else if t == .op "(" then
        skipTok
        openBracket
        let (args, kwargs) ← deeper 24 (callArgs fuel [] [])
        needOp ts ")"
        closeBracket
        pure (Term.call a args kwargs)
      else if t == .op "[" then
        skipTok
        openBracket
        let i ← deeper 24 (subscript fuel)
        needOp ts "]"
        closeBracket
        pure (Term.index a i)
      else invalid
    match next with
    | some e => trailers fuel e
    | none => return a

/-- Call arguments up to the closing bracket: positional, then `name=value`; a bare generator must
be the only argument. -/
def callArgs : Nat → List Term → List (String × Term) → Reader (List Term × List (String × Term))
  | 0, _, _ => invalid
  | fuel + 1, args, kwargs => do
    if (← peekTok ts) == .op ")" then return (args.reverse, kwargs.reverse)
    if ← takeOp ts "**" then
      -- `**mapping`: keyword arguments from a mapping, kept under the empty name
      let v ← expression fuel
      let kwargs := ("", v) :: kwargs
      if ← takeOp ts "," then return ← callArgs fuel args kwargs
      else return (args.reverse, kwargs.reverse)
    let t ← peekTok ts
    -- the token after is looked at only after a name that is not a keyword (or is a constant)
    let named := match t with
      | .name n => !keywords.contains n || n == "True" || n == "False" || n == "None"
      | _ => false
    let t2 ← if named then peekNext ts else pure .stop
    if let .name w := t then
      if (w == "True" || w == "False" || w == "None") && t2 == .op "=" then
        refuse s!"cannot assign to {w}"
    let kw ← match t with
      | .name n => do
        if !keywords.contains n && t2 == .op "=" then
          skipTok; skipTok
          pure (some n)
        else pure none
      | _ => pure none
    let v ← match kw with
      | some _ => expression fuel
      | none => do
        if ← takeOp ts "*" then
          match ← attempt (expression fuel) with
          | some e => pure (.starred e)
          | none => fail "Invalid star expression"
        else
          match t, t2 with
          | .name n, .op ":=" =>
            if keywords.contains n then invalid
            else do
              skipTok; skipTok
              pure (.walrus n (← expression fuel))
          | _, _ => expression fuel
    if (← forAhead ts) then
      -- only the reading with the specific messages reads the clauses after anything but a
      -- first argument that may begin a generator
      let opening := args.isEmpty && kwargs.isEmpty && kw.isNone && !(v matches .starred _)
      if !opening && !(← get).checks then invalid
      if kw.isSome then
        if ← succeeds (forClauses fuel []) then
          refuse "invalid syntax. Maybe you meant '==' or ':=' instead of '='?"
        invalid
      if v matches .starred _ then
        if args.isEmpty && kwargs.isEmpty then
          if ← succeeds (forClauses fuel []) then
            refuse "iterable unpacking cannot be used in comprehension"
        else if !args.isEmpty then
          if ← succeeds (forClauses fuel []) then
            refuse "Generator expression must be parenthesized"
        invalid
      let clauses ← forClauses fuel []
      let g := Term.comp .generator v none clauses
      if !args.isEmpty || !kwargs.isEmpty || (← peekTok ts) == .op "," then
        refuse "Generator expression must be parenthesized"
      return ([g], [])
    if kw.isNone && !(v matches .starred _) && (← peekTok ts) == .op "=" then
      refuse "expression cannot contain assignment, perhaps you meant \"==\"?"
    let (args, kwargs) ← match kw, v with
      | some n, _ => pure (args, (n, v) :: kwargs)
      | none, .starred _ =>
        if kwargs.any (·.1.isEmpty) then refuse "iterable argument unpacking follows keyword argument unpacking"
        else pure (v :: args, kwargs)
      | none, _ =>
        if kwargs.isEmpty then pure (v :: args, kwargs)
        else if kwargs.any (·.1.isEmpty) then refuse "positional argument follows keyword argument unpacking"
        else refuse "positional argument follows keyword argument"
    if ← takeOp ts "," then callArgs fuel args kwargs
    else return (args.reverse, kwargs.reverse)

/-- An index or a slice, or several separated by commas. -/
def subscript : Nat → Reader Term
  | 0 => invalid
  | fuel + 1 => do
    let first ← subscriptPart fuel
    if (← peekTok ts) == .op "," then
      let rest ← subscriptsAfter fuel []
      return .tuple (first :: rest)
    if first matches .starred _ then return .tuple [first]
    return first

def subscriptsAfter : Nat → List Term → Reader (List Term)
  | 0, _ => invalid
  | fuel + 1, acc => do
    if ← takeOp ts "," then
      if (← peekTok ts) == .op "]" then return acc.reverse
      let one ← subscriptPart fuel
      subscriptsAfter fuel (one :: acc)
    else return acc.reverse

def subscriptPart : Nat → Reader Term
  | 0 => invalid
  | fuel + 1 => do
    let t ← peekTok ts
    if t == .op "*" then
      skipTok
      match ← attempt (expression fuel) with
      | some e => return .starred e
      | none => fail "Invalid star expression"
    let lo ← if t == .op ":" then pure none else some <$> namedExpr fuel
    if (← peekTok ts) == .op ":" && lo.any (· matches .walrus ..) then invalid
    if ← takeOp ts ":" then
      let t ← peekTok ts
      let hi ← if t == .op ":" || t == .op "]" || t == .op "," then pure none
        else some <$> expression fuel
      let step ← if ← takeOp ts ":" then
          let t ← peekTok ts
          if t == .op "]" || t == .op "," then pure none else some <$> expression fuel
        else pure none
      return .slice lo hi step
    else
      match lo with
      | some e => return e
      | none => invalid

/-- Items after a comma, up to the closing bracket `close` or a `for` (neither taken). -/
def itemsAfter : Nat → String → List Term → Reader (List Term)
  | 0, _, _ => invalid
  | fuel + 1, close, acc => do
    if ← takeOp ts "," then
      let t ← peekTok ts
      if t == .op close || t == .name "for" || t == .name "async" then return acc.reverse
      itemsAfter fuel close ((← starExpr fuel) :: acc)
    else return acc.reverse

/-- Texts side by side, joined: their pieces, fields read as formulas, and whether any is formatted.
-/
def texts : Nat → List (FormatPiece Term) → Bool → Reader (List (FormatPiece Term) × Bool)
  | 0, acc, formatted => pure (acc, formatted)
  | fuel + 1, acc, formatted => do
    match ← peekTok ts with
    | .text body raw isBytes isFormat =>
      let pieces ← if isFormat then
          match formattedPieces ReadFailure.message field body raw with
          | .ok ps => pure ps
          | .error e => throw e
        else do pure [FormatPiece.text (← textValue body raw isBytes)]
      skipTok
      texts fuel (acc ++ pieces) (formatted || isFormat)
    | _ => return (acc, formatted)

/-- A comprehension's clauses after its element, then the bracket `close`; a spreading element
(`*e`) is refused. -/
def comprehension : Nat → String → Term → Reader (List (Target × Term × List Term))
  | 0, _, _ => invalid
  | fuel + 1, close, first => do
    if first matches .starred _ then
      if (← get).checks then
        if ← succeeds (forClauses fuel []) then
          fail "iterable unpacking cannot be used in comprehension"
      invalid
    let clauses ← forClauses fuel []
    needOp ts close
    return clauses

/-- A display whose starred first item failed, read again as `*` and an expression to report that
failure; else invalid syntax. -/
def starredOnceMore : Nat → Term → List Term → Nat → Reader Unit
  | 0, _, _, _ => invalid
  | fuel + 1, first, rest, itemStart => do
    if (first matches .starred _) && rest.isEmpty && (← get).checks then
      modify fun c => { c with pos := itemStart + 1 }
      let _ ← attempt (expression fuel)
    invalid

/-- A name, literal or bracketed form; a bracket opening with `*` and no expression is refused once
its readings failed. -/
def atom : Nat → Reader Term
  | 0 => invalid
  | fuel + 1 => do
    let cur ← get
    let t ← peekTok ts
    if !(t == .op "(" || t == .op "[" || t == .op "\x7b") then return ← atomOnce fuel
    match ← attempt (atomOnce fuel) with
    | some a => return a
    | none =>
      if cur.checks && ts.getD (cur.pos + 1) .stop == .op "*" then
        modify fun c => { c with pos := cur.pos + 2 }
        if (← deeper 29 (attempt (expression fuel))).isNone then refuse "Invalid star expression"
      invalid

def atomOnce : Nat → Reader Term
  | 0 => invalid
  | fuel + 1 => do
    match ← peekTok ts with
    | .name "True" => skipTok; return .const (.bool true)
    | .name "False" => skipTok; return .const (.bool false)
    | .name "None" => skipTok; return .const .none
    | .name n => if keywords.contains n then invalid else do skipTok; return .name n
    | .word n => skipTok; return .name n
    | .number t => skipTok; return numberTerm t
    | .text _ _ isBytes _ =>
      let run := (ts.extract (← get).pos ts.size).toList.takeWhile fun t => t matches .text ..
      let mixed := run.any fun t => match t with
        | .text _ _ b _ => b != isBytes
        | _ => false
      if mixed then fail "cannot mix bytes and nonbytes literals"
      let (pieces, formatted) ← texts fuel [] false
      if formatted then return .format pieces
      let s := String.join (pieces.map fun p => match p with
        | .text t => t
        | _ => "")
      return if isBytes then .bytes s else .str s
    | .op "..." => skipTok; return .ellipsis
    | .op "(" =>
      skipTok
      deeper 28 do
        openBracket
        if ← takeOp ts ")" then
          closeBracket
          return .tuple []
        if ← takeWord ts "yield" then
          let y ← if ← takeWord ts "from" then pure (Term.yieldValue (some (← expression fuel)) true)
            else if (← peekTok ts) == .op ")" then pure (Term.yieldValue none false)
            else pure (Term.yieldValue (some (← starExpressions fuel)) false)
          needOp ts ")"
          closeBracket
          return y
        if (← peekTok ts) == .op "**" then
          -- only the reading with the specific messages reads on after `**`
          if (← get).checks then
            skipTok
            let _ ← expression fuel
            if (← peekTok ts) == .op ")" then fail "cannot use double starred expression here"
          invalid
        let itemStart := (← get).pos
        -- a starred expression alone in brackets, read once more as `*` and an expression
        let starredGroup : Reader Unit := do
          if (← get).checks then
            modify fun c => { c with pos := itemStart + 1 }
            if (← attempt (expression fuel)).isSome && (← peekTok ts) == .op ")" then
              fail "cannot use starred expression here"
        let first ← match ← attempt (starExpr fuel) with
          | some t => pure t
          | none =>
            if ts.getD itemStart .stop == .op "*" then starredGroup
            invalid
        let t ← if (← peekTok ts) == .op "," then do
            let items := first :: (← itemsAfter fuel ")" [])
            needOp ts ")"
            pure (Term.tuple items)
          else if (← forAhead ts) then do
            pure (Term.comp .generator first none (← comprehension fuel ")" first))
          else do
            match first with
            | .starred _ =>
              starredGroup
              invalid
            | _ => do needOp ts ")"; pure first
        closeBracket
        return t
    | .op "[" =>
      skipTok
      deeper 29 do
        openBracket
        if ← takeOp ts "]" then
          closeBracket
          return .list []
        let itemStart := (← get).pos
        let first ← starExpr fuel
        if (← forAhead ts) then
          let clauses ← comprehension fuel "]" first
          closeBracket
          return .comp .list first none clauses
        let rest ← itemsAfter fuel "]" []
        if (← forAhead ts) then
          if (← get).checks then
            if ← succeeds (forClauses fuel []) then
              fail "did you forget parentheses around the comprehension target?"
          invalid
        if (← peekTok ts) != .op "]" then starredOnceMore fuel first rest itemStart
        needOp ts "]"
        closeBracket
        return .list (first :: rest)
    | .op "\x7b" =>
      skipTok
      deeper 29 do
        openBracket
        if ← takeOp ts "\x7d" then
          closeBracket
          return .dict []
        if ← takeOp ts "**" then
          let m ← binaryAt fuel 0
          if (← forAhead ts) then
            if (← get).checks then
              let _ ← forClauses fuel []
              if (← peekTok ts) == .op "\x7d" then
                fail "dict unpacking cannot be used in dict comprehension"
            invalid
          let rest ← pairsAfter fuel []
          needOp ts "\x7d"
          closeBracket
          return .dict ((none, m) :: rest)
        let itemStart := (← get).pos
        let first ← starExpr fuel
        -- a key is a plain expression: neither starred nor an assignment without brackets
        let plainKey := !(first matches .starred _) && ts.getD (itemStart + 1) .stop != .op ":="
        if ← (if plainKey then takeOp ts ":" else pure false) then
          let v ← dictValue fuel
          if (← forAhead ts) then
            let clauses ← forClauses fuel []
            needOp ts "\x7d"
            closeBracket
            return .comp .dict first (some v) clauses
          let rest ← pairsAfter fuel []
          needOp ts "\x7d"
          closeBracket
          return .dict ((some first, v) :: rest)
        if (← forAhead ts) then
          let clauses ← comprehension fuel "\x7d" first
          closeBracket
          return .comp .set first none clauses
        let rest ← itemsAfter fuel "\x7d" []
        if (← forAhead ts) then
          if (← get).checks then
            if ← succeeds (forClauses fuel []) then
              fail "did you forget parentheses around the comprehension target?"
          invalid
        if (← peekTok ts) != .op "\x7d" then starredOnceMore fuel first rest itemStart
        needOp ts "\x7d"
        closeBracket
        return .set (first :: rest)
    | _ => invalid

/-- The value after a dictionary key's `:`, which must be there and cannot spread; both mistakes
have their messages. -/
def dictValue : Nat → Reader Term
  | 0 => invalid
  | fuel + 1 => do
    let t ← peekTok ts
    if t == .op "*" then
      skipTok
      if ← succeeds (binaryAt fuel 0) then
        fail "cannot use a starred expression in a dictionary value"
      invalid
    if t == .op "\x7d" || t == .op "," then fail "expression expected after dictionary key and ':'"
    expression fuel

/-- `key: value` pairs after a comma up to the closing brace; a key without `:` refused as in
`dictValue`. -/
def pairsAfter : Nat → List (Option Term × Term) → Reader (List (Option Term × Term))
  | 0, _ => invalid
  | fuel + 1, acc => do
    if ← takeOp ts "," then
      if (← peekTok ts) == .op "\x7d" then return acc.reverse
      if ← takeOp ts "**" then
        let m ← binaryAt fuel 0
        return ← pairsAfter fuel ((none, m) :: acc)
      let k ← expression fuel
      if !(← takeOp ts ":") then fail "':' expected after dictionary key"
      let v ← dictValue fuel
      pairsAfter fuel ((some k, v) :: acc)
    else return acc.reverse

end

end Reading

/-- The brackets still open after a list of tokens, innermost first, each with the number of
its token. -/
def openBrackets (ts : List Tok) : List (String × Nat) :=
  (ts.foldl (fun (acc : List (String × Nat) × Nat) t =>
    let (opens, k) := acc
    let opens := match t with
      | .op "(" => ("(", k) :: opens
      | .op "[" => ("[", k) :: opens
      | .op "\x7b" => ("\x7b", k) :: opens
      | .op ")" | .op "]" | .op "\x7d" => opens.drop 1
      | _ => opens
    (opens, k + 1)) ([], 0)).1

/-- Reads a formula's tokens: expressions separated by commas, then only line ends; errors on the
furthest token's line. -/
def readTokens (field : String → Except ReadFailure Term) (base : Nat) (ts : Array Tok)
    (lines : Array Nat := #[]) : Except ReadFailure Term :=
  let fuel := 64 * ts.size + 64
  let whole : Reader Term := do
    let first ← expression ts field fuel
    let t ← if (← peekTok ts) == .op "," then do
        let rest ← itemsAfter ts field fuel "" []
        if (first :: rest).any (· matches .starred _) then invalid
        pure (Term.tuple (first :: rest))
      else pure first
    let stopAt := ((ts.toList.drop (← get).pos).takeWhile (· == .newline)).length
    modify fun c => { c with pos := c.pos + stopAt }
    if (← peekTok ts) != .stop then invalid
    return t
  let lineOf (k : Nat) : Nat := lines.getD k (lines.back?.getD 1)
  let placed (m : String) (line : Nat) : ReadFailure :=
    if line > 1 then .located m line else .message m
  let unclosed := (openBrackets ts.toList).head?
  let neverClosed (b : String) (k : Nat) : ReadFailure := placed s!"'{b}' was never closed" (lineOf k)
  -- a failure found past the line of a bracket left open is reported as that bracket
  let orUnclosed (e : ReadFailure) (found : Nat) : ReadFailure :=
    match unclosed with
    | some (b, k) => if lineOf found > lineOf k then neverClosed b k else e
    | none => e
  let endWithOpen (c : Cursor) : Option ReadFailure :=
    match unclosed with
    | some (b, k) => if c.far + 1 ≥ ts.size then some (neverClosed b k) else none
    | none => none
  let settled (c : Cursor) (e : ReadFailure) (found : Nat) : ReadFailure :=
    (endWithOpen c).getD (orUnclosed e found)
  match (whole.run).run { nest := base, checks := false } with
  | (.ok t, _) => pure t
  | (.error .tooDeep, _) => throw .tooDeep
  | (.error .plain, first) =>
    match endWithOpen first with
    | some e => throw e
    | none =>
      match (whole.run).run { nest := base, memo := true } with
      | (.ok t, _) => pure t
      | (.error .tooDeep, _) => throw .tooDeep
      | (.error .plain, c) => throw (settled c (placed "invalid syntax" (lineOf first.far)) first.far)
      | (.error e, c) => throw (settled c e c.far)
  | (.error e, c) => throw (settled c e c.far)

/-- Reads a formula's text and its formatted texts' fields, `base` levels deep; `fuel` bounds
nesting. -/
def readSource : Nat → Nat → String → Except ReadFailure Term
  | 0, _, _ => throw (.message "f-string: expressions nested too deeply")
  | fuel + 1, base, src => do
    let lineOf := (src.toList.foldl (fun (acc : Array Nat × Nat) c =>
      (acc.1.push acc.2, if c == '\n' then acc.2 + 1 else acc.2)) (#[], 1)).1
    let line (i : Nat) : Nat := lineOf.getD i (lineOf.back?.getD 1)
    let placed ← match tokenizeAt src with
      | .ok ts => pure ts
      | .error (m, i) =>
        -- a broken line and an integer too long to read are found by the reader proper
        if m.startsWith "unexpected character after line" || m.startsWith "Exceeds the limit" then
          throw (if line i > 1 then .located m (line i) else .message m)
        else throw (.cutting m (line i))
    let field (s : String) : Except ReadFailure Term :=
      (readSource fuel 1 ("(" ++ s ++ ")")).mapError fun e =>
        match e with
        | .message m => .message (if m.startsWith "f-string: " then m else "f-string: " ++ m)
        | e => e
    readTokens field base (placed.map (·.1)) (placed.map fun (_, i) => line i)

end PipeQuery.Calc
