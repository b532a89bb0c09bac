import PipeQuery.Query.Syntax
import PipeQuery.Query.Token.Scan
import PipeQuery.Text.Case
import PipeQuery.Text.Numeral

/-!
# Reading a query into its syntax tree

`Query.parse` reads a source and the stages after pipes by recursive descent; how a stage's
arguments are read depends on its command. Reading stops at the first token that does not
continue the query, so what follows is ignored. Every step is bounded by a budget proportional to
the number of tokens.
-/

namespace PipeQuery.Query

open PipeQuery.Text

inductive NumberError
  | notInteger (text : String)
  | notFloat (text : String)
  deriving Repr

def NumberError.message : NumberError → String
  | .notInteger t => intFailure t
  | .notFloat t => s!"could not convert string to float: {quote t}"

/-- The value of a number token: a double when it has a point, else an integer. -/
def numberValue (text : String) : Except NumberError LitValue :=
  if text.contains '.' then
    match readFloat? text with
    | some x => .ok (.float x)
    | none => .error (.notFloat text)
  else
    match readInt? text with
    | some n => .ok (.int n)
    | none => .error (.notInteger text)

/-- A token as messages print it: `Token(KIND, 'text', pos=n)`. -/
def Token.describe (t : Token) : String :=
  s!"Token({t.kind.name}, {quote t.text}, pos={t.pos})"

inductive ParseError
  | lex (e : LexError)
  | expected (want found : TokenKind) (pos : Nat)
  | unexpected (t : Token)
  | expectedValue (pos : Nat)
  | expectedSource (pos : Nat)
  | expectedAssign (kind : String) (pos : Nat)
  | emptyUnion (pos : Nat)
  | expectedCommand (pos : Nat)
  | expectedAfterSign (sign : String) (pos : Nat)
  | number (e : NumberError)
  | tooDeep

def ParseError.message : ParseError → String
  | .lex e => e.message
  | .expected w f p => s!"Expected {w.name}, got {f.name} at position {p}"
  | .unexpected t => s!"Unexpected token: {t.describe} at position {t.pos}"
  | .expectedValue p => s!"Expected value at position {p}"
  | .expectedSource p => s!"Expected source specification at position {p}"
  | .expectedAssign k p => s!"Expected = after {k} at position {p}"
  | .emptyUnion p => s!"Empty multi-source specification at position {p}"
  | .expectedCommand p => s!"Expected command name at position {p}"
  | .expectedAfterSign s p => s!"Expected argument after {quote s} at position {p}"
  | .number e => e.message
  | .tooDeep => "maximum recursion depth exceeded"

/-- A reader over a fixed list of tokens; the state is the index of the current token. -/
abbrev TokenReader := StateT Nat (Except ParseError)

section Reader

variable (ts : Array Token)

/-- The token at index `i`, or the last token (the end) past it. -/
def tokenAt (i : Nat) : Token :=
  ts[i]?.getD (ts.back?.getD default)

def cur : TokenReader Token := do
  return tokenAt ts (← get)

def peekNext : TokenReader Token := do
  return tokenAt ts ((← get) + 1)

def advance : TokenReader Token := do
  let i ← get
  set (i + 1)
  return tokenAt ts i

def isAt (ks : List TokenKind) : TokenReader Bool := do
  return ks.contains (← cur ts).kind

def expect (k : TokenKind) : TokenReader Token := do
  let t ← cur ts
  if t.kind = k then advance ts else throw (.expected k t.kind t.pos)

def here : TokenReader Nat := do
  return (← cur ts).pos

def numberLit (t : Token) : TokenReader LitValue :=
  match numberValue t.text with
  | .ok v => pure v
  | .error e => throw (.number e)

mutual

/-- `e (OR e)*` -/
def orExpr : Nat → TokenReader Expr
  | 0 => throw .tooDeep
  | f + 1 => do orTail f (← andExpr f)

def orTail : Nat → Expr → TokenReader Expr
  | 0, _ => throw .tooDeep
  | f + 1, l => do
    if ← isAt ts [.orKw] then
      let _ ← advance ts
      let r ← andExpr f
      orTail f (.binary l "OR" r (← here ts))
    else pure l

/-- `e (AND e)*` -/
def andExpr : Nat → TokenReader Expr
  | 0 => throw .tooDeep
  | f + 1 => do andTail f (← comparison f)

def andTail : Nat → Expr → TokenReader Expr
  | 0, _ => throw .tooDeep
  | f + 1, l => do
    if ← isAt ts [.andKw] then
      let _ ← advance ts
      let r ← comparison f
      andTail f (.binary l "AND" r (← here ts))
    else pure l

/-- `e (op e)*` for the comparisons, where a lone `=` stands for `==`. -/
def comparison : Nat → TokenReader Expr
  | 0 => throw .tooDeep
  | f + 1 => do comparisonTail f (← additive f)

def comparisonTail : Nat → Expr → TokenReader Expr
  | 0, _ => throw .tooDeep
  | f + 1, l => do
    if ← isAt ts [.gt, .lt, .ge, .le, .eq, .ne, .assign] then
      let t ← advance ts
      let op := if t.kind = .assign then "==" else t.text
      let r ← additive f
      comparisonTail f (.binary l op r (← here ts))
    else pure l

/-- `e ((+|-) e)*` -/
def additive : Nat → TokenReader Expr
  | 0 => throw .tooDeep
  | f + 1 => do additiveTail f (← multiplicative f)

def additiveTail : Nat → Expr → TokenReader Expr
  | 0, _ => throw .tooDeep
  | f + 1, l => do
    if ← isAt ts [.plus, .minus] then
      let t ← advance ts
      let r ← multiplicative f
      additiveTail f (.binary l t.text r (← here ts))
    else pure l

/-- `e ((*|/) e)*` -/
def multiplicative : Nat → TokenReader Expr
  | 0 => throw .tooDeep
  | f + 1 => do multiplicativeTail f (← primary f)

def multiplicativeTail : Nat → Expr → TokenReader Expr
  | 0, _ => throw .tooDeep
  | f + 1, l => do
    if ← isAt ts [.star, .slash] then
      let t ← advance ts
      let r ← primary f
      multiplicativeTail f (.binary l t.text r (← here ts))
    else pure l

/-- A parenthesised expression, a literal, a name or a function call. -/
def primary : Nat → TokenReader Expr
  | 0 => throw .tooDeep
  | f + 1 => do
    let t ← cur ts
    match t.kind with
    | .lparen =>
      let _ ← advance ts
      let e ← orExpr f
      let _ ← expect ts .rparen
      pure e
    | .str =>
      let _ ← advance ts
      pure (.lit (.text t.text) .string t.pos)
    | .num =>
      let _ ← advance ts
      pure (.lit (← numberLit t) .number t.pos)
    | .ident =>
      let _ ← advance ts
      if ← isAt ts [.lparen] then
        let _ ← advance ts
        let args ← callArgs f []
        let _ ← expect ts .rparen
        pure (.call t.text args t.pos)
      else pure (.ident t.text t.pos)
    | _ => throw (.unexpected t)

/-- The arguments of a call up to its closing parenthesis, separated by commas. -/
def callArgs : Nat → List Expr → TokenReader (List Expr)
  | 0, _ => throw .tooDeep
  | f + 1, acc => do
    if ← isAt ts [.rparen] then pure acc.reverse
    else
      let a ← orExpr f
      if ← isAt ts [.comma] then
        let _ ← advance ts
        callArgs f (a :: acc)
      else pure (a :: acc).reverse

end

def value (f : Nat) : TokenReader Expr :=
  primary ts f

def valueText : TokenReader String := do
  let t ← cur ts
  if t.kind = .str || t.kind = .num || t.kind = .ident then
    let _ ← advance ts
    pure t.text
  else throw (.expectedValue t.pos)

/-- The parameters of a `search` source: `index=` or the first bare word names the index. -/
def searchParams : Nat → String → List (String × ParamValue) →
    TokenReader (String × List (String × ParamValue))
  | 0, _, _ => throw .tooDeep
  | f + 1, index, params => do
    if ← isAt ts [.pipe, .eof] then return (index, params)
    if !(← isAt ts [.ident]) then return (index, params)
    let key := (← advance ts).text
    if ← isAt ts [.assign] then
      let _ ← advance ts
      let v ← valueText ts
      if lower key == "index" then searchParams f v params
      else searchParams f index (upsert params key (.text v))
    else if index.isEmpty then searchParams f key params
    else searchParams f index (upsert params key .flag)

/-- The references of a union after `(`, up to but not including `)`. -/
def unionParts : Nat → List SourceRef → TokenReader (List SourceRef)
  | 0, _ => throw .tooDeep
  | f + 1, acc => do
    if ← isAt ts [.rparen, .eof] then return acc.reverse
    let mut acc := acc
    if ← isAt ts [.ident] then
      let kind := lower (← advance ts).text
      if ← isAt ts [.assign] then
        let _ ← advance ts
        let name ← valueText ts
        acc := { kind, name, pos := ← here ts } :: acc
      else throw (.expectedAssign kind (← here ts))
    if ← isAt ts [.orKw] then
      let _ ← advance ts
      unionParts f acc
    else if ← isAt ts [.rparen] then unionParts f acc
    else return acc.reverse

def source (f : Nat) : TokenReader Source := do
  let position ← here ts
  if ← isAt ts [.lparen] then
    let _ ← advance ts
    let parts ← unionParts ts f []
    let _ ← expect ts .rparen
    match parts with
    | [] => throw (.emptyUnion (← here ts))
    | [one] => return .one one
    | _ => return .union parts position
  if ← isAt ts [.ident] then
    let first ← advance ts
    if ← isAt ts [.assign] then
      let _ ← advance ts
      let name ← valueText ts
      return .one { kind := first.text, name, pos := position }
    else if lower first.text == "search" then
      let (index, params) ← searchParams ts f "" []
      return .one { kind := "search", name := index, params, pos := position }
    else
      return .one { kind := "default", name := first.text, pos := position }
  throw (.expectedSource (← here ts))

structure StageParts where
  args : Array Arg := #[]
  byFields : Array String := #[]
  aggs : Array Aggregation := #[]
  subqueries : Array Subquery := #[]

def byList : Nat → Array String → TokenReader (Array String)
  | 0, _ => throw .tooDeep
  | f + 1, acc => do
    if ← isAt ts [.pipe, .eof] then return acc
    if ← isAt ts [.ident] then
      let name := (← advance ts).text
      if ← isAt ts [.comma] then let _ ← advance ts
      byList f (acc.push name)
    else return acc

/-- One aggregation: `fn`, `fn(args)`, either followed by `as alias`. -/
def aggregation (f : Nat) : TokenReader Aggregation := do
  let position ← here ts
  let fn := (← advance ts).text
  let mut args : List Expr := []
  if ← isAt ts [.lparen] then
    let _ ← advance ts
    args ← callArgs ts f []
    let _ ← expect ts .rparen
  let mut asName : Option String := none
  if ← isAt ts [.asKw] then
    let _ ← advance ts
    if ← isAt ts [.ident] then
      asName := some (← advance ts).text
  return { fn, asName, args, pos := position }

def aggregations : Nat → Array Aggregation → TokenReader (Array Aggregation)
  | 0, _ => throw .tooDeep
  | f + 1, acc => do
    if ← isAt ts [.pipe, .eof, .byKw] then return acc
    if ← isAt ts [.ident] then
      let a ← aggregation ts f
      if ← isAt ts [.comma] then let _ ← advance ts
      aggregations f (acc.push a)
    else return acc

def statsArgs (f : Nat) : TokenReader StageParts := do
  let aggs ← aggregations ts f #[]
  let mut byFields := #[]
  if ← isAt ts [.byKw] then
    let _ ← advance ts
    byFields ← byList ts f #[]
  return { aggs, byFields }

/-- `eval` arguments: `name = expression`, separated by optional commas. -/
def assignments : Nat → Array Arg → TokenReader (Array Arg)
  | 0, _ => throw .tooDeep
  | f + 1, acc => do
    if ← isAt ts [.pipe, .eof] then return acc
    if !(← isAt ts [.ident]) then return acc
    let name := (← advance ts).text
    if !(← isAt ts [.assign]) then return acc
    let _ ← advance ts
    let e ← orExpr ts f
    let acc := acc.push (.keyword name e (← here ts))
    if ← isAt ts [.comma] then let _ ← advance ts
    assignments f acc

/-- `sort` keys: names, each perhaps after `-`, separated by optional commas. -/
def sortKeys : Nat → Array Arg → TokenReader (Array Arg)
  | 0, _ => throw .tooDeep
  | f + 1, acc => do
    if ← isAt ts [.pipe, .eof] then return acc
    let mut acc := acc
    if ← isAt ts [.minus] then
      let _ ← advance ts
      if ← isAt ts [.ident] then
        let name := (← advance ts).text
        acc := acc.push (.positional (.lit (.text ("-" ++ name)) .string 0) (← here ts))
    else if ← isAt ts [.ident] then
      let name := (← advance ts).text
      acc := acc.push (.positional (.lit (.text name) .string 0) (← here ts))
    if ← isAt ts [.comma] then
      let _ ← advance ts
      sortKeys f acc
    else if ← isAt ts [.pipe, .eof] then sortKeys f acc
    else if ← isAt ts [.minus, .ident] then sortKeys f acc
    else return acc

def headArgs : TokenReader StageParts := do
  if ← isAt ts [.num] then
    let t ← advance ts
    match readInt? t.text with
    | some n => return { args := #[.positional (.lit (.int n) .number 0) (← here ts)] }
    | none => throw (.number (.notInteger t.text))
  return {}

abbrev Piece := TokenKind × String

def isLikeWord (p : Piece) : Bool :=
  p.1 = .ident && upper p.2 == "LIKE"

def isWildcard (p : Piece) : Bool :=
  p.1 = .star || (p.1 = .ident && p.2 == "%")

/-- Appends the text of `p` to the last piece kept, which becomes a name. -/
def glueLast (p : Piece) : List Piece → List Piece
  | q :: o => ((TokenKind.ident, q.2 ++ p.2) : Piece) :: o
  | [] => [p]

/-- Joins the `*` wildcards of a `LIKE` pattern to the names around them; `out` holds kept pieces,
last first. -/
def joinWildcards : List Piece → List Piece → List Piece
  | [], out => out.reverse
  | p :: rest, out =>
    if p.1 = .str then joinWildcards rest (p :: out)
    else if isWildcard p then
      let out := match out with
        | q :: o => if q.1 = .ident && !isLikeWord q then glueLast p (q :: o) else p :: q :: o
        | [] => [p]
      match rest with
      | n :: rest2 =>
        if n.1 = .ident then joinWildcards rest2 (glueLast n out) else joinWildcards (n :: rest2) out
      | [] => joinWildcards [] out
    else if p.1 = .ident then
      match out with
      | q :: o =>
        if q.1 = .star || (q.1 = .ident && q.2.endsWith "%") then joinWildcards rest (glueLast p (q :: o))
        else joinWildcards rest (p :: out)
      | [] => joinWildcards rest (p :: out)
    else joinWildcards rest (p :: out)
termination_by ps => ps.length

/-- The pieces of a condition with the wildcards after its first `LIKE` joined. -/
def likePieces (ps : List Piece) : List Piece :=
  match ps.findIdx? isLikeWord with
  | some i => if i + 1 < ps.length then joinWildcards (ps.drop (i + 1)) (ps.take (i + 1)).reverse else ps
  | none => ps

def restOfStage : Nat → Array Piece → TokenReader (Array Piece)
  | 0, _ => throw .tooDeep
  | f + 1, acc => do
    if ← isAt ts [.pipe, .eof] then return acc
    let t ← advance ts
    restOfStage f (acc.push (t.kind, t.text))

/-- `where` arguments: the text of the condition, its tokens joined by blanks. -/
def conditionArgs (f : Nat) : TokenReader StageParts := do
  let start ← here ts
  let pieces := (← restOfStage ts f #[]).toList
  if pieces.isEmpty then return {}
  let text := " ".intercalate ((likePieces pieces).map (·.2))
  return { args := #[.positional (.lit (.text text) .string 0) start] }

/-- A span after `key=`: a number and, when one of `s m h d w` (in any case) follows, that unit. -/
def spanText : TokenReader String := do
  let n := (← advance ts).text
  if ← isAt ts [.ident] then
    let unit := lower (← advance ts).text
    if ["s", "m", "h", "d", "w"].contains unit then return n ++ unit
  return n

/-- `key=value` pairs of `bucket` and `transaction`, where the key `spanKey` takes a span. -/
def spanPairs (spanKey : String) : Nat → Array Arg → TokenReader (Array Arg)
  | 0, _ => throw .tooDeep
  | f + 1, acc => do
    if ← isAt ts [.pipe, .eof] then return acc
    if !(← isAt ts [.ident]) then return acc
    if (← peekNext ts).kind ≠ .assign then return acc
    let key := (← advance ts).text
    let _ ← advance ts
    if key == spanKey && (← isAt ts [.num]) then
      let s ← spanText ts
      spanPairs spanKey f (acc.push (.keyword key (.lit (.text s) .string 0) (← here ts)))
    else
      let v ← value ts f
      spanPairs spanKey f (acc.push (.keyword key v (← here ts)))

/-- A leading field name, then `key=value` pairs with a span under `spanKey`. -/
def fieldAndSpans (spanKey : String) (f : Nat) : TokenReader StageParts := do
  let mut args := #[]
  if ← isAt ts [.ident] then
    let name := (← advance ts).text
    args := args.push (.positional (.ident name 0) (← here ts))
  return { args := ← spanPairs ts spanKey f args }

/-- `search` arguments: `key=value` pairs, `latest` and `earliest` taking a span or a quoted time.
-/
def searchArgs : Nat → Array Arg → TokenReader (Array Arg)
  | 0, _ => throw .tooDeep
  | f + 1, acc => do
    if ← isAt ts [.pipe, .eof] then return acc
    if !(← isAt ts [.ident]) then return acc
    if (← peekNext ts).kind ≠ .assign then return acc
    let key := (← advance ts).text
    let _ ← advance ts
    if key == "latest" || key == "earliest" then
      if ← isAt ts [.num] then
        let s ← spanText ts
        return ← searchArgs f (acc.push (.keyword key (.lit (.text s) .string 0) (← here ts)))
      else if ← isAt ts [.str] then
        let t ← advance ts
        return ← searchArgs f (acc.push (.keyword key (.lit (.text t.text) .string 0) (← here ts)))
    let v ← value ts f
    searchArgs f (acc.push (.keyword key v (← here ts)))

/-- The tokens of one general positional argument: wildcards `*` join the names next to them. -/
def wildcardRun : Nat → List Token → TokenReader (List Token)
  | 0, _ => throw .tooDeep
  | f + 1, acc => do
    if ← isAt ts [.pipe, .eof, .comma] then return acc
    if ← isAt ts [.star] then
      match acc with
      | p :: rest =>
        if p.kind = .ident then
          let _ ← advance ts
          wildcardRun f ({ p with text := p.text ++ "*" } :: rest)
        else wildcardRun f ((← advance ts) :: acc)
      | [] => wildcardRun f ((← advance ts) :: acc)
    else if ← isAt ts [.ident] then
      match acc with
      | p :: rest =>
        if p.kind = .star then
          let n ← advance ts
          wildcardRun f ({ p with kind := .ident, text := p.text ++ n.text } :: rest)
        else if (← peekNext ts).kind = .star then wildcardRun f ((← advance ts) :: acc)
        else return acc
      | [] =>
        if (← peekNext ts).kind = .star then wildcardRun f ((← advance ts) :: acc)
        else return acc
    else return acc

/-- The value of a general positional argument read as `toks` after the sign `sign`. -/
def positionalValue (sign : String) : List Token → Expr
  | [t] =>
    if t.kind = .str then .lit (.text (sign ++ t.text)) .string 0
    else if t.kind = .num then .lit (.text t.text) .number 0
    else .ident (sign ++ t.text) 0
  | toks => .ident (sign ++ String.join (toks.map (·.text))) 0

mutual

def command : Nat → TokenReader Pipeline
  | 0 => throw .tooDeep
  | f + 1 => do
    let position ← here ts
    let src ← source ts f
    let stages ← stageList f #[]
    return .mk src stages.toList position

def stageList : Nat → Array Stage → TokenReader (Array Stage)
  | 0, _ => throw .tooDeep
  | f + 1, acc => do
    if ← isAt ts [.pipe] then
      let _ ← advance ts
      let st ← stage f
      stageList f (acc.push st)
    else return acc

def subquery : Nat → TokenReader Subquery
  | 0 => throw .tooDeep
  | f + 1 => do
    let position ← here ts
    let _ ← expect ts .lbracket
    let q ← command f
    let _ ← expect ts .rbracket
    return .mk q position

def stage : Nat → TokenReader Stage
  | 0 => throw .tooDeep
  | f + 1 => do
    let position ← here ts
    if !(← isAt ts [.ident]) then throw (.expectedCommand position)
    let name := (← advance ts).text
    let parts ← match lower name with
      | "stats" | "eventstats" => statsArgs ts f
      | "eval" | "calculate" | "compute" => do pure { args := ← assignments ts f #[] }
      | "sort" => do pure { args := ← sortKeys ts f #[] }
      | "join" => joinArgs f
      | "head" => headArgs ts
      | "filter" | "where" => conditionArgs ts f
      | "bucket" | "bin" => fieldAndSpans ts "span" f
      | "transaction" => fieldAndSpans ts "maxspan" f
      | "search" => do pure { args := ← searchArgs ts f #[] }
      | _ => generalArgs f {}
    return .mk name parts.args.toList parts.byFields.toList parts.aggs.toList
      parts.subqueries.toList position

def joinArgs : Nat → TokenReader StageParts
  | 0 => throw .tooDeep
  | f + 1 => do
    let mut parts : StageParts := {}
    if ← isAt ts [.ident] then
      let name := (← advance ts).text
      parts := { parts with args := #[.positional (.ident name 0) (← here ts)] }
    if ← isAt ts [.lbracket] then
      let q ← subquery f
      parts := { parts with subqueries := #[q] }
    return parts

/-- General arguments: `key=value` pairs, subqueries, `by` fields and positional ones, maybe signed.
-/
def generalArgs : Nat → StageParts → TokenReader StageParts
  | 0, _ => throw .tooDeep
  | f + 1, parts => do
    if ← isAt ts [.pipe, .eof] then return parts
    if (← isAt ts [.ident]) && (← peekNext ts).kind = .assign then
      let key := (← advance ts).text
      let _ ← advance ts
      let v ← value ts f
      return ← generalArgs f { parts with args := parts.args.push (.keyword key v (← here ts)) }
    if ← isAt ts [.lbracket] then
      let q ← subquery f
      return ← generalArgs f { parts with subqueries := parts.subqueries.push q }
    if ← isAt ts [.byKw] then
      let _ ← advance ts
      let fields ← byList ts f parts.byFields
      return ← generalArgs f { parts with byFields := fields }
    let mut sign := ""
    if ← isAt ts [.plus, .minus] then
      sign := (← advance ts).text
    if ← isAt ts [.ident, .str, .num] then
      let start ← here ts
      let first ← advance ts
      let toks := (← wildcardRun ts f [first]).reverse
      if ← isAt ts [.comma] then let _ ← advance ts
      generalArgs f { parts with args := parts.args.push (.positional (positionalValue sign toks) start) }
    else if !sign.isEmpty then throw (.expectedAfterSign sign (← here ts))
    else return parts

end

end Reader

/-- The budget of reading steps for `n` tokens: more than any path of calls can take. -/
def readingBudget (n : Nat) : Nat :=
  16 * (n + 2)

def parse (text : String) : Except ParseError Pipeline :=
  match Token.scan text with
  | .error e => .error (.lex e)
  | .ok ts => (command ts (readingBudget ts.size)).run' 0

end PipeQuery.Query
