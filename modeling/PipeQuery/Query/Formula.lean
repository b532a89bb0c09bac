import PipeQuery.Query.Parser

/-!
# Standalone formulas

`Formula.parse` reads one expression with the grammar of formulas: `OR`/`AND` chains keeping the
operator as written, at most one comparison between two sums, `+ -`, `* /` and unary minus.
Operator nodes carry offset 0, the others their first token's; what follows is ignored.
-/

namespace PipeQuery.Query

inductive FormulaError
  | lex (e : LexError)
  | expected (want found : TokenKind)
  | unexpected (t : Token)
  | number (e : NumberError)
  | tooDeep

/-- The text of a formula error. Kinds are written as `TokenType.NAME`. -/
def FormulaError.message : FormulaError → String
  | .lex e => e.message
  | .expected w f => s!"Expected TokenType.{w.name}, got TokenType.{f.name}"
  | .unexpected t => s!"Unexpected token: {t.describe}"
  | .number e => e.message
  | .tooDeep => "maximum recursion depth exceeded"

abbrev FormulaReader := StateT Nat (Except FormulaError)

namespace Formula

section Reader

variable (ts : Array Token)

/-- The current token; past the end, an end token at the number of tokens. -/
def cur : FormulaReader Token := do
  let i ← get
  return ts[i]?.getD { kind := .eof, text := "", pos := ts.size, line := 1, column := 0 }

def advance : FormulaReader Token := do
  let t ← cur ts
  modify (· + 1)
  return t

def isAt (ks : List TokenKind) : FormulaReader Bool := do
  return ks.contains (← cur ts).kind

def expect (k : TokenKind) : FormulaReader Token := do
  let t ← cur ts
  if t.kind = k then advance ts else throw (.expected k t.kind)

mutual

/-- `e (or e)*` -/
def orExpr : Nat → FormulaReader Expr
  | 0 => throw .tooDeep
  | f + 1 => do orTail f (← andExpr f)

def orTail : Nat → Expr → FormulaReader Expr
  | 0, _ => throw .tooDeep
  | f + 1, l => do
    if ← isAt ts [.orKw] then
      let op := (← advance ts).text
      orTail f (.binary l op (← andExpr f) 0)
    else pure l

/-- `e (and e)*` -/
def andExpr : Nat → FormulaReader Expr
  | 0 => throw .tooDeep
  | f + 1 => do andTail f (← comparison f)

def andTail : Nat → Expr → FormulaReader Expr
  | 0, _ => throw .tooDeep
  | f + 1, l => do
    if ← isAt ts [.andKw] then
      let op := (← advance ts).text
      andTail f (.binary l op (← comparison f) 0)
    else pure l

/-- A sum, perhaps compared with one more sum. -/
def comparison : Nat → FormulaReader Expr
  | 0 => throw .tooDeep
  | f + 1 => do
    let l ← additive f
    if ← isAt ts [.gt, .lt, .ge, .le, .eq, .ne] then
      let op := (← advance ts).text
      return .binary l op (← additive f) 0
    else return l

/-- `e ((+|-) e)*` -/
def additive : Nat → FormulaReader Expr
  | 0 => throw .tooDeep
  | f + 1 => do additiveTail f (← multiplicative f)

def additiveTail : Nat → Expr → FormulaReader Expr
  | 0, _ => throw .tooDeep
  | f + 1, l => do
    if ← isAt ts [.plus, .minus] then
      let op := (← advance ts).text
      additiveTail f (.binary l op (← multiplicative f) 0)
    else pure l

/-- `e ((*|/) e)*` -/
def multiplicative : Nat → FormulaReader Expr
  | 0 => throw .tooDeep
  | f + 1 => do multiplicativeTail f (← unary f)

def multiplicativeTail : Nat → Expr → FormulaReader Expr
  | 0, _ => throw .tooDeep
  | f + 1, l => do
    if ← isAt ts [.star, .slash] then
      let op := (← advance ts).text
      multiplicativeTail f (.binary l op (← unary f) 0)
    else pure l

/-- A factor, perhaps after unary minus signs. -/
def unary : Nat → FormulaReader Expr
  | 0 => throw .tooDeep
  | f + 1 => do
    if ← isAt ts [.minus] then
      let op := (← advance ts).text
      return .unary op (← unary f) 0
    else primary f

/-- A parenthesised formula, a literal, a name or a function call. -/
def primary : Nat → FormulaReader Expr
  | 0 => throw .tooDeep
  | f + 1 => do
    let t ← cur ts
    match t.kind with
    | .lparen =>
      let _ ← advance ts
      let e ← orExpr f
      let _ ← expect ts .rparen
      pure e
    | .str =>
      let _ ← advance ts
      pure (.lit (.text t.text) .string t.pos)
    | .num =>
      let _ ← advance ts
      match numberValue t.text with
      | .ok v => pure (.lit v .number t.pos)
      | .error e => throw (.number e)
    | .ident =>
      let _ ← advance ts
      if ← isAt ts [.lparen] then
        let _ ← advance ts
        let args ← callArgs f []
        let _ ← expect ts .rparen
        pure (.call t.text args t.pos)
      else pure (.ident t.text t.pos)
    | _ => throw (.unexpected t)

/-- Call arguments up to `)`, separated by optional commas. -/
def callArgs : Nat → List Expr → FormulaReader (List Expr)
  | 0, _ => throw .tooDeep
  | f + 1, acc => do
    if ← isAt ts [.rparen] then pure acc.reverse
    else
      let a ← orExpr f
      if ← isAt ts [.comma] then let _ ← advance ts
      callArgs f (a :: acc)

end

end Reader

def parse (text : String) : Except FormulaError Expr :=
  match Token.scan text with
  | .error e => .error (.lex e)
  | .ok ts => (orExpr ts (readingBudget ts.size)).run' 0

end Formula

end PipeQuery.Query
