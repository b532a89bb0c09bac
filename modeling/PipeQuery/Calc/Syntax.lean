import PipeQuery.Value.Basic

/-!
# Calculations: syntax

The expressions `eval` computes when its formula is not one of the command's own forms: the
expression language of the formula language, with its operators, chained comparisons, calls with
keywords and unpacking, `:=`, `lambda`, comprehensions and formatted texts.
-/

namespace PipeQuery.Calc

inductive BinOp
  | add | sub | mul | div | floorDiv | mod | pow | matMul | shiftLeft | shiftRight
  | bitAnd | bitOr | bitXor
  deriving DecidableEq, Repr, Inhabited

inductive UnOp
  | neg | pos | invert
  deriving DecidableEq, Repr, Inhabited

inductive Rel
  | lt | gt | le | ge | eq | ne | isIn | notIn | is | isNot
  deriving DecidableEq, Repr, Inhabited

inductive Gather
  | list | set | dict | generator
  deriving DecidableEq, Repr, Inhabited

/-- A piece of a formatted text or template: plain text, or a field with value, echo, conversion,
specification. -/
inductive FormatPiece (α : Type)
  | text (s : String)
  | field (what : α) (echo : Option String) (conversion : Option Char)
      (spec : List (FormatPiece α))
  deriving Inhabited

/-- Kinds of `lambda` parameter: positional-only (before `/`), plain, `*args`, keyword-only (after
`*`), `**kwargs`. -/
inductive ParamKind
  | positionalOnly | plain | varArgs | keywordOnly | varKeywords
  deriving DecidableEq, Repr, Inhabited

mutual

inductive Term
  | name (n : String)
  | int (n : Int)
  | float (x : Float)
  | imaginary (x : Float)
  | str (s : String)
  | bytes (s : String)
  | const (v : Value)
  | ellipsis
  | unary (op : UnOp) (e : Term)
  | not (e : Term)
  | binary (op : BinOp) (l r : Term)
  | logic (isAnd : Bool) (l r : Term)
  | compare (first : Term) (rest : List (Rel × Term))
  | call (f : Term) (args : List Term) (kwargs : List (String × Term))
  | attr (e : Term) (name : String)
  | index (e : Term) (i : Term)
  | slice (lo hi step : Option Term)
  | cond (test body orElse : Term)
  | tuple (items : List Term)
  | list (items : List Term)
  /-- A dictionary display: `key: value` items, and `**mapping` items (no key). -/
  | dict (items : List (Option Term × Term))
  | set (items : List Term)
  /-- `*e` among the items of a display or the arguments of a call. -/
  | starred (e : Term)
  /-- `name := e`. -/
  | walrus (name : String) (e : Term)
  /-- `lambda a, b=1, *c, d, **e: body`: each parameter with its kind and its default. -/
  | lambda (params : List (ParamKind × String × Option Term)) (body : Term)
  /-- A comprehension: what it builds, its element (and value for a dictionary), and its
  `for … in … if …` clauses. -/
  | comp (kind : Gather) (elt : Term) (value : Option Term)
      (clauses : List (Target × Term × List Term))
  | format (pieces : List (FormatPiece Term))
  /-- `await e`, which only a coroutine may hold. -/
  | await (e : Term)
  /-- `yield e` (or `yield from e`) in brackets. -/
  | yieldValue (value : Option Term) (delegating : Bool)

inductive Target
  | name (n : String)
  | several (items : List Target)
  | starred (t : Target)
  | part (e : Term)

end

instance : Inhabited Term := ⟨.ellipsis⟩

instance : Inhabited Target := ⟨.name ""⟩

namespace BinOp

def symbol : BinOp → String
  | add => "+" | sub => "-" | mul => "*" | div => "/" | floorDiv => "//" | mod => "%"
  | pow => "**" | matMul => "@" | shiftLeft => "<<" | shiftRight => ">>" | bitAnd => "&"
  | bitOr => "|" | bitXor => "^"

end BinOp

end PipeQuery.Calc
