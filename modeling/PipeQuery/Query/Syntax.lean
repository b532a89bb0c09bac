import PipeQuery.Query.Token

/-!
# Syntax trees of queries

A query is a source followed by stages separated by pipes: `cache=t | where x > 1 | head 5`.
Every node records an offset into the query text (`pos`); where the parser stores the offset of
the token after a node, the tree keeps it, since it is part of what is reported.
-/

namespace PipeQuery.Query

inductive LitValue
  | text (s : String)
  | int (n : Int)
  | float (x : Float)
  deriving Inhabited

inductive LitKind
  | string
  | number
  deriving DecidableEq, Inhabited

inductive Expr
  | lit (value : LitValue) (kind : LitKind) (pos : Nat)
  | ident (name : String) (pos : Nat)
  | call (name : String) (args : List Expr) (pos : Nat)
  | binary (left : Expr) (op : String) (right : Expr) (pos : Nat)
  | unary (op : String) (operand : Expr) (pos : Nat)
  deriving Inhabited

inductive Arg
  | positional (value : Expr) (pos : Nat)
  | keyword (key : String) (value : Expr) (pos : Nat)
  deriving Inhabited

/-- An aggregation of `stats`: a function applied to arguments, perhaps renamed with `as`. -/
structure Aggregation where
  fn : String
  asName : Option String
  args : List Expr
  pos : Nat
  deriving Inhabited

/-- The value of a parameter of a search source: text, or a bare word standing for "true". -/
inductive ParamValue
  | text (s : String)
  | flag
  deriving Inhabited, DecidableEq

/-- One reference to stored rows: its kind (`cache`, `search`, `index`, …), name and parameters in
first-given order. -/
structure SourceRef where
  kind : String
  name : String
  params : List (String × ParamValue) := []
  pos : Nat
  deriving Inhabited

inductive Source
  | one (ref : SourceRef)
  | union (parts : List SourceRef) (pos : Nat)
  deriving Inhabited

mutual

/-- A whole query: its source, then its stages. -/
inductive Pipeline where
  | mk (source : Source) (stages : List Stage) (pos : Nat)

/-- A stage: a command name, its arguments, its `by` fields, its aggregations and its bracketed
subqueries. -/
inductive Stage where
  | mk (name : String) (args : List Arg) (byFields : List String) (aggs : List Aggregation)
      (subqueries : List Subquery) (pos : Nat)

inductive Subquery where
  | mk (query : Pipeline) (pos : Nat)

end

instance : Inhabited Pipeline := ⟨.mk default [] 0⟩
instance : Inhabited Stage := ⟨.mk "" [] [] [] [] 0⟩

namespace Pipeline
def source : Pipeline → Source | mk s _ _ => s
def stages : Pipeline → List Stage | mk _ st _ => st
def pos : Pipeline → Nat | mk _ _ p => p
end Pipeline

namespace Stage
def name : Stage → String | mk n _ _ _ _ _ => n
def args : Stage → List Arg | mk _ a _ _ _ _ => a
def byFields : Stage → List String | mk _ _ b _ _ _ => b
def aggs : Stage → List Aggregation | mk _ _ _ g _ _ => g
def subqueries : Stage → List Subquery | mk _ _ _ _ s _ => s
def pos : Stage → Nat | mk _ _ _ _ _ p => p
end Stage

namespace Subquery
def query : Subquery → Pipeline | mk q _ => q
def pos : Subquery → Nat | mk _ p => p
end Subquery

/-- Sets `key` to `v`: in place if the key is already there, else at the end. -/
def upsert {α : Type} (kvs : List (String × α)) (key : String) (v : α) : List (String × α) :=
  if kvs.any (·.1 == key) then kvs.map fun (k, w) => if k == key then (k, v) else (k, w)
  else kvs ++ [(key, v)]

end PipeQuery.Query
