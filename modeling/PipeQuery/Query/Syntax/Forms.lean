import PipeQuery.Query.Syntax
import PipeQuery.Text.Classes
import PipeQuery.Decimal.Double
import PipeQuery.Value.Basic

/-!
# Written forms of syntax trees

A tree is printed as text, laid out as plain data, or written as JSON.
-/

/-!
## Printed forms of syntax trees

Two printed forms of a tree:

* `render`: the tree with its node names, `Source(cache=t) | PipeCommand(head, [PositionalArg(Literal(5))])`,
  literals quoted, `by` fields and aggregations listed;
* `argText`: the plain words of an argument, `x=if(a > 1, y, n)`, as commands that read their
  arguments as words receive them. `Stage.argWords` lists a stage's arguments so, then `by` and
  the `by` fields.
-/

namespace PipeQuery.Query

open PipeQuery.Text

def LitValue.render : LitValue → String
  | .text s => quote s
  | .int n => toString n
  | .float x => Decimal.showFloat x

def LitValue.word : LitValue → String
  | .text s => s
  | .int n => toString n
  | .float x => Decimal.showFloat x

/-- A list of texts printed with brackets and quotes: `['a', 'b']`. -/
def quotedList (xs : List String) : String :=
  "[" ++ ", ".intercalate (xs.map quote) ++ "]"

def Expr.render : Expr → String
  | .lit v _ _ => "Literal(" ++ v.render ++ ")"
  | .ident n _ => "Identifier(" ++ n ++ ")"
  | .call n args _ => "FunctionCall(" ++ n ++ "(" ++ ", ".intercalate (args.map Expr.render) ++ "))"
  | .binary l op r _ => "BinaryOp(" ++ l.render ++ " " ++ op ++ " " ++ r.render ++ ")"
  | .unary op e _ => "UnaryOp(" ++ op ++ " " ++ e.render ++ ")"

def Expr.argText : Expr → String
  | .lit v _ _ => v.word
  | .ident n _ => n
  | .call n args _ => n ++ "(" ++ ", ".intercalate (args.map Expr.argText) ++ ")"
  | .binary l op r _ => l.argText ++ " " ++ op ++ " " ++ r.argText
  | .unary op e _ => op ++ e.argText

def Arg.render : Arg → String
  | .positional v _ => "PositionalArg(" ++ v.render ++ ")"
  | .keyword k v _ => "KeywordArg(" ++ k ++ "=" ++ v.render ++ ")"

def Arg.argText : Arg → String
  | .positional v _ => v.argText
  | .keyword k v _ => k ++ "=" ++ v.argText

/-- An aggregation's name as stored: `fn`, or `fn:alias` when renamed. -/
def Aggregation.label (a : Aggregation) : String :=
  match a.asName with
  | some al => a.fn ++ ":" ++ al
  | none => a.fn

def Aggregation.render (a : Aggregation) : String :=
  "FunctionCall(" ++ a.label ++ "(" ++ ", ".intercalate (a.args.map Expr.render) ++ "))"

def ParamValue.render : ParamValue → String
  | .text s => quote s
  | .flag => "True"

def SourceRef.render (r : SourceRef) : String :=
  if r.params.isEmpty then "Source(" ++ r.kind ++ "=" ++ r.name ++ ")"
  else
    "Source(" ++ r.kind ++ "=" ++ r.name ++ ", " ++
      ", ".intercalate (r.params.map fun (k, v) => k ++ "=" ++ v.render) ++ ")"

def Source.render : Source → String
  | .one r => r.render
  | .union parts _ => "MultiSource(" ++ " OR ".intercalate (parts.map SourceRef.render) ++ ")"

def Stage.render (s : Stage) : String :=
  let args := ", ".intercalate (s.args.map Arg.render)
  let extras :=
    (if s.byFields.isEmpty then [] else ["by=" ++ quotedList s.byFields]) ++
    (if s.aggs.isEmpty then [] else ["aggs=[" ++ ", ".intercalate (s.aggs.map Aggregation.render) ++ "]"]) ++
    (if s.subqueries.isEmpty then [] else ["subqueries=" ++ toString s.subqueries.length])
  if extras.isEmpty then "PipeCommand(" ++ s.name ++ ", [" ++ args ++ "])"
  else "PipeCommand(" ++ s.name ++ ", [" ++ args ++ "], " ++ ", ".intercalate extras ++ ")"

/-- The printed form of a query: its source and stages joined by ` | `. -/
def Pipeline.render (q : Pipeline) : String :=
  " | ".intercalate (q.source.render :: q.stages.map Stage.render)

/-- A stage's arguments as plain words, then `by` and the `by` fields. -/
def Stage.argWords (s : Stage) : List String :=
  s.args.map Arg.argText ++ (if s.byFields.isEmpty then [] else "by" :: s.byFields)

/-!
## Outlines of syntax trees

The outline of a query is the same tree as plain data (`Value` dictionaries and lists), for
commands that take their parameters structured; a later keyword argument replaces an earlier one
in its place.
-/

def LitValue.toValue : LitValue → Value
  | .text s => .str s
  | .int n => .int n
  | .float x => .float x

def Expr.outline : Expr → Value
  | .lit v _ _ => v.toValue
  | .ident n _ => .dict [("type", .str "identifier"), ("name", .str n)]
  | .call n args _ =>
    .dict [("type", .str "function"), ("name", .str n), ("arguments", .list (args.map Expr.outline) 0)]
  | .binary l op r _ =>
    .dict [("type", .str "binary_op"), ("operator", .str op), ("left", l.outline), ("right", r.outline)]
  | .unary op e _ =>
    .dict [("type", .str "unary_op"), ("operator", .str op), ("operand", e.outline)]

def ParamValue.toValue : ParamValue → Value
  | .text s => .str s
  | .flag => .bool true

/-- The outline of a source: its kind, name and parameters; a union is of kind `multi`. -/
def Source.outline : Source → Value
  | .one r => .dict [("type", .str r.kind), ("name", .str r.name),
      ("parameters", .dict (r.params.map fun (k, v) => (k, v.toValue)))]
  | .union _ _ => .dict [("type", .str "multi"), ("name", .str ""), ("parameters", .dict [])]

def keywordOutline (args : List Arg) : List (String × Value) :=
  args.foldl (fun acc a => match a with
    | .keyword k v _ => upsert acc k v.outline
    | .positional _ _ => acc) []

def positionalOutline (args : List Arg) : List Value :=
  args.filterMap fun a => match a with
    | .positional v _ => some v.outline
    | .keyword _ _ _ => none

def Aggregation.outline (a : Aggregation) : Value :=
  .dict [("name", .str a.label), ("arguments", .list (a.args.map Expr.outline) 0)]

mutual

def Pipeline.outline : Pipeline → Value
  | .mk src stages _ => .dict [("source", src.outline), ("pipe_chain", .list (stagesOutline stages) 0)]

def stagesOutline : List Stage → List Value
  | [] => []
  | s :: rest => Stage.outline s :: stagesOutline rest

def Stage.outline : Stage → Value
  | .mk name args byFields aggs subqueries _ =>
    .dict [("command", .str name), ("positional_args", .list (positionalOutline args) 0),
      ("keyword_args", .dict (keywordOutline args)), ("by_fields", .list (byFields.map Value.str) 0),
      ("aggregations", .list (aggs.map Aggregation.outline) 0),
      ("subqueries", .list (subqueriesOutline subqueries) 0)]

def subqueriesOutline : List Subquery → List Value
  | [] => []
  | .mk q _ :: rest => Pipeline.outline q :: subqueriesOutline rest

end

/-!
## Syntax trees as JSON

Each node is an object with its node name under `node` and its offset under `pos`: `Command`,
`Source`, `Pipe`, `Positional`, `Keyword`, `Subquery`, `FunctionCall`, `BinaryOp`, `UnaryOp`,
`Identifier`, `Literal`. An aggregation is a `FunctionCall` whose name carries its alias
(`sum:total`).
-/

def Expr.toJson : Expr → Json
  | .lit v k p => .obj [("node", .str "Literal"), ("value", v.toValue.toJson),
      ("literal_type", .str (match k with | .string => "string" | .number => "number")), ("pos", .int p)]
  | .ident n p => .obj [("node", .str "Identifier"), ("name", .str n), ("pos", .int p)]
  | .call n args p => .obj [("node", .str "FunctionCall"), ("name", .str n),
      ("args", .arr (args.map Expr.toJson)), ("pos", .int p)]
  | .binary l op r p => .obj [("node", .str "BinaryOp"), ("op", .str op), ("left", l.toJson),
      ("right", r.toJson), ("pos", .int p)]
  | .unary op e p => .obj [("node", .str "UnaryOp"), ("op", .str op), ("operand", e.toJson),
      ("pos", .int p)]

def Arg.toJson : Arg → Json
  | .positional v p => .obj [("node", .str "Positional"), ("value", v.toJson), ("pos", .int p)]
  | .keyword k v p => .obj [("node", .str "Keyword"), ("key", .str k), ("value", v.toJson), ("pos", .int p)]

def Aggregation.toJson (a : Aggregation) : Json :=
  .obj [("node", .str "FunctionCall"), ("name", .str a.label), ("args", .arr (a.args.map Expr.toJson)),
    ("pos", .int a.pos)]

def SourceRef.toJson (r : SourceRef) : Json :=
  .obj [("node", .str "Source"), ("type", .str r.kind), ("name", .str r.name),
    ("params", .arr (r.params.map fun (k, v) => .arr [.str k, v.toValue.toJson])),
    ("multi", .null), ("pos", .int r.pos)]

/-- A source as JSON; a union is a `Source` node of type `multi` listing its parts. -/
def Source.toJson : Source → Json
  | .one r => r.toJson
  | .union parts p => .obj [("node", .str "Source"), ("type", .str "multi"), ("name", .str ""),
      ("params", .arr []), ("multi", .arr (parts.map SourceRef.toJson)), ("pos", .int p)]

mutual

def Pipeline.toJson : Pipeline → Json
  | .mk src stages p => .obj [("node", .str "Command"), ("source", src.toJson),
      ("pipes", .arr (stagesJson stages)), ("pos", .int p)]

def stagesJson : List Stage → List Json
  | [] => []
  | s :: rest => Stage.toJson s :: stagesJson rest

def Stage.toJson : Stage → Json
  | .mk name args byFields aggs subqueries p =>
    .obj [("node", .str "Pipe"), ("name", .str name), ("args", .arr (args.map Arg.toJson)),
      ("by", .arr (byFields.map Json.str)), ("aggs", .arr (aggs.map Aggregation.toJson)),
      ("subqueries", .arr (subqueriesJson subqueries)), ("pos", .int p)]

def subqueriesJson : List Subquery → List Json
  | [] => []
  | .mk q p :: rest =>
    .obj [("node", .str "Subquery"), ("command", Pipeline.toJson q), ("pos", .int p)] :: subqueriesJson rest

end

end PipeQuery.Query
