import PipeQuery.Json
import PipeQuery.Query.Token.Scan
import PipeQuery.Query.Formula
import PipeQuery.Query.Syntax.Forms
import PipeQuery.Pipeline
import PipeQuery.Table.Json

/-!
# Answering requests

A request is a JSON object whose `op` names what to do; the answer is one JSON object. Failures are
answered as `{"error": kind, "message": text}`, the message left out where the failure carries
none.
-/

namespace PipeQuery.Service

open Query

def failure (kind : String) (message : Option String := none) : Json :=
  match message with
  | some m => .obj [("error", .str kind), ("message", .str m)]
  | none => .obj [("error", .str kind)]

def tokenJson (t : Token) : Json :=
  .arr [.str t.kind.name, .str t.text, .int t.pos, .int t.line, .int t.column]

def lex (source : String) : Json :=
  match Token.scan source with
  | .ok toks => .obj [("tokens", .arr (toks.toList.map tokenJson))]
  | .error e => failure "LexerError" e.message

def splitPipe (source : String) : Json :=
  .obj [("segments", .arr ((segments source).map Json.str))]

def parseErrorKind : ParseError → String
  | .number _ => "ValueError"
  | .tooDeep => "RecursionError"
  | _ => "ParserError"

def parseFailure (e : ParseError) : Json :=
  match e with
  | .tooDeep => failure (parseErrorKind e)
  | _ => failure (parseErrorKind e) e.message

/-- The syntax tree of a query, its printed form, its stages' argument words and its outline. -/
def parse (source : String) : Json :=
  match Query.parse source with
  | .ok q => .obj [("ast", q.toJson), ("repr", .str q.render),
      ("args", .arr (q.stages.map fun st => .arr (st.argWords.map Json.str))),
      ("structured", q.outline.toJson)]
  | .error e => parseFailure e

def parseFormula (source : String) : Json :=
  match Formula.parse source with
  | .ok e => .obj [("ast", e.toJson)]
  | .error (.lex le) => failure "LexerError" le.message
  | .error .tooDeep => failure "RecursionError"
  | .error e => failure "ValueError" e.message

def faultJson (f : Fault) : Json :=
  failure f.kind.name (if f.shown then some f.text else none)

/-- The catalog loaded with the tables of a request's `tables` object, at the instant `now`. -/
def loadTables (now : Option Int) (req : Json) : Outcome Catalog :=
  match (req.get? "tables").bind Json.obj? with
  | some members => members.foldlM (fun c (name, j) =>
      match Table.ofJson? j with
      | some (.ok t) =>
        let (c, t) := c.number t
        pure (c.set name t)
      | some (.error f) => throw f
      | none => pure c) { now }
  | none => pure { now }

/-- Runs each query in turn against one catalog; each answer is a table or a failure. -/
def runQueries (now : Option Int) (req : Json) : Json :=
  let queries := ((req.get? "queries").bind Json.arr?).getD []
  let step (acc : Catalog × List Json) (q : Json) : Catalog × List Json :=
    let (cat, out) := acc
    let text := (q.str?).getD ""
    let (res, cat) := (runText text).run cat |>.run
    match res with
    | .ok t => (cat, .obj [("table", t.toJson)] :: out)
    | .error f => (cat, faultJson f :: out)
  match loadTables now req with
  | .error f => faultJson f
  | .ok cat =>
    let (_, out) := queries.foldl step (cat, [])
    .obj [("results", .arr out.reverse)]

/-- Runs one command line on the catalog and working table; a failed line keeps the working table.
-/
def lineStep (acc : Catalog × Held × List Json) (l : Json) : Catalog × Held × List Json :=
  let (cat, h, out) := acc
  match Step.ofLine ((l.str?).getD "") with
  | .error f => (cat, h, faultJson f :: out)
  | .ok (words, st) =>
    let (res, cat) := (st.run 64 h).run cat |>.run
    match res with
    | .ok u =>
      (cat, u, .obj [("table", u.table.toJson), ("args", .arr (words.map Json.str))] :: out)
    | .error f => (cat, { h with table := st.leaves h.table }, faultJson f :: out)

/-- Runs command lines in turn (`lineStep`) on a working table that starts as a stored table. -/
def runLines (now : Option Int) (req : Json) : Json :=
  match loadTables now req with
  | .error f => faultJson f
  | .ok cat =>
    let input := ((req.get? "input").bind Json.str?).getD ""
    let start : Held := match cat.get? input with
      | some t => { table := t, holders := [input] }
      | none => { table := Table.empty }
    let lines := ((req.get? "commands").bind Json.arr?).getD []
    let (_, _, out) := lines.foldl lineStep (cat, start, [])
    .obj [("results", .arr out.reverse)]

/-- A catalog operation read from its JSON form, or the answer given when it cannot be read. -/
def catalogRequest (op : Json) : Except Json Catalog.Request :=
  let name := ((op.get? "name").bind Json.str?).getD ""
  match (op.get? "do").bind Json.str? with
  | some "set" =>
    match (op.get? "table").bind Table.ofJson? with
    | some (.ok t) => pure (.set name t)
    | some (.error f) => throw (faultJson f)
    | none => throw (failure "KeyError")
  | some "get" => pure (.get name)
  | some "has" => pure (.has name)
  | some "delete" => pure (.delete name)
  | some "list" => pure .list
  | some "clear" => pure .clear
  | _ => throw (failure "KeyError")

def replyJson : Catalog.Reply → Json
  | .done => .obj [("ok", .bool true)]
  | .table t => .obj [("table", (t.map Table.toJson).getD .null)]
  | .flag b => .obj [("value", .bool b)]
  | .names ns => .obj [("value", .arr (ns.map Json.str))]

def catalogOps (req : Json) : Json :=
  let ops := ((req.get? "ops").bind Json.arr?).getD []
  let step (acc : Catalog × List Json) (op : Json) : Catalog × List Json :=
    match catalogRequest op with
    | .ok r =>
      let (cat, reply) := acc.1.serve r
      (cat, replyJson reply :: acc.2)
    | .error answer => (acc.1, answer :: acc.2)
  let (_, out) := ops.foldl step ({}, [])
  .obj [("results", .arr out.reverse)]

def answer (now : Option Int) (req : Json) : Json :=
  match req.get? "op" |>.bind Json.str? with
  | some "lex" => lex ((req.get? "source").bind Json.str? |>.getD "")
  | some "split_pipe" => splitPipe ((req.get? "source").bind Json.str? |>.getD "")
  | some "parse" => parse ((req.get? "source").bind Json.str? |>.getD "")
  | some "parse_expr" => parseFormula ((req.get? "source").bind Json.str? |>.getD "")
  | some "commands" => .obj [("commands", .arr (Kind.keywords.map Json.str))]
  | some "run" => runQueries now req
  | some "legacy" => runLines now req
  | some "cache" => catalogOps req
  | some op => failure "BadRequest" s!"unknown op {Json.quoteString op}"
  | none => failure "BadRequest" "missing op"

/-- The answer to one line of text holding a request, served at the instant `now` (nanoseconds since
the epoch), when it is known. -/
def respond (now : Option Int) (line : String) : String :=
  match Json.parse line with
  | .ok req => (answer now req).render
  | .error e => (failure "BadRequest" e).render

end PipeQuery.Service
