import PipeQuery.Command.Args
import PipeQuery.Table.Show
import PipeQuery.Text.Numeral
import PipeQuery.Regex.Parse
import PipeQuery.Regex.Replace

/-!
# `rex`: fields out of text

`rex field=f "pattern"` makes a column of each group of the pattern's first match in the texts
of `f` (named groups by name, else `extract_1`, …; no match gives NaN), the names going to the
groups in order. `mode=sed`, or a pattern `s/old/new/`, rewrites the column instead.
-/

namespace PipeQuery

/-- What `rex` does: the column it reads, the pattern, and for `sed` the replacement. -/
structure Extraction where
  field : String := ""
  pattern : String := ""
  substitute : Bool := false
  replacement : String := ""
  maxMatch : Int := 1
  deriving Inhabited

namespace Extraction

/-- The parts of an `s/old/new/` text after `s/`, cut at each unescaped `/`. -/
def sedPieces : List Char → List Char → List String
  | [], cur => if cur.isEmpty then [] else [String.ofList cur.reverse]
  | '\\' :: c :: rest, cur => sedPieces rest (c :: '\\' :: cur)
  | ['\\'], cur => sedPieces [] cur
  | '/' :: rest, cur => String.ofList cur.reverse :: sedPieces rest []
  | c :: rest, cur => sedPieces rest (c :: cur)

def isSed (s : String) : Bool :=
  s.startsWith "s/" && (s.toList.drop 2).contains '/'

def withSed (x : Extraction) (s : String) : Extraction :=
  match sedPieces (s.toList.drop 2) [] with
  | pat :: repl :: _ => { x with pattern := pat, replacement := repl, substitute := true }
  | _ => x

def set (x : Extraction) (key value : String) : Outcome Extraction :=
  match key with
  | "field" => pure { x with field := value }
  | "pattern" => pure { x with pattern := value }
  | "mode" => pure { x with substitute := Text.lower value == "sed" }
  | "replacement" => pure { x with replacement := value }
  | "max_match" => return { x with maxMatch := ← Command.textToInt value }
  | _ => pure x

open Query Command

def ofStage (st : Stage) : Outcome Extraction :=
  st.args.foldlM (fun (x : Extraction) (a : Arg) =>
    match a with
    | .positional (.lit v _ _) _ =>
      let w := v.word
      if isSed w then pure (x.withSed w)
      else if x.pattern.isEmpty then pure { x with pattern := w }
      else pure x
    | .positional _ _ => pure x
    | .keyword k e _ => x.set k e.wordOrRender) {}

def ofWords (ws : List String) : Outcome Extraction :=
  ws.foldlM (fun (x : Extraction) (w : String) =>
    if let some v := afterPrefix? "field=" w then x.set "field" (stripQuotes v)
    else if let some v := afterPrefix? "pattern=" w then x.set "pattern" (stripQuotes v)
    else if let some v := afterPrefix? "mode=" w then x.set "mode" v
    else if let some v := afterPrefix? "replacement=" w then x.set "replacement" (stripQuotes v)
    else if let some v := afterPrefix? "max_match=" w then x.set "max_match" v
    else if isSed w then pure (x.withSed w)
    else if x.pattern.isEmpty then pure { x with pattern := stripQuotes w }
    else pure x) {}

end Extraction

/-- A pattern with each `(?<name>` written `(?P<name>`; look-behinds `(?<=` and `(?<!` stay. -/
def markNamedGroups (p : String) : String :=
  match Text.splitText p "(?<" with
  | [] => p
  | first :: rest =>
    first ++ String.join (rest.map fun piece =>
      let name := piece.toList.takeWhile Regex.isWordChar
      if !name.isEmpty && (piece.toList.drop name.length).head? == some '>' then "(?P<" ++ piece
      else "(?<" ++ piece)

/-- The groups of a pattern's first match in a text, NaN for a group not taking part; all NaN with
no match. -/
def firstGroups (re : Regex.Pattern) (s : String) : List Value :=
  let text := s.toList.toArray
  match re.searchFrom text 0 false with
  | some h => (List.range re.groups).map fun i =>
    match h.group? text (i + 1) with
    | some g => .str g
    | none => Value.nan
  | none => List.replicate re.groups Value.nan

namespace Command

def extract (x : Extraction) (t : Table) : Outcome Table := do
  if t.isEmpty || x.pattern.isEmpty then return t
  if x.field.isEmpty then throw (Fault.invalid "Field not specified for rex command")
  let some c := t.find? x.field | throw (Fault.invalid s!"Field not found: {x.field}")
  let texts := c.texts
  if x.substitute then
    let re ← (Regex.compile x.pattern false).mapError (·.fault x.pattern)
    let cells ← texts.mapM fun s =>
      match re.replace x.replacement s none with
      | .ok r => pure (Value.str r)
      | .error e => throw (e.fault x.replacement)
    return t.put { c with dtype := .object, cells }
  let pattern := markNamedGroups x.pattern
  let re ← match Regex.compile pattern false with
    | .ok re => pure re
    | .error .tooLarge => throw (Regex.Failure.tooLarge.fault pattern)
    | .error (.flagConflict msg) => throw ((Regex.Failure.flagConflict msg).fault pattern)
    | .error e => throw (Fault.invalid s!"Invalid regex pattern: {e.describe pattern}")
  if re.groups == 0 then throw (Fault.inner .valueError "pattern contains no capture groups")
  let rows := texts.map (firstGroups re)
  let labels :=
    if re.names.isEmpty then (List.range re.groups).map fun i => s!"extract_{i + 1}"
    else re.names.map (·.1)
  return labels.zipIdx.foldl (fun (out : Table) (label, i) =>
    out.put { label := .str label, dtype := .object, cells := rows.map (·.getD i Value.nan) }) t

end Command

end PipeQuery
