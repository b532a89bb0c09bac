import PipeQuery.Command.Args
import PipeQuery.Text.Numeral
import PipeQuery.Table.Show

/-!
# `mvexpand`: one row per item

`mvexpand f` gives one row per item of each list (key of each dictionary) in `f`, an empty one
giving one row with NaN, the other columns repeated; `delim=d` first cuts each value's text at `d`; `limit=n` keeps at most
`n` rows of each (a negative `n` drops the last `-n`). Expanded texts are trimmed and the rows
numbered afresh.
-/

namespace PipeQuery

/-- What `mvexpand` does: the column, the separator and the number of rows kept per row. -/
structure Expansion where
  field : String := ""
  delimiter : Option String := none
  limit : Option Int := none
  deriving Inhabited

namespace Expansion

open Query Command

def ofStage (st : Stage) : Outcome Expansion :=
  st.args.foldlM (fun (x : Expansion) (a : Arg) =>
    match a with
    | .positional (.lit v _ _) _ => pure { x with field := stripQuotes v.word }
    | .positional (.ident n _) _ => pure { x with field := n }
    | .keyword k (.lit v _ _) _ =>
      if k == "delim" || k == "delimiter" then pure { x with delimiter := some v.word }
      else if k == "limit" then do pure { x with limit := some (← litToInt v) }
      else pure x
    | _ => pure x) {}

/-- The request of a command's words: `delim=`/`delimiter=` and `limit=` settings, the first other
word the column. -/
def ofWords (ws : List String) : Outcome Expansion :=
  ws.foldlM (fun (x : Expansion) (w : String) =>
    if w.startsWith "delim=" || w.startsWith "delimiter=" then
      pure { x with delimiter := some (stripQuotes (String.ofList ((w.toList.dropWhile (· != '=')).drop 1))) }
    else if let some v := afterPrefix? "limit=" w then do pure { x with limit := some (← textToInt v) }
    else if x.field.isEmpty then pure { x with field := w }
    else pure x) {}

end Expansion

/-- A value cut at a separator into a list of the pieces of its text. -/
def cutValue (sep : String) (v : Value) : Outcome Value :=
  let cut (v : Value) : Value := .list ((Text.splitText v.text sep).map .str) 0
  match v with
  | .list [item] _ => pure (if item.isMissing then .list [v] 0 else cut v)
  | .list [] _ => throw (Fault.raised .valueError
      "The truth value of an empty array is ambiguous. Use `array.size > 0` to check that an array is not empty.")
  | .list _ _ => throw (Fault.raised .valueError
      "The truth value of an array with more than one element is ambiguous. Use a.any() or a.all()")
  | v => pure (if v.isMissing then .list [v] 0 else cut v)

/-- The items a value expands to: a list's items, a dictionary's keys (NaN for an empty one), or the
value itself. -/
def Value.items : Value → List Value
  | .list [] _ | .dict [] => [Value.nan]
  | .list items _ => items
  | .dict members => members.map fun m => .str m.1
  | v => [v]

def keptRows (labels : Array Value) (n : Int) : Array Nat :=
  (Array.range labels.size).filter fun k =>
    let label := labels.getD k .none
    let same (j : Nat) : Bool := Value.same (labels.getD j .none) label
    if n ≥ 0 then (((List.range k).filter same).length : Int) < n
    else ((((List.range labels.size).drop (k + 1)).filter same).length : Int) ≥ -n

namespace Command

def expand (x : Expansion) (t : Table) : Outcome Table := do
  if t.isEmpty || x.field.isEmpty then return t
  let some c := t.find? x.field | throw (Fault.invalid s!"Field not found: {x.field}")
  let c ← match x.delimiter with
    | some d =>
      if d.isEmpty then pure c
      else do
        let cells ← c.cells.mapM (cutValue d)
        pure { c with dtype := .object, cells }
    | none => pure c
  let items : Array (List Value) :=
    if c.dtype == .object then c.cells.map Value.items else c.cells.map ([·])
  let pairs : Array (Nat × Value) :=
    (items.zipIdx.map fun (vs, i) => (vs.map (i, ·)).toArray).flatten
  let rows := pairs.map (·.1)
  let expanded : Table := t.pick rows
  let expanded : Table := expanded.put { c with cells := pairs.map (·.2) }
  let expanded : Table :=
    match x.limit with
    | some n => if n == 0 then expanded else expanded.pick (keptRows expanded.index n)
    | none => expanded
  let expanded : Table :=
    match expanded.find? x.field with
    | some e =>
      if e.dtype == .object then
        expanded.put { e with cells := e.cells.map fun (v : Value) => match v with
          | .str s => .str (Text.trimBlanks s)
          | v => v }
      else expanded
    | none => expanded
  return expanded.resetIndex

end Command

end PipeQuery
