import PipeQuery.Command.Args
import PipeQuery.Command.Columns
import PipeQuery.Table.Sort

/-!
# `sort` and `dedup`

`sort a, -b` orders the rows by `a` ascending, then `b` descending (`sortRows`), missing values
last, and labels them afresh. `dedup a, b` keeps the first (or, `keep=last`, the last) of the rows
that agree on the fields; `consecutive=true` compares each row with the one before only, where a
missing value never agrees; `sortby=-t` orders the rows first.
-/

namespace PipeQuery.Command

open Query

/-- A sort key from its written form: a leading `-` means descending. -/
def sortKey (w : String) : String × Bool :=
  match afterPrefix? "-" w with
  | some f => (f, false)
  | none => (w, true)

def sortKeysOfStage (st : Stage) : List (String × Bool) :=
  st.args.filterMap fun a =>
    match a with
    | .positional (.lit v _ _) _ => some (sortKey (stripQuotes v.word))
    | .positional (.ident n _) _ => some (n, true)
    | _ => none

def sortKeysOfWords (ws : List String) : List (String × Bool) :=
  ws.map fun w => sortKey (stripCommas w)

def sort (keys : List (String × Bool)) (t : Table) : Outcome Table := do
  if t.isEmpty || keys.isEmpty then return t
  let missing := absent t (keys.map (·.1))
  if !missing.isEmpty then throw (Fault.invalid s!"Sort fields not found: {quotedList missing}")
  return (← t.sortBy keys).resetIndex

structure Dedup where
  fields : List String := []
  keep : String := "first"
  consecutive : Bool := false
  sortBy : List (String × Bool) := []
  deriving Inhabited

namespace Dedup

def ofStage (st : Stage) : Dedup :=
  st.args.foldl (fun d a =>
    match a with
    | .positional (.lit v _ _) _ => { d with fields := d.fields ++ [stripQuotes v.word] }
    | .positional (.ident n _) _ => { d with fields := d.fields ++ [n] }
    | .keyword "keep" (.lit v _ _) _ => { d with keep := Text.lower v.word }
    | .keyword "consecutive" (.lit v _ _) _ => { d with consecutive := isYes v.word }
    | .keyword "sortby" (.lit v _ _) _ => { d with sortBy := d.sortBy ++ [sortKey v.word] }
    | _ => d) {}

def ofWords (ws : List String) : Dedup :=
  ws.foldl (fun d w =>
    let w := stripCommas w
    match afterPrefix? "keep=" w, afterPrefix? "consecutive=" w, afterPrefix? "sortby=" w with
    | some k, _, _ => { d with keep := Text.lower k }
    | _, some c, _ => { d with consecutive := isYes c }
    | _, _, some s => { d with sortBy := d.sortBy ++ [sortKey s] }
    | _, _, _ => { d with fields := d.fields ++ [w] }) {}

end Dedup

/-- Whether two cells agree when rows are compared for dropping: missing values agree. -/
def cellsAgree (a b : Value) : Bool :=
  (a.isMissing && b.isMissing) || Value.same a b

/-- The failure of naming columns that are not there, reported by the table machinery. -/
def keyFault (missing : List String) : Fault :=
  Fault.inner .keyError (quotedList missing)

def dedup (d : Dedup) (t : Table) : Outcome Table := do
  if t.isEmpty then return t
  let t ← if d.sortBy.isEmpty then pure t
    else
      let missing := absent t (d.sortBy.map (·.1))
      if !missing.isEmpty then throw (keyFault missing)
      t.sortBy d.sortBy
  let cols ← if d.fields.isEmpty then pure t.columns.toList
    else
      let missing := absent t d.fields
      if !missing.isEmpty then throw (keyFault missing)
      pure (d.fields.filterMap t.find?)
  let n := t.rowCount
  let keepRows : Array Bool ←
    if d.consecutive then
      pure ((Array.range n).map fun i =>
        i == 0 || cols.any fun c =>
          let a := c.cell i
          let b := c.cell (i - 1)
          a.isMissing || b.isMissing || !Value.same a b)
    else
      let agree (i j : Nat) := cols.all fun c => cellsAgree (c.cell i) (c.cell j)
      match d.keep with
      | "first" => pure ((Array.range n).map fun i => !(List.range i).any (agree i ·))
      | "last" => pure ((Array.range n).map fun i => !((List.range n).drop (i + 1)).any (agree i ·))
      | _ => throw (Fault.inner .valueError "keep must be either \"first\", \"last\" or False")
  return (t.keep keepRows).resetIndex

end PipeQuery.Command
