import PipeQuery.Command.Args
import PipeQuery.Table.Show
import PipeQuery.Table.Fill
import PipeQuery.Regex.Parse
import PipeQuery.Regex.Replace

/-!
# `replace`: values swapped for others

`replace f old with new` turns the texts of `f` equal to `old` into `new`; with `regex="p"` every
match of `p` is replaced (`\1` for group 1); `null` as the old value fills the missing cells.
Columns of numbers, truths or instants hold no texts and stay as they are.
-/

namespace PipeQuery

inductive Change
  /-- Missing cells become the text. -/
  | fill (value : String)
  /-- Matches of the pattern become the replacement. -/
  | pattern (pat : String) (repl : Option String)
  /-- Texts equal to `old` become `new`. -/
  | exact (old : String) (new : Option String)
  deriving Inhabited

structure Replacement where
  field : String
  change : Change
  deriving Inhabited

namespace Replacement

open Query Command

def ofStage (st : Stage) : List Replacement :=
  let (field, old, new, isPattern) := st.args.foldl (fun
      (acc : Option String × Option String × Option String × Bool) (a : Arg) =>
    let (field, old, new, isPattern) := acc
    match a with
    | .positional (.ident n _) _ =>
      if field.isNone then (some n, old, new, isPattern)
      else if old.isNone then (field, some n, new, isPattern)
      else (field, old, some n, isPattern)
    | .positional (.lit v _ _) _ =>
      if old.isNone then (field, some v.word, new, isPattern) else (field, old, some v.word, isPattern)
    | .keyword "regex" e _ =>
      match e with
      | .lit v _ _ => (field, some v.word, new, true)
      | _ => (field, old, new, true)
    | .keyword "with" (.lit v _ _) _ => (field, old, some v.word, isPattern)
    | _ => acc) (none, none, none, false)
  match field, old with
  | some f, some o =>
    [{ field := f, change := if isPattern then .pattern o new else .exact o new }]
  | _, _ => []

def ofWords (ws : List String) : List Replacement :=
  go ws.length ws
where
  go : Nat → List String → List Replacement
    | 0, _ => []
    | fuel + 1, field :: old :: w :: rest =>
      let (isPattern, old) := match afterPrefix? "regex=" old with
        | some p => (true, stripQuotes p)
        | none => (false, stripQuotes old)
      let next : Option (String × List String) :=
        if Text.lower w == "with" then
          match rest with
          | v :: more => some (stripQuotes v, more)
          | [] => none
        else some (stripQuotes w, rest)
      match next with
      | none => []
      | some (new, more) =>
        let change :=
          if Text.lower old == "null" then Change.fill new
          else if isPattern then .pattern old (some new)
          else .exact old (some new)
        { field, change } :: go fuel more
    | _, _ => []

end Replacement

namespace Command

def change (c : Column) : Change → Outcome Column
  | .fill v => pure (c.fillWith (.str v))
  | .pattern pat repl => do
    let some repl := repl | throw (Fault.inner .typeError "repl must be a string or callable")
    let re ← (Regex.compile pat false).mapError (·.fault pat)
    let cells ← c.texts.mapM fun s =>
      match re.replace repl s none with
      | .ok r => pure (Value.str r)
      | .error e => throw (e.fault repl)
    pure { c with dtype := .object, cells }
  | .exact old new =>
    let hit (v : Value) : Bool := match v with
      | .str s => s == old
      | _ => false
    let newValue : Value := match new with
      | some s => .str s
      | none => .none
    if c.dtype == .object && c.cells.any hit then
      pure { c with cells := c.cells.map fun v => if hit v then newValue else v }
    else pure c

def replace (rs : List Replacement) (t : Table) : Outcome Table := do
  if t.isEmpty || rs.isEmpty then return t
  rs.foldlM (fun (t : Table) (r : Replacement) => do
    let some c := t.find? r.field | throw (Fault.invalid s!"Field not found: {r.field}")
    return t.put (← change c r.change)) t

end Command

end PipeQuery
