import PipeQuery.Command.Columns
import PipeQuery.Table.Fill
import PipeQuery.Query.Syntax.Forms

/-!
# `dropnull` and `fillnull`

`dropnull a, b` drops the rows with a missing value among the fields (all columns when none is
named; `how=all`, `thresh=k` loosen this) and labels the rows afresh. `fillnull a, b value=v`
fills the missing cells of the fields with `v`, or by `method=ffill`, `bfill`, `mean`, `median`
or `mode`; an unknown method fills nothing, and a field named twice makes a fill by value or
neighbour fail.
-/

namespace PipeQuery.Command

open Query

structure DropNull where
  fields : List String := []
  how : String := "any"
  thresh : Option Int := none
  deriving Inhabited

def DropNull.ofStage (st : Stage) : Outcome DropNull :=
  st.args.foldlM (fun d a =>
    match a with
    | .positional (.lit v _ _) _ => pure { d with fields := d.fields ++ [stripQuotes v.word] }
    | .positional (.ident n _) _ => pure { d with fields := d.fields ++ [n] }
    | .keyword "how" (.lit v _ _) _ => pure { d with how := Text.lower v.word }
    | .keyword "thresh" (.lit v _ _) _ => do pure { d with thresh := some (← litToInt v) }
    | _ => pure d) {}

def DropNull.ofWords (ws : List String) : Outcome DropNull :=
  ws.foldlM (fun d w =>
    let w := stripCommas w
    match afterPrefix? "how=" w, afterPrefix? "thresh=" w with
    | some h, _ => pure { d with how := Text.lower h }
    | _, some k => do pure { d with thresh := some (← textToInt k) }
    | _, _ => pure { d with fields := d.fields ++ [w] }) {}

def dropNull (d : DropNull) (t : Table) : Outcome Table := do
  if t.isEmpty then return t
  let missing := absent t d.fields
  if !missing.isEmpty then throw (Fault.invalid s!"Fields not found: {quotedList missing}")
  let cols := if d.fields.isEmpty then t.columns.toList else d.fields.filterMap t.find?
  let present (i : Nat) := (cols.filter fun c => !(c.cell i).isMissing).length
  let keep : Nat → Bool ← match d.thresh with
    | some k => pure fun i => (present i : Int) ≥ k
    | none =>
      match d.how with
      | "any" => pure fun i => present i == cols.length
      | "all" => pure fun i => present i > 0
      | h => throw (Fault.inner .valueError s!"invalid how option: {h}")
  return (t.keep ((Array.range t.rowCount).map keep)).resetIndex

structure FillNull where
  fields : List String := []
  value : Option Value := none
  method : Option String := none
  deriving Inhabited

def FillNull.ofStage (st : Stage) : FillNull :=
  st.args.foldl (fun d a =>
    match a with
    | .positional (.lit v _ _) _ => { d with fields := d.fields ++ [stripQuotes v.word] }
    | .positional (.ident n _) _ => { d with fields := d.fields ++ [n] }
    | .keyword "value" (.lit v _ _) _ => { d with value := some v.toValue }
    | .keyword "method" (.lit v _ _) _ => { d with method := some (Text.lower v.word) }
    | _ => d) {}

/-- The settings of words: a value is a number when it reads as one. -/
def FillNull.ofWords (ws : List String) : FillNull :=
  ws.foldl (fun d w =>
    let w := stripCommas w
    match afterPrefix? "value=" w, afterPrefix? "method=" w with
    | some v, _ =>
      let v := stripQuotes v
      { d with value := some ((wordNumber? v).getD (.str v)) }
    | _, some m => { d with method := some (Text.lower m) }
    | _, _ => { d with fields := d.fields ++ [w] }) {}

def fillNull (d : FillNull) (t : Table) : Outcome Table := do
  if t.isEmpty then return t
  let targets := if d.fields.isEmpty then (t.columns.toList.filterMap fun c =>
      match c.label with
      | .str s => some s
      | _ => none) else d.fields
  let missing := absent t targets
  if !missing.isEmpty then throw (Fault.invalid s!"Fields not found: {quotedList missing}")
  let touched (c : Column) := targets.any c.named
  let apply (f : Column → Column) : Table :=
    { t with columns := t.columns.map fun c => if touched c then f c else c }
  -- the fields are written back as a block, which fails for a field named twice
  let twice := targets.find? fun f => (targets.filter (· == f)).length > 1
  let block (f : Column → Column) : Outcome Table :=
    match twice with
    | some f =>
      throw (Fault.inner .valueError s!"Cannot set a DataFrame with multiple columns to the single column {f}")
    | none => return apply f
  match d.method.filter (!·.isEmpty) with
  | some "ffill" => block Column.padForward
  | some "bfill" => block Column.padBackward
  | some "mean" => return apply fun c => if c.dtype.isNumeric then c.fillWith (.float c.mean) else c
  | some "median" => return apply fun c => if c.dtype.isNumeric then c.fillWith (.float c.median) else c
  | some "mode" => return apply fun c =>
      match c.mode with
      | m :: _ => c.fillWith m
      | [] => c
  | some _ => return t
  | none =>
    match d.value with
    | some v => block (·.fillWith v)
    | none => return t

end PipeQuery.Command
