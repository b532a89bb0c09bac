import PipeQuery.Command.Columns
import PipeQuery.Table.Sort
import PipeQuery.Table.Concat
import PipeQuery.Table.Math
import PipeQuery.Table.Arith

/-!
# `top` and `rare`

`top n f1, f2 by k` lists the `n` (ten by default) most frequent combinations of the fields'
values with their counts, `rare` the least frequent, ties in the order of the values; rows with a
missing field are left out. With `by` this is done per group of keys, the keys in front.
`showperc` adds `percent` (two decimals), `showcount=false` drops `count`. Missing fields and
fields holding lists fail.
-/

namespace PipeQuery

structure Frequency where
  limit : Int := 10
  fields : List String := []
  keys : List String := []
  showCount : Bool := true
  showPercent : Bool := false
  deriving Inhabited

namespace Frequency

open Query Command

def ofStage (st : Stage) : Outcome Frequency := do
  let (r, _) ← st.args.foldlM (fun (acc : Frequency × Bool) (a : Arg) => do
    let (r, byNow) := acc
    match a with
    | .positional (.lit v _ _) _ =>
      let isNumber := match v with
        | .text _ => false
        | _ => true
      if isNumber && r.fields.isEmpty then pure ({ r with limit := ← litToInt v }, byNow)
      else if Text.lower v.word == "by" then pure (r, true)
      else if byNow then pure ({ r with keys := r.keys ++ [stripQuotes v.word] }, byNow)
      else pure ({ r with fields := r.fields ++ [stripQuotes v.word] }, byNow)
    | .positional (.ident n _) _ =>
      if Text.lower n == "by" then pure (r, true)
      else if byNow then pure ({ r with keys := r.keys ++ [n] }, byNow)
      else pure ({ r with fields := r.fields ++ [n] }, byNow)
    | .keyword k (.lit v _ _) _ =>
      if k == "limit" then pure ({ r with limit := ← litToInt v }, byNow)
      else if k == "showcount" then pure ({ r with showCount := isYes v.word }, byNow)
      else if k == "showperc" then pure ({ r with showPercent := isYes v.word }, byNow)
      else pure (r, byNow)
    | _ => pure (r, byNow)) ({}, false)
  pure r

def ofWords (ws : List String) : Outcome Frequency := do
  let (r, _) ← ws.foldlM (fun (acc : Frequency × Bool) (w : String) => do
    let (r, byNow) := acc
    let w := stripCommas w
    if Text.lower w == "by" then pure (r, true)
    else if let some v := afterPrefix? "showcount=" w then pure ({ r with showCount := isYes v }, byNow)
    else if let some v := afterPrefix? "showperc=" w then pure ({ r with showPercent := isYes v }, byNow)
    else if let some v := afterPrefix? "limit=" w then pure ({ r with limit := ← textToInt v }, byNow)
    else if byNow then pure ({ r with keys := r.keys ++ [w] }, byNow)
    else if r.fields.isEmpty then
      match Text.readInt? w with
      | some n => pure ({ r with limit := n }, byNow)
      | none => pure ({ r with fields := r.fields ++ [w] }, byNow)
    else pure ({ r with fields := r.fields ++ [w] }, byNow)) ({}, false)
  pure r

end Frequency

namespace Command

def scalarColumn (label : Value) (n : Nat) (v : Value) : Column :=
  let (dtype, cells) := inferCells #[v]
  { label, dtype, cells := Array.replicate n (cells.getD 0 v) }

/-- The combinations of the field columns among `rows`, with their counts, most first unless
`rarest`. -/
def countCombinations (rarest : Bool) (limit : Int) (fields : List Column) (rows : Array Nat) :
    Table :=
  let parts := fields.map (·.pick rows)
  let groups := (groupRows rows.size parts).toArray
  let sizes : Column :=
    { label := .str "count", dtype := .int64, cells := groups.map fun (_, rs) => Value.int rs.length }
  let ordered := (orderByKey sizes rarest (Array.range groups.size)).toList.map fun i =>
    groups.getD i ([], [])
  let columns := parts.map fun c =>
    { c with cells := (ordered.map fun (_, rs) => c.cell (rs.headD 0)).toArray }
  let counts : Column :=
    { label := .str "count", dtype := .int64, cells := (ordered.map fun (_, rs) => Value.int rs.length).toArray }
  let t : Table := { columns := (columns ++ [counts]).toArray, index := Table.rangeIndex ordered.length }
  t.head limit

def frequent (rarest : Bool) (r : Frequency) (t : Table) : Outcome Table := do
  if t.isEmpty || r.fields.isEmpty then return t
  let missing := absent t (r.fields ++ r.keys)
  if !missing.isEmpty then throw (Fault.invalid s!"Fields not found: {Query.quotedList missing}")
  let fieldCols := r.fields.filterMap t.find?
  if (fieldCols ++ r.keys.filterMap t.find?).any fun c => c.cells.any (· matches .list _ _) then
    throw (Fault.inner .typeError "unhashable type: 'list'")
  let result ←
    if r.keys.isEmpty then pure (countCombinations rarest r.limit fieldCols (Array.range t.rowCount))
    else
      let keyCols := r.keys.filterMap t.find?
      let groups := groupRows t.rowCount keyCols
      if groups.isEmpty then throw (Fault.inner .valueError "No objects to concatenate")
      let parts := groups.map fun (_, rows) =>
        let counts := countCombinations rarest r.limit fieldCols rows.toArray
        keyCols.foldl (fun (acc : Table) (k : Column) =>
          let v := k.cell (rows.headD 0)
          acc.put (scalarColumn k.label acc.rowCount v)) counts
      pure (Table.stack parts)
  let counts := (result.find? "count").getD default
  let total := counts.cells.foldl (fun s v => s + v.toInteger) 0
  let result :=
    if r.showPercent then
      let cells := counts.cells.map fun v =>
        Value.float (Float.roundTo (Num.intToFloat v.toInteger / Num.intToFloat total * 100.0) 2)
      result.put { label := .str "percent", dtype := .float64, cells }
    else result
  let order := r.keys ++ r.fields ++ (if r.showCount then ["count"] else []) ++
    (if r.showPercent then ["percent"] else [])
  let columns := order.filterMap result.find?
  return { columns := columns.toArray, index := Table.rangeIndex result.rowCount }

end Command

end PipeQuery
