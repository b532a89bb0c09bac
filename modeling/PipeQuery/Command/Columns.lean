import PipeQuery.Command.Args
import PipeQuery.Table.Basic
import PipeQuery.Random.Twister
import PipeQuery.Table.Infer
import PipeQuery.Table.Concat

/-!
# Choosing rows and columns

`select` and `rename` act on columns; `head`, `tail`, `reverse` and `sample` choose rows and their
order; `transpose` turns rows into columns.
-/

/-!
## `select` and `rename`

`select a, b` keeps the named columns in the order named, `select -a, -b` drops them; keeping a
missing column fails with the list of such names. `rename old=new` relabels columns all at once
and fails with the list of old names not there. Rows and their labels stay.
-/

namespace PipeQuery.Command

open Query

structure Selection where
  keep : List String := []
  drop : List String := []
  deriving Inhabited

namespace Selection

def add (s : Selection) (field : String) : Selection :=
  match afterPrefix? "-" field with
  | some f => { s with drop := s.drop ++ [f] }
  | none => { s with keep := s.keep ++ [field] }

def ofStage (st : Stage) : Selection :=
  st.args.foldl (fun s a =>
    let field? := match a with
      | .positional (.lit v _ _) _ => some (stripQuotes v.word)
      | .positional (.ident n _) _ => some n
      | _ => none
    match field? with
    | some f => if f.isEmpty then s else s.add f
    | none => s) {}

def ofWords (ws : List String) : Selection :=
  ws.foldl (fun s w => s.add (Text.trimBlanks (stripCommas w))) {}

end Selection

def absent (t : Table) (names : List String) : List String :=
  names.filter fun n => !t.has n

def select (s : Selection) (t : Table) : Outcome Table :=
  if t.isEmpty then pure t
  else if !s.drop.isEmpty then
    pure (t.dropWhere fun l => s.drop.any fun d => Value.same l (.str d))
  else if !s.keep.isEmpty then
    let missing := absent t s.keep
    if !missing.isEmpty then throw (Fault.invalid s!"Fields not found: {quotedList missing}")
    else pure (t.project s.keep)
  else pure t

/-- The renamings of a parsed stage: each `key=value`, the value a literal's text, a name or an
expression's printed form; a later key wins. -/
def renamesOfStage (st : Stage) : List (String × String) :=
  st.args.foldl (fun rs a =>
    match a with
    | .keyword k v _ =>
      let new := match v with
        | .lit l _ _ => stripQuotes l.word
        | .ident n _ => n
        | e => e.render
      upsert rs k new
    | _ => rs) []

/-- The renamings of words: `old as new`, or `old=new`. -/
def renamesOfWords (ws : List String) : List (String × String) :=
  let rec go (fuel : Nat) (ws : List String) (rs : List (String × String)) : List (String × String) :=
    match fuel, ws with
    | 0, _ => rs
    | _, [] => rs
    | f + 1, w :: rest =>
      match rest with
      | asw :: new :: rest2 =>
        if Text.lower asw == "as" then go f rest2 (upsert rs (stripCommas w) (stripCommas new))
        else go f rest (word w rs)
      | _ => go f rest (word w rs)
  go ws.length ws []
where
  word (w : String) (rs : List (String × String)) : List (String × String) :=
    let w := stripCommas w
    match w.splitOn "=" with
    | old :: new :: more =>
      upsert rs (Text.trimBlanks old) (stripQuotes (Text.trimBlanks ("=".intercalate (new :: more))))
    | _ => rs

def rename (rs : List (String × String)) (t : Table) : Outcome Table :=
  if t.isEmpty || rs.isEmpty then pure t
  else
    let missing := absent t (rs.map (·.1))
    if !missing.isEmpty then throw (Fault.invalid s!"Columns not found: {quotedList missing}")
    else
      pure { t with columns := t.columns.map fun c =>
        match rs.find? fun (o, _) => c.named o with
        | some (_, n) => c.relabel (.str n)
        | none => c }

end PipeQuery.Command

/-!
## `head`, `tail` and `reverse`

`head n` keeps the first `n` rows with their labels, `tail n` the last `n` labelled afresh (a
negative `n` counting from the other end), `reverse` turns the rows around; the count defaults to
ten.
-/

namespace PipeQuery

namespace Table

/-- The first `n` rows; for negative `n` all but the last `-n`. -/
def head (t : Table) (n : Int) : Table :=
  let k : Nat := if n ≥ 0 then min n.toNat t.rowCount else t.rowCount - n.natAbs
  t.pick (Array.range k)

/-- The last `n` rows; none for `0`; for negative `n` all but the first `-n`. -/
def tail (t : Table) (n : Int) : Table :=
  let size := t.rowCount
  let start : Nat :=
    if n == 0 then size
    else if n > 0 then size - min n.toNat size
    else min n.natAbs size
  t.pick ((Array.range (size - start)).map (· + start))

def reverse (t : Table) : Table :=
  t.pick (Array.range t.rowCount).reverse

end Table

namespace Command

open Query

/-- The count of `head` or `tail` from a parsed stage: each literal argument sets it. -/
def countOfStage (st : Stage) : Outcome Int :=
  st.args.foldlM (fun n a =>
    match a with
    | .positional (.lit v _ _) _ => litToInt v
    | _ => pure n) 10

/-- The count of `head` or `tail` from words: the first word, if it is an integer. -/
def countOfWords (ws : List String) : Int :=
  match ws with
  | w :: _ => (Text.readInt? w).getD 10
  | [] => 10

end Command

/-!
## `sample`: rows drawn at random

`sample 3 seed=42` keeps 3 rows drawn without repetition, in the order drawn; `sample ratio=0.25`
keeps a quarter of them (halves to even). Ten rows by default, also for a count of zero. The rows
are the first of a permutation made by `Twister.shuffle` with a Mersenne Twister started from
the seed (`0` without one).
-/

structure Sampling where
  count : Option Int := none
  ratio : Option Float := none
  seed : Option Int := none
  deriving Inhabited

namespace Sampling

open Query Command

/-- The settings of a parsed stage: a positional literal is the count; `n`, `ratio`, `seed` take
literals. -/
def ofStage (st : Stage) : Outcome Sampling :=
  st.args.foldlM (fun (x : Sampling) (a : Arg) =>
    match a with
    | .positional (.lit v _ _) _ => do pure { x with count := some (← litToInt v) }
    | .keyword "n" (.lit v _ _) _ => do pure { x with count := some (← litToInt v) }
    | .keyword "ratio" (.lit v _ _) _ => do pure { x with ratio := some (← litToFloat v) }
    | .keyword "seed" (.lit v _ _) _ => do pure { x with seed := some (← litToInt v) }
    | _ => pure x) {}

/-- The settings of a command's words: `ratio=`, `seed=`, `n=`, and an integer word as the count. -/
def ofWords (ws : List String) : Outcome Sampling :=
  ws.foldlM (fun (x : Sampling) (w : String) => do
    if let some v := afterPrefix? "ratio=" w then pure { x with ratio := some (← textToFloat v) }
    else if let some v := afterPrefix? "seed=" w then pure { x with seed := some (← textToInt v) }
    else if let some v := afterPrefix? "n=" w then pure { x with count := some (← textToInt v) }
    else
      match Text.readInt? w with
      | some n => pure { x with count := some n }
      | none => pure x) {}

end Sampling

def Sampling.size (x : Sampling) (n : Nat) : Outcome Nat :=
  match x.ratio with
  | some r =>
    let frac := if r > 0.0 then (if r < 1.0 then r else 1.0) else 0.0
    pure (Num.roundHalfEven (frac * Float.ofNat n)).toNat
  | none =>
    let k := match x.count with
      | some 0 | none => 10
      | some k => k
    let k : Int := min k (n : Int)
    if k < 0 then
      throw (Fault.inner .valueError "A negative number of rows requested. Please provide `n` >= 0.")
    else pure k.toNat

namespace Command

def sample (x : Sampling) (t : Table) : Outcome Table := do
  if t.isEmpty then return t
  let seed := x.seed.getD 0
  if seed < 0 || seed > Seen.uint32Max then
    throw (Fault.inner .valueError "Seed must be between 0 and 2**32 - 1")
  let size ← x.size t.rowCount
  let (order, _) := Twister.shuffle (Array.range t.rowCount) (Twister.ofSeed seed.toNat.toUInt32)
  return (t.pick (order.extract 0 size)).resetIndex

end Command

/-!
## `transpose`: rows become columns

`Table.transpose` turns each column into a row of the common type of all columns
(`DType.common`). `transpose` labels the new columns by the row labels, or by the values of
`header_field=h` (dropping `h`), and puts the old labels in a first column `field` unless
`include_header` is off.
-/

namespace Table

/-- Rows and columns swapped: a column per row under the row's label, a row per column labelled by
the column's label. -/
def transpose (t : Table) : Table :=
  let dtype := match t.columns.toList with
    | [] => DType.float64
    | c :: rest => rest.foldl (fun d (c : Column) => DType.common d c.dtype) c.dtype
  let columns := t.index.mapIdx fun i label =>
    { label, dtype, cells := t.columns.map fun c => (c.cell i).storedAs dtype : Column }
  { columns, index := t.columns.map (·.label) }

end Table

/-- What `transpose` does: the column whose values label the new columns, and whether old labels
stay as a column. -/
structure Transposition where
  headerField : String := ""
  includeHeader : Bool := true
  deriving Inhabited

namespace Transposition

open Query Command

def ofStage (st : Stage) : Transposition :=
  st.args.foldl (fun (x : Transposition) (a : Arg) =>
    match a with
    | .keyword "header_field" (.lit v _ _) _ => { x with headerField := v.word }
    | .keyword "include_header" (.lit v _ _) _ => { x with includeHeader := isYes v.word }
    | _ => x) {}

/-- The settings of a command's words; the header column loses its quotes, the switch does not. -/
def ofWords (ws : List String) : Transposition :=
  ws.foldl (fun (x : Transposition) (w : String) =>
    if let some v := afterPrefix? "header_field=" w then { x with headerField := stripQuotes v }
    else if let some v := afterPrefix? "include_header=" w then { x with includeHeader := isYes v }
    else x) {}

end Transposition

namespace Command

def transpose (x : Transposition) (t : Table) : Outcome Table := do
  if t.isEmpty then return t
  let flipped :=
    match t.find? x.headerField with
    | some h =>
      if x.headerField.isEmpty then t.transpose
      else
        let rest : Table := { t with columns := t.columns.filter (!·.named x.headerField) }
        let flipped := rest.transpose
        { flipped with columns := flipped.columns.zipWith (fun (c : Column) label => { c with label }) h.cells }
    | none => t.transpose
  if !x.includeHeader then return flipped.resetIndex
  let name := if flipped.has "index" then "level_0" else "index"
  if flipped.has name then throw (Fault.inner .valueError s!"cannot insert {name}, already exists")
  let labels : Column := { label := .str name, dtype := .object, cells := flipped.index }
  let columns := (#[labels] ++ flipped.columns).map fun c =>
    if c.named "index" then { c with label := .str "field" } else c
  return { columns, index := Table.rangeIndex flipped.rowCount }

end Command

end PipeQuery
