import PipeQuery.Table.Basic

/-!
# Ordering rows

Rows are ordered by keys, each a column and a direction; missing values go last under every key.
Under several keys the order is stable; under one key it is a quicksort, which may swap equal rows
among more than sixteen. A column mixing numbers and texts has no order of its own: ordering by it
alone fails, grouping puts numbers first.
-/

namespace PipeQuery

/-- The rank of a present value's kind among mixed kinds: numbers, texts, then the rest, lists
apart. -/
def Value.kindRank : Value → Nat
  | .bool _ | .int _ | .float _ => 0
  | .str _ => 1
  | .time _ | .zoned _ _ => 2
  | .span _ => 3
  | .list _ _ => 5
  | _ => 4

def Value.sortOrder (a b : Value) : Ordering :=
  if a.kindRank != b.kindRank then compare a.kindRank b.kindRank
  else
    match a.num?, b.num? with
    | some x, some y => (Num.compare? x y).getD .eq
    | _, _ => (Value.order? a b).getD .eq

/-- The order of two cells under a key: missing values last in either direction. -/
def cellOrder (ascending : Bool) (a b : Value) : Ordering :=
  match a.isMissing, b.isMissing with
  | true, true => .eq
  | true, false => .gt
  | false, true => .lt
  | false, false => if ascending then a.sortOrder b else b.sortOrder a

def rowOrder (keys : List (Column × Bool)) (i j : Nat) : Ordering :=
  match keys with
  | [] => .eq
  | (c, asc) :: rest =>
    match cellOrder asc (c.cell i) (c.cell j) with
    | .eq => rowOrder rest i j
    | o => o

/-- Whether the present cells of a column all have one kind, so that they have an order. -/
def Column.orderable (c : Column) : Bool :=
  let kinds := (c.cells.filter (!·.isMissing)).map Value.kindRank
  match kinds[0]? with
  | some k => kinds.all (· == k) && k != 4
  | none => true

def Column.disorder (c : Column) : Fault :=
  let present := c.cells.filter (!·.isMissing)
  let a := present.getD 0 .none
  let b := (present.find? (·.kindRank != a.kindRank)).getD a
  Value.unordered .lt b a

/-! ## Ordering by one key

An unstable quicksort: ranges over sixteen are split around a median of three, scanning from both
ends and stopping at entries equal to the split value; short ranges are finished by insertion, and
a range split too often by heapsort. Equal values end up in an order that depends on where they
stand. -/

def halvings : Nat → Nat
  | 0 | 1 => 0
  | n + 2 => halvings ((n + 2) / 2) + 1

/-- Swaps the entries at `i` and `j` when `lt` puts the one at `i` after the one at `j`. -/
def swapIfBelow (lt : Nat → Nat → Bool) (a : Array Nat) (i j : Nat) : Array Nat :=
  if lt (a.getD i 0) (a.getD j 0) then a.swapIfInBounds i j else a

/-- Scans up from `i`: the first later position whose entry is not below `pivot`, or `j`. -/
def scanUp (lt : Nat → Nat → Bool) (a : Array Nat) (pivot j : Nat) : Nat → Nat → Nat
  | 0, i => i
  | fuel + 1, i =>
    if lt (a.getD (i + 1) 0) pivot && i + 1 < j then scanUp lt a pivot j fuel (i + 1) else i + 1

/-- Scans down from `j`: the first earlier position whose entry is not above `pivot`, or `i`. -/
def scanDown (lt : Nat → Nat → Bool) (a : Array Nat) (pivot i : Nat) : Nat → Nat → Nat
  | 0, j => j
  | fuel + 1, j =>
    if lt pivot (a.getD (j - 1) 0) && i < j - 1 then scanDown lt a pivot i fuel (j - 1) else j - 1

/-- Swaps entries from both ends inward until the scans meet: the entries and where the upward scan
stopped. -/
def exchange (lt : Nat → Nat → Bool) (pivot : Nat) : Nat → Array Nat → Nat → Nat → Array Nat × Nat
  | 0, a, i, _ => (a, i)
  | fuel + 1, a, i, j =>
    let i := scanUp lt a pivot j (j - i) i
    let j := scanDown lt a pivot i (j - i) j
    if i ≥ j then (a, i) else exchange lt pivot fuel (a.swapIfInBounds i j) i j

/-- Splits `lo … hi` around the median of three: the entries and the split's position. -/
def splitRange (lt : Nat → Nat → Bool) (a : Array Nat) (lo hi : Nat) : Array Nat × Nat :=
  let mid := lo + (hi - lo) / 2
  let a := swapIfBelow lt a mid lo
  let a := swapIfBelow lt a hi mid
  let a := swapIfBelow lt a mid lo
  let pivot := a.getD mid 0
  let a := a.swapIfInBounds mid (hi - 1)
  let (a, i) := exchange lt pivot (hi - lo) a lo (hi - 1)
  (a.swapIfInBounds i (hi - 1), i)

def insertDown (lt : Nat → Nat → Bool) (lo v : Nat) : Nat → Array Nat → Nat → Array Nat
  | 0, a, j => a.set! j v
  | fuel + 1, a, j =>
    if j > lo && lt v (a.getD (j - 1) 0) then insertDown lt lo v fuel (a.set! j (a.getD (j - 1) 0)) (j - 1)
    else a.set! j v

def insertionRange (lt : Nat → Nat → Bool) (a : Array Nat) (lo count : Nat) : Array Nat :=
  (List.range' (lo + 1) (count - 1)).foldl (fun a i => insertDown lt lo (a.getD i 0) (i - lo) a i) a

/-- Sifts `v` down a heap in the `n` entries from `lo` (counted from one), from place `i`, first
child `j`. -/
def siftDown (lt : Nat → Nat → Bool) (lo n v : Nat) : Nat → Array Nat → Nat → Nat → Array Nat
  | 0, a, i, _ => a.set! (lo + i - 1) v
  | fuel + 1, a, i, j =>
    let entry (k : Nat) := a.getD (lo + k - 1) 0
    if j ≤ n then
      let j := if j < n && lt (entry j) (entry (j + 1)) then j + 1 else j
      if lt v (entry j) then siftDown lt lo n v fuel (a.set! (lo + i - 1) (entry j)) j (j + j)
      else a.set! (lo + i - 1) v
    else a.set! (lo + i - 1) v

def heapRange (lt : Nat → Nat → Bool) (a : Array Nat) (lo count : Nat) : Array Nat :=
  let entry (a : Array Nat) (k : Nat) := a.getD (lo + k - 1) 0
  let built := (List.range (count / 2)).foldl (fun a k =>
    let l := count / 2 - k
    siftDown lt lo count (entry a l) count a l (2 * l)) a
  (List.range (count - 1)).foldl (fun a k =>
    let n := count - k
    let v := entry a n
    let a := a.set! (lo + n - 1) (entry a 1)
    siftDown lt lo (n - 1) v count a 1 2) built

/-- Orders the `count` entries from `lo`; `depth` bounds the splits before heapsort. -/
def quickRange (lt : Nat → Nat → Bool) : Nat → Array Nat → Nat → Nat → Int → Bool → Array Nat
  | 0, a, _, _, _, _ => a
  | fuel + 1, a, lo, count, depth, checked =>
    if checked && depth < 0 then heapRange lt a lo count
    else if count > 16 then
      let hi := lo + count - 1
      let (a, i) := splitRange lt a lo hi
      let below := (lo, i - lo)
      let above := (i + 1, hi - i)
      let (first, second) := if i - lo < hi - i then (below, above) else (above, below)
      let a := quickRange lt fuel a first.1 first.2 (depth - 1) false
      quickRange lt fuel a second.1 second.2 (depth - 1) true
    else insertionRange lt a lo count

def quickOrder (lt : Nat → Nat → Bool) (rows : Array Nat) : Array Nat :=
  quickRange lt (rows.size + 1) rows 0 rows.size (2 * (halvings rows.size : Int)) true

/-- The rows ordered by one column, rows without a value last in their order. -/
def orderByKey (c : Column) (ascending : Bool) (rows : Array Nat) : Array Nat :=
  let present := rows.filter fun i => !(c.cell i).isMissing
  let missing := rows.filter fun i => (c.cell i).isMissing
  let lt (i j : Nat) : Bool := (c.cell i).sortOrder (c.cell j) == .lt
  let sorted := quickOrder lt (if ascending then present else present.reverse)
  (if ascending then sorted else sorted.reverse) ++ missing

/-- The positions `0 … n-1` ordered by the keys; with `strict`, a key with no common order fails. -/
def sortRows (strict : Bool) (n : Nat) (keys : List (Column × Bool)) : Outcome (Array Nat) := do
  match keys with
  | [(c, asc)] =>
    if strict && !c.orderable then throw c.disorder
    pure (orderByKey c asc (Array.range n))
  | _ =>
    if keys.any fun (c, _) => c.cells.any (· matches .list _ _) then
      throw (Fault.inner .typeError "unhashable type: 'list'")
    let rows := (List.range n).mergeSort fun i j => rowOrder keys i j != .gt
    pure rows.toArray

namespace Table

def sortBy (t : Table) (keys : List (String × Bool)) : Outcome Table := do
  let cols := keys.filterMap fun (k, asc) => (t.find? k).map (·, asc)
  let rows ← sortRows true t.rowCount cols
  pure (t.pick rows)

end Table

/-- The groups of rows with equal keys, in key order, each with its positions; a row with a missing
key is in none. -/
def groupRows (n : Nat) (keys : List Column) : List (List Value × List Nat) :=
  let present := (List.range n).filter fun i => keys.all fun c => !(c.cell i).isMissing
  let sorted := present.mergeSort fun i j => rowOrder (keys.map (·, true)) i j != .gt
  let key (i : Nat) := keys.map (·.cell i)
  let rec gather : List Nat → List (List Value × List Nat) → List (List Value × List Nat)
    | [], acc => acc.reverse.map fun (k, rs) => (k, rs.reverse)
    | i :: rest, (k, rs) :: acc =>
      if rowOrder (keys.map (·, true)) i (rs.headD i) == .eq then gather rest ((k, i :: rs) :: acc)
      else gather rest ((key i, [i]) :: (k, rs) :: acc)
    | i :: rest, [] => gather rest [(key i, [i])]
  let groups := gather sorted []
  groups.map fun (k, rs) => (k, rs.mergeSort (· ≤ ·))

end PipeQuery
