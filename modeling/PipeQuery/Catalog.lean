import PipeQuery.Table.Basic

/-!
# The catalog of stored tables

Queries read tables stored under names and may store their results. Names keep the order they
were first stored in: storing under a present name replaces the table in its place. A catalog
may know the instant it is used at, from which relative time ranges count. A list held in table
cells has an identity (`Value.numberLists`), and a change to it is written into every table
holding it (`Table.shareLists`).
-/

namespace PipeQuery

/-- Gives every list in a value without an identity one of its own, numbering from `next`. -/
def Value.numberLists : Nat → Value → Nat → Value × Nat
  | 0, v, next => (v, next)
  | fuel + 1, v, next =>
    match v with
    | .list items k =>
      let (items, next) := items.foldl (fun (acc : List Value × Nat) x =>
        let (y, n) := Value.numberLists fuel x acc.2
        (acc.1 ++ [y], n)) ([], next)
      if k == 0 then (.list items next, next + 1) else (.list items k, next)
    | v => (v, next)

def Value.shareLists (changes : List (Nat × List Value)) : Nat → Value → Value
  | 0, v => v
  | fuel + 1, v =>
    match v with
    | .list items k =>
      match (if k == 0 then Option.none else changes.find? (·.1 == k)) with
      | some (_, now) => .list now k
      | Option.none => .list (items.map (Value.shareLists changes fuel)) k
    | v => v

def Column.holdsLists (c : Column) : Bool :=
  c.cells.any fun v => v matches .list _ _

def Table.numberLists (t : Table) (next : Nat) : Table × Nat :=
  let (cols, next) := t.columns.foldl (fun (acc : Array Column × Nat) c =>
    if c.holdsLists then
      let (cells, n) := c.cells.foldl (fun (cs : Array Value × Nat) v =>
        let (w, n) := v.numberLists 64 cs.2
        (cs.1.push w, n)) (#[], acc.2)
      (acc.1.push { c with cells }, n)
    else (acc.1.push c, acc.2)) (#[], next)
  ({ t with columns := cols }, next)

/-- A table whose cells hold the lists `changes` names by identity with the items given there. -/
def Table.shareLists (t : Table) (changes : List (Nat × List Value)) : Table :=
  if changes.isEmpty then t
  else
    { t with columns := t.columns.map fun c =>
        if c.holdsLists then { c with cells := c.cells.map (Value.shareLists changes 64) } else c }

/-- Tables stored under names in order of first storing, the current instant when known, the next
list identity. -/
structure Catalog where
  entries : Array (String × Table) := #[]
  now : Option Int := none
  nextList : Nat := 1
  deriving Inhabited

namespace Catalog

def get? (c : Catalog) (name : String) : Option Table :=
  (c.entries.find? (·.1 == name)).map (·.2)

def has (c : Catalog) (name : String) : Bool :=
  c.entries.any (·.1 == name)

def set (c : Catalog) (name : String) (t : Table) : Catalog :=
  match c.entries.findIdx? (·.1 == name) with
  | some i => { c with entries := c.entries.set! i (name, t) }
  | none => { c with entries := c.entries.push (name, t) }

def delete (c : Catalog) (name : String) : Catalog × Bool :=
  if c.has name then ({ c with entries := c.entries.filter (·.1 != name) }, true) else (c, false)

def names (c : Catalog) : List String :=
  c.entries.toList.map (·.1)

def clear (c : Catalog) : Catalog := { c with entries := #[] }

def number (c : Catalog) (t : Table) : Catalog × Table :=
  let (t, next) := t.numberLists c.nextList
  ({ c with nextList := next }, t)

def shareLists (c : Catalog) (changes : List (Nat × List Value)) : Catalog :=
  if changes.isEmpty then c
  else { c with entries := c.entries.map fun (n, t) => (n, t.shareLists changes) }

inductive Request
  | set (name : String) (t : Table)
  | get (name : String)
  | has (name : String)
  | delete (name : String)
  | list
  | clear

inductive Reply
  | done
  | table (t : Option Table)
  | flag (b : Bool)
  | names (ns : List String)

/-- Serves one request: `delete` tells whether the name was there. -/
def serve (c : Catalog) : Request → Catalog × Reply
  | .set name t => (c.set name t, .done)
  | .get name => (c, .table (c.get? name))
  | .has name => (c, .flag (c.has name))
  | .delete name => ((c.delete name).1, .flag (c.delete name).2)
  | .list => (c, .names c.names)
  | .clear => (c.clear, .done)

end Catalog

end PipeQuery
