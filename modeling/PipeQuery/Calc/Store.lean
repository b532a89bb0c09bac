import PipeQuery.Calc.Hash

/-!
# Calculations: the store of objects

Lists, dictionaries, sets and generators may change in place, so a formula's objects live in a
store and `.ref n` stands for object `n`: two references see the same changes. Objects that are
the same each time the formula reaches them (constants, columns, library members, the lists in
table cells) are found again by their `Origin`. Names live in frames chained to the ones around
them; a `lambda` keeps the chain it was made in. `Scope.resolve` gives the plain datum an object
stands for.
-/

namespace PipeQuery.Calc

/-- Where a found-again object came from: a constant, column, cell object, library member or cell
list. -/
inductive Origin
  | constant (key : String)
  | column (name : String)
  | cell (column : String) (row : Nat)
  | member (path : String)
  | list (ident : Nat)
  deriving DecidableEq

/-- An object of the store: a datum kept whole, or a set as its table. -/
inductive Obj
  | value (d : Datum)
  | set (t : SetTable)
  deriving Inhabited

/-- A frame of names bound by a call of a `lambda` or by a comprehension. -/
structure Frame where
  vars : List (String × Datum) := []
  comprehension : Bool := false
  yields : Array Datum := #[]
  deriving Inhabited

/-- A formula's state while computed: top-level names, frames, objects, and objects found again by
origin. -/
structure Scope where
  globals : List (String × Datum) := []
  frames : Array Frame := #[]
  chain : List Nat := []
  objects : Array Obj := #[]
  origins : List (Origin × Nat) := []
  deriving Inhabited

/-- A formula computation: it may fail, change the store and bind names; changes before a failure
stay. -/
abbrev Compute := ExceptT Fault (StateM Scope)

/-- Whether the language keeps a value once, so equal ones are one object. -/
def keptOnce : Datum → Bool
  | .scalar .none | .scalar (.bool _) | .scalar (.other "ellipsis" _) => true
  | .scalar (.int n) => -5 ≤ n && n ≤ 256
  | .scalar (.str s) => s.length == 0 || (s.length == 1 && s.toList.all (·.toNat < 256))
  | .seq false [] => true
  | _ => false

namespace Scope

def obj (s : Scope) (id : Nat) : Obj :=
  s.objects.getD id (.value (.scalar .none))

def origin? (s : Scope) (o : Origin) : Option Nat :=
  (s.origins.find? (·.1 == o)).map (·.2)

def holdsCellLists (s : Scope) : Bool :=
  s.origins.any fun (o, _) => o matches .list _

mutual

/-- The plain datum a datum stands for, references replaced by objects; one met inside itself is
`[...]` or `{...}`. -/
def resolve (s : Scope) : Nat → List Nat → Datum → Datum
  | 0, _, d => d
  | fuel + 1, path, d =>
    let r := resolve s fuel path
    match d with
    | .ref id =>
      if path.contains id then
        match s.obj id with
        | .value (.mapping _) | .set _ => .scalar (.other "dict" "{...}")
        | _ => .scalar (.other "list" "[...]")
      else
        match s.obj id with
        | .value x => resolve s fuel (id :: path) x
        | .set t => .setOf (t.members.map (resolve s fuel (id :: path)))
    | .seq k items => .seq k (items.map r)
    | .mapping es => .mapping (es.map fun (k, v) => (r k, r v))
    | .setOf items => .setOf (items.map r)
    | .generator items => .generator (items.map r)
    | .bound owner name => .bound (r owner) name
    | .scalar (.list items k) =>
      if k == 0 then d
      else
        match s.origin? (.list k) with
        | some id => r (.ref id)
        | none => .scalar (.list (items.map (patchValue s fuel path)) k)
    | .column c =>
      if s.holdsCellLists then .column { c with cells := c.cells.map (patchValue s fuel path) } else d
    | .series c ls =>
      if s.holdsCellLists then .series { c with cells := c.cells.map (patchValue s fuel path) } ls
      else d
    | d => d

/-- A cell's value with its lists replaced by their objects' current items, keeping their identity.
-/
def patchValue (s : Scope) : Nat → List Nat → Value → Value
  | 0, _, v => v
  | fuel + 1, path, v =>
    match v with
    | .list items k =>
      match (if k == 0 then none else s.origin? (.list k)) with
      | some id =>
        if path.contains id then v
        else
          match s.obj id with
          | .value (.seq _ xs) => .list (xs.map (cellOf s fuel (id :: path))) k
          | _ => v
      | none => .list (items.map (patchValue s fuel path)) k
    | v => v

/-- A datum as a table cell: lists held in cells keep their identity, other lists take none. -/
def cellOf (s : Scope) : Nat → List Nat → Datum → Value
  | 0, _, _ => .none
  | fuel + 1, path, d =>
    match d with
    | .ref id =>
      if path.contains id then .other "list" "[...]"
      else
        let ident := (s.origins.find? fun (o, n) => n == id && o matches .list _).bind fun (o, _) =>
          match o with
          | .list k => some k
          | _ => none
        match s.obj id, ident with
        | .value (.seq true xs), some k => .list (xs.map (cellOf s fuel (id :: path))) k
        | .value x, _ => cellOf s fuel (id :: path) x
        | .set t, _ => (Datum.setOf (t.members.map (resolve s fuel (id :: path)))).toCell #[] 8
    | .scalar v => patchValue s fuel path v
    | .seq true xs => .list (xs.map (cellOf s fuel path)) 0
    | d => (resolve s fuel path d).toCell #[] 8

end

def plain (s : Scope) (d : Datum) : Datum :=
  s.resolve 64 [] d

def listChanges (s : Scope) : List (Nat × List Value) :=
  s.origins.filterMap fun (o, id) =>
    match o, s.obj id with
    | .list k, .value (.seq _ xs) => some (k, xs.map (s.cellOf 64 [id]))
    | _, _ => none

def columnChanges (s : Scope) : List (String × Column) :=
  s.origins.filterMap fun (o, id) =>
    match o, s.resolve 64 [] (.ref id) with
    | .column n, .column c => some (n, c)
    | _, _ => none

end Scope

def alloc (o : Obj) : Compute Datum := do
  let s ← get
  set { s with objects := s.objects.push o }
  return .ref s.objects.size

def store (id : Nat) (o : Obj) : Compute Unit :=
  modify fun s => { s with objects := s.objects.set! id o }

/-- The object from `o`: the one reached before, or `make`'s, now recorded. -/
def intern (o : Origin) (make : Compute Obj) : Compute Datum := do
  match (← get).origin? o with
  | some id => return .ref id
  | none =>
    let d ← alloc (← make)
    if let .ref id := d then modify fun s => { s with origins := s.origins ++ [(o, id)] }
    return d

def resolved (d : Datum) : Compute Datum := do
  return (← get).plain d

/-- A value taken out of a cell or container as the object it is: a list held in cells is found
again by its identity. -/
def adopt (d : Datum) : Compute Datum := do
  match d with
  | .scalar (.list items k) =>
    let content : Obj := .value (.seq true (items.map .scalar))
    if k == 0 then alloc content else intern (.list k) (pure content)
  | d => pure d

/-- A datum to keep: as it is when a reference or kept once, the object of a cell list, else a new
object. -/
def box (d : Datum) : Compute Datum := do
  match d with
  | .ref _ | .function _ | .library _ => return d
  | .scalar (.list _ _) => adopt d
  | d => if keptOnce d then return d else alloc (.value d)

/-- The datum an object holds, sets as their members in slot order. -/
def shallow (d : Datum) : Compute Datum := do
  match d with
  | .ref id =>
    match (← get).obj id with
    | .value x => return x
    | .set t => return .setOf t.members
  | d => return d

/-- Starts a frame and puts it first in the chain; gives the chain it replaced. -/
def enterFrame (f : Frame) : Compute (List Nat) := do
  let s ← get
  set { s with frames := s.frames.push f, chain := s.frames.size :: s.chain }
  return s.chain

def leaveFrame (chain : List Nat) : Compute Unit :=
  modify fun s => { s with chain }

/-- Records a yielded value in the innermost frame not a comprehension's: the generator `lambda`'s.
-/
def yieldHere (d : Datum) : Compute Unit :=
  modify fun s =>
    match s.chain.find? fun f => !(s.frames.getD f {}).comprehension with
    | some f =>
      let fr := s.frames.getD f {}
      { s with frames := s.frames.set! f { fr with yields := fr.yields.push d } }
    | none => s

def bindHere (name : String) (d : Datum) : Compute Unit :=
  modify fun s =>
    match s.chain with
    | f :: _ =>
      let fr := s.frames.getD f {}
      { s with frames := s.frames.set! f { fr with vars := (name, d) :: fr.vars.filter (·.1 != name) } }
    | [] => { s with globals := (name, d) :: s.globals.filter (·.1 != name) }

/-- Binds a name with `:=` in the innermost frame not a comprehension's, or among the formula's
names. -/
def bindAssigned (name : String) (d : Datum) : Compute Unit :=
  modify fun s =>
    match s.chain.find? fun f => !(s.frames.getD f {}).comprehension with
    | some f =>
      let fr := s.frames.getD f {}
      { s with frames := s.frames.set! f { fr with vars := (name, d) :: fr.vars.filter (·.1 != name) } }
    | none => { s with globals := (name, d) :: s.globals.filter (·.1 != name) }

def boundName? (name : String) : Compute (Option Datum) := do
  let s ← get
  match s.chain.findSome? fun f => ((s.frames.getD f {}).vars.find? (·.1 == name)).map (·.2) with
  | some d => return some d
  | none => return (s.globals.find? (·.1 == name)).map (·.2)

end PipeQuery.Calc
