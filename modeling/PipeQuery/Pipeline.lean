import PipeQuery.Catalog
import PipeQuery.Table.Concat
import PipeQuery.Command.Columns
import PipeQuery.Command.Order
import PipeQuery.Command.Missing
import PipeQuery.Command.Args
import PipeQuery.Command.Filter
import PipeQuery.Command.Derive
import PipeQuery.Command.Aggregate
import PipeQuery.Command.Frequency
import PipeQuery.Command.Extract
import PipeQuery.Command.Substitute
import PipeQuery.Command.Expand
import PipeQuery.Command.Lookup
import PipeQuery.Command.Bucket
import PipeQuery.Command.Search
import PipeQuery.Command.Transaction
import PipeQuery.Query.Parser

/-!
# Running queries

A query runs against the catalog: its source gives the first table, each stage turns a table into
the next. All stages are configured before the first runs, so a badly written stage fails before
any runs. A stage may store its table under a name, which stays stored even when a later stage
fails. Commands are looked up by name in any case (`Kind.ofName?`).
-/

namespace PipeQuery

open Query Command

inductive Kind
  | append | bucket | cache | dedup | dropNull | eval | fillNull | filter | head | join | lookup
  | mvexpand | newCache | rare | rename | replace | reverse | rex | sample | search | select
  | sort | stats | tail | top | transaction | transpose
  deriving DecidableEq, Repr, Inhabited

namespace Kind

def names : List (String × Kind) :=
  [("append", append), ("union", append), ("bucket", bucket), ("bin", bucket), ("cache", cache),
    ("dedup", dedup), ("distinct", dedup), ("unique", dedup),
    ("dropnull", dropNull), ("dropna", dropNull), ("drop_null", dropNull),
    ("eval", eval), ("calculate", eval), ("compute", eval),
    ("fillnull", fillNull), ("fillna", fillNull), ("fill", fillNull),
    ("filter", filter), ("where", filter), ("head", head), ("limit", head), ("join", join),
    ("lookup", lookup), ("mvexpand", mvexpand), ("expand", mvexpand), ("explode", mvexpand),
    ("new_cache", newCache), ("newcache", newCache), ("tocache", newCache), ("rare", rare),
    ("rename", rename), ("replace", replace), ("reverse", reverse),
    ("rex", rex), ("regex", rex), ("extract", rex), ("sample", sample), ("rand", sample),
    ("search", search), ("select", select), ("fields", select), ("table", select),
    ("project", select), ("sort", sort), ("stats", stats), ("eventstats", stats), ("tail", tail),
    ("top", top), ("transaction", transaction), ("transpose", transpose), ("pivot", transpose)]

def ofName? (name : String) : Option Kind :=
  (names.find? (·.1 == Text.lower name)).map (·.2)

def keywords : List String :=
  (names.map (·.1)).mergeSort fun a b => decide (a ≤ b)

end Kind

inductive Step
  | head (count : Int)
  | tail (count : Int)
  | reverse
  | fetch (name : String)
  | store (name : String)
  | select (s : Selection)
  | rename (renames : List (String × String))
  | sort (keys : List (String × Bool))
  | dedup (d : Dedup)
  | dropNull (d : DropNull)
  | fillNull (d : FillNull)
  | filter (expr : String)
  | derive (assignments : List (String × String))
  | stats (req : StatsRequest)
  | frequent (rarest : Bool) (r : Frequency)
  | extract (x : Extraction)
  | replace (rs : List Replacement)
  | expand (x : Expansion)
  | lookup (l : Lookup)
  | join (field : String) (sub : Option Pipeline)
  | append (sub : Option Pipeline)
  | transpose (x : Transposition)
  | bucket (b : Bucketing)
  | search (r : SearchRange)
  | sessions (x : Sessions)
  | sample (x : Sampling)
  deriving Inhabited

/-- The name a `cache` or `new_cache` command reads from its words: the last bare word or `name=`
word. -/
def storeName (ws : List String) : String :=
  ws.foldl (fun n w =>
    match afterPrefix? "name=" w with
    | some v => v
    | none => if w.contains '=' then n else w) ""

namespace Step

def ofStage (k : Kind) (st : Stage) : Outcome Step :=
  let words := st.argWords
  match k with
  | .head => return .head (← countOfStage st)
  | .tail => return .tail (← countOfStage st)
  | .reverse => pure .reverse
  | .cache => pure (.fetch (storeName words))
  | .newCache => pure (.store (storeName words))
  | .select => pure (.select (Selection.ofStage st))
  | .rename => pure (.rename (renamesOfStage st))
  | .sort => pure (.sort (sortKeysOfStage st))
  | .dedup => pure (.dedup (Dedup.ofStage st))
  | .dropNull => return .dropNull (← DropNull.ofStage st)
  | .fillNull => pure (.fillNull (FillNull.ofStage st))
  | .filter => pure (.filter (" ".intercalate (st.args.filterMap fun a =>
      match a with
      | .positional (.lit v _ _) _ => some v.word
      | _ => none)))
  | .eval => pure (.derive (Derive.assignmentsOfStage st))
  | .stats => pure (.stats (StatsRequest.ofStage st))
  | .top => return .frequent false (← Frequency.ofStage st)
  | .rare => return .frequent true (← Frequency.ofStage st)
  | .rex => return .extract (← Extraction.ofStage st)
  | .replace => pure (.replace (Replacement.ofStage st))
  | .mvexpand => return .expand (← Expansion.ofStage st)
  | .lookup => pure (.lookup (Lookup.ofStage st))
  | .join => pure (.join (joinFieldOfStage st) (firstSubquery st))
  | .append => pure (.append (firstSubquery st))
  | .transpose => pure (.transpose (Transposition.ofStage st))
  | .bucket => pure (.bucket (Bucketing.ofStage st))
  | .search => pure (.search (SearchRange.ofStage st))
  | .transaction => pure (.sessions (Sessions.ofStage st))
  | .sample => return .sample (← Sampling.ofStage st)

def ofWords (k : Kind) (ws : List String) : Outcome Step :=
  match k with
  | .head => pure (.head (countOfWords ws))
  | .tail => pure (.tail (countOfWords ws))
  | .reverse => pure .reverse
  | .cache => pure (.fetch (storeName ws))
  | .newCache => pure (.store (storeName ws))
  | .select => pure (.select (Selection.ofWords ws))
  | .rename => pure (.rename (renamesOfWords ws))
  | .sort => pure (.sort (sortKeysOfWords ws))
  | .dedup => pure (.dedup (Dedup.ofWords ws))
  | .dropNull => return .dropNull (← DropNull.ofWords ws)
  | .fillNull => pure (.fillNull (FillNull.ofWords ws))
  | .filter => pure (.filter (" ".intercalate ws))
  | .eval => pure (.derive (Derive.assignmentsOfWords ws))
  | .stats => pure (.stats (StatsRequest.ofWords ws))
  | .top => return .frequent false (← Frequency.ofWords ws)
  | .rare => return .frequent true (← Frequency.ofWords ws)
  | .rex => return .extract (← Extraction.ofWords ws)
  | .replace => pure (.replace (Replacement.ofWords ws))
  | .mvexpand => return .expand (← Expansion.ofWords ws)
  | .lookup => pure (.lookup (Lookup.ofWords ws))
  | .join => pure (.join (ws.headD "") none)
  | .append => pure (.append none)
  | .transpose => pure (.transpose (Transposition.ofWords ws))
  | .bucket => pure (.bucket (Bucketing.ofWords ws))
  | .search => pure (.search (SearchRange.ofWords ws))
  | .transaction => pure (.sessions (Sessions.ofWords ws))
  | .sample => return .sample (← Sampling.ofWords ws)

end Step

/-- A computation reading and writing the catalog that may fail; what it wrote stays on failure. -/
abbrev Run := ExceptT Fault (StateM Catalog)

def Run.lift {α : Type} (x : Outcome α) : Run α :=
  match x with
  | .ok a => pure a
  | .error e => throw e

def prepare (stages : List Stage) : Outcome (List Step) :=
  stages.mapM fun st =>
    match Kind.ofName? st.name with
    | some k => Step.ofStage k st
    | none => throw (Fault.invalid s!"Unknown command: {st.name}")

/-- The table a subquery's source names: stored tables only, each source kind with its own message.
-/
def readSubquerySource (cat : Catalog) : Source → Outcome Table
  | .one r =>
    if r.kind == "cache" || r.kind == "search" || r.kind == "default" then
      (cat.get? r.name).elim (throw (Fault.invalid s!"Source not found: {r.name}")) pure
    else throw (Fault.invalid s!"Unknown source type: {r.kind}")
  | .union _ _ => throw (Fault.invalid "Unknown source type: multi")

def Step.apply (s : Step) (t : Table) : Run Table :=
  match s with
  | .head n => pure (t.head n)
  | .tail n => pure (t.tail n).resetIndex
  | .reverse => pure (if t.isEmpty then t else t.reverse.resetIndex)
  | .fetch name => do
    if name.isEmpty then return t
    match (← get).get? name with
    | some u => pure u
    | none => throw (Fault.invalid s!"Cache key not found: {name}")
  | .store name => do
    if !name.isEmpty then modify (·.set name t)
    pure t
  | .select sel => Run.lift (Command.select sel t)
  | .rename rs => Run.lift (Command.rename rs t)
  | .sort keys => Run.lift (Command.sort keys t)
  | .dedup d => Run.lift (Command.dedup d t)
  | .dropNull d => Run.lift (Command.dropNull d t)
  | .fillNull d => Run.lift (Command.fillNull d t)
  | .filter expr => Run.lift (Command.filter expr t)
  | .derive assignments => do
    let (res, lists) := Command.derive assignments t
    modify (·.shareLists lists)
    Run.lift res
  | .stats req => Run.lift (Command.stats req t)
  | .frequent rarest r => Run.lift (Command.frequent rarest r t)
  | .extract x => Run.lift (Command.extract x t)
  | .replace rs => Run.lift (Command.replace rs t)
  | .expand x => Run.lift (Command.expand x t)
  | .lookup l => do Run.lift (Command.lookup l (← get).get? t)
  | .transpose x => Run.lift (Command.transpose x t)
  | .bucket b => Run.lift (Command.bucket b t)
  | .search r => do
    let cat ← get
    Run.lift (Command.search r cat.get? cat.now t)
  | .sessions x => Run.lift (Command.sessions x t)
  | .sample x => Run.lift (Command.sample x t)
  | .join _ _ | .append _ =>
    throw (Fault.inner .recursionError "maximum recursion depth exceeded")

/-- A table as a stage is given it, with the catalog names holding that very table. -/
structure Held where
  table : Table
  holders : List String := []

/-- The table with each list in its cells given an identity from the catalog's count, so formulas
find it again. -/
def numbered (t : Table) : Run Table := do
  let (cat, t) := (← get).number t
  set cat
  pure t

/-- Runs a command without subquery on a held table; a condition's change to its table goes to every
holder, even on failure. -/
def Step.applyHeld (s : Step) (h : Held) : Run Held :=
  match s with
  | .filter expr => do
    let (res, t) := Command.filterInPlace expr h.table
    for name in h.holders do modify (·.set name t)
    let u ← Run.lift res
    if h.table.isEmpty || expr.isEmpty then return { table := u, holders := h.holders }
    return { table := u }
  | .fetch name => do
    let u ← s.apply h.table
    return { table := u, holders := if name.isEmpty then h.holders else [name] }
  | .store name => do
    let u ← s.apply h.table
    return { table := u, holders := if name.isEmpty then h.holders else h.holders ++ [name] }
  | s => do return { table := ← numbered (← s.apply h.table) }

/-- Runs a query: `read` gives the source table, then `step` runs the commands in turn on it. -/
def Query.runWith (read : Catalog → Source → Outcome Table) (step : Step → Held → Run Held)
    (q : Pipeline) : Run Table := do
  let t ← Run.lift (read (← get) q.source)
  let steps ← Run.lift (prepare q.stages)
  let holders := match q.source with
    | .one r => [r.name]
    | .union _ _ => []
  return (← steps.foldlM (fun u s => step s u) { table := t, holders }).table

/-- Runs one command on a held table; `fuel` bounds the depth of subqueries. -/
def Step.run : Nat → Step → Held → Run Held
  | 0, s, h => s.applyHeld h
  | fuel + 1, s, h =>
    match s with
    | .join field sub => do
      if h.table.isEmpty then return { table := h.table }
      if field.isEmpty then throw (Fault.invalid "Join field not specified")
      let some q := sub | throw (Fault.invalid "No subquery specified for join")
      let right ← Query.runWith readSubquerySource (Step.run fuel) q
      return { table := ← Run.lift (Command.joinWith field h.table right) }
    | .append sub => do
      let some q := sub | return h
      return { table := Command.appendWith h.table (← Query.runWith readSubquerySource (Step.run fuel) q) }
    | s => s.applyHeld h

def Query.runSubquery (fuel : Nat) (q : Pipeline) : Run Table :=
  Query.runWith readSubquerySource (Step.run fuel) q

/-- The table a command was given, as the command leaves it, even when the command then fails. -/
def Step.leaves (s : Step) (t : Table) : Table :=
  match s with
  | .filter expr => (Command.filterInPlace expr t).2
  | .derive assignments => t.shareLists (Command.derive assignments t).2
  | _ => t

def readRef (cat : Catalog) (r : SourceRef) : Outcome Table :=
  let stored := cat.get? r.name
  match r.kind with
  | "cache" => stored.elim (throw (Fault.invalid s!"Cache not found: {r.name}")) pure
  | "search" | "index" => stored.elim (throw (Fault.invalid s!"Index not found: {r.name}")) pure
  | "default" => stored.elim (throw (Fault.invalid s!"Source not found: {r.name}")) pure
  | k => throw (Fault.invalid s!"Unknown source type: {k}")

/-- The table of a source, for the main query: a union stacks its parts. -/
def readSource (cat : Catalog) : Source → Outcome Table
  | .one r => readRef cat r
  | .union parts _ => do
    let ts ← parts.mapM fun r =>
      if r.kind == "cache" || r.kind == "search" || r.kind == "index" then
        (cat.get? r.name).elim (throw (Fault.invalid s!"Source not found: {r.name}")) pure
      else throw (Fault.invalid s!"Unknown source type in multi-source: {r.kind}")
    pure (Table.stack ts)

def Query.run (fuel : Nat) (q : Pipeline) : Run Table :=
  Query.runWith readSource (Step.run fuel) q

def runText (text : String) : Run Table := do
  match Query.parse text with
  | .ok q => Query.run (text.length + 1) q
  | .error e =>
    match e with
    | .number _ => throw (Fault.invalid e.message)
    | .tooDeep => throw (Fault.inner .recursionError e.message)
    | _ => throw (Fault.raised .parserError e.message)

/-- Configures a command from a line, as the word interface does. -/
def Step.ofLine (line : String) : Outcome (List String × Step) := do
  let (name, rest) := splitLine line
  match Kind.ofName? name with
  | some k =>
    let words := if rest.isEmpty then [] else splitWords rest
    return (words, ← Step.ofWords k words)
  | none => throw (Fault.invalid s!"Unknown command: {name}")

end PipeQuery
