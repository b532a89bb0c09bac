import PipeQuery.Proofs.Commands
import Mathlib

/-!
# A union of sources and a chain of appends

A union `(cache=a OR cache=b OR …)` stacks its tables at once (`Table.stack`); a chain
`cache=a | append [cache=b] | …` puts each table under the result so far (`Command.appendWith`).
For tables with rows and columns, whatever their columns, both answer with every table's labels,
each once in the order first met, and rows labelled `0, 1, …` (`union_append_chain_aligned`): the
labels of a stack are fresh, so stacking it again adds only the new ones (`aligned_append`). For
tables of one `Schema` both give `Schema.stacked` (`union_append_chain_stack`), since a stack of a
stack is one stack (`stacked_stacked`). Appending to an empty table loses its columns, which the
union keeps (`append_chain_drops_empty_table`).
-/

namespace PipeQuery

/-- Column names with their element types, the names distinct. -/
structure Schema where
  columns : List (String × DType)
  names_nodup : (columns.map Prod.fst).Nodup

namespace Schema

def labels (S : Schema) : List Value := S.columns.map fun c => .str c.1

/-- The cells the tables hold under a label, one table after the other. -/
def cellsUnder (ts : List Table) (l : Value) : Array Value :=
  (ts.map fun t => (t.columnOr l).cells).foldl (· ++ ·) #[]

/-- The tables one under another over the schema's columns, rows labelled `0, 1, …`. -/
def stacked (S : Schema) (ts : List Table) : Table where
  columns := (S.columns.map fun c =>
    ({ label := .str c.1, dtype := c.2, cells := cellsUnder ts (.str c.1) } : Column)).toArray
  index := Table.rangeIndex (ts.map Table.rowCount).sum

end Schema

/-- The table's columns are, in order, those of the schema: same labels, same element types. -/
def Table.HasSchema (t : Table) (S : Schema) : Prop :=
  t.columns.toList.map (fun c => (c.label, c.dtype)) = S.columns.map fun c => (Value.str c.1, c.2)

theorem Value.same_str (a b : String) : Value.same (.str a) (.str b) = (a == b) := by
  simp [Value.same]

/-! ### The labels of a stack -/

section Labels

variable {S : Schema}

/-- One step of `Table.unionLabels`: a label not met yet goes at the end. -/
def addLabel (acc : List Value) (l : Value) : List Value :=
  if acc.any (Value.same l) then acc else acc ++ [l]

theorem unionLabels_eq_foldl (ts : List Table) :
    Table.unionLabels ts = ts.foldl (fun acc t => t.labels.foldl addLabel acc) [] := rfl

theorem foldl_addLabel_known (L acc : List Value) (h : ∀ l ∈ L, acc.any (Value.same l) = true) :
    L.foldl addLabel acc = acc := by
  induction L with
  | nil => rfl
  | cons l L ih =>
    rw [List.foldl_cons, addLabel, if_pos (h l (by simp))]
    exact ih fun l' hl' => h l' (List.mem_cons_of_mem l hl')

theorem foldl_addLabel_fresh (names : List String) (hnd : names.Nodup) (acc : List Value)
    (h : ∀ n ∈ names, acc.any (Value.same (.str n)) = false) :
    (names.map Value.str).foldl addLabel acc = acc ++ names.map Value.str := by
  induction names generalizing acc with
  | nil => simp
  | cons n names ih =>
    obtain ⟨hn, hnd⟩ := List.nodup_cons.1 hnd
    rw [List.map_cons, List.foldl_cons, addLabel, if_neg (by simp [h n (by simp)])]
    have hfresh : ∀ m ∈ names, (acc ++ [Value.str n]).any (Value.same (.str m)) = false := by
      intro m hm
      have hmn : m ≠ n := fun e => hn (e ▸ hm)
      simp [h m (List.mem_cons_of_mem n hm), Value.same_str, hmn]
    rw [ih hnd _ hfresh, List.append_assoc, List.singleton_append]

theorem same_refl_of_mem_labels {l : Value} (hl : l ∈ S.labels) :
    S.labels.any (Value.same l) = true := by
  obtain ⟨c, _, rfl⟩ := List.mem_map.1 hl
  exact List.any_eq_true.2 ⟨_, hl, by simp [Value.same_str]⟩

theorem labels_of_hasSchema {t : Table} (h : t.HasSchema S) : t.labels.toList = S.labels := by
  have := congrArg (List.map Prod.fst) h
  simpa [Table.labels, Schema.labels, Function.comp_def] using this

/-- Tables of one schema stack over the schema's labels. -/
theorem unionLabels_of_hasSchema {ts : List Table} (hne : ts ≠ [])
    (h : ∀ t ∈ ts, t.HasSchema S) : Table.unionLabels ts = S.labels := by
  obtain ⟨t, rest, rfl⟩ := List.exists_cons_of_ne_nil hne
  have hfirst : t.labels.foldl addLabel [] = S.labels := by
    have hmap : S.labels = (S.columns.map Prod.fst).map Value.str := by simp [Schema.labels]
    rw [← Array.foldl_toList, labels_of_hasSchema (h t (by simp)), hmap,
      foldl_addLabel_fresh _ S.names_nodup [] (by simp), List.nil_append]
  have hrest : ∀ u ∈ rest, u.labels.foldl addLabel S.labels = S.labels := by
    intro u hu
    rw [← Array.foldl_toList, labels_of_hasSchema (h u (List.mem_cons_of_mem t hu))]
    exact foldl_addLabel_known _ _ fun l hl => same_refl_of_mem_labels hl
  rw [unionLabels_eq_foldl, List.foldl_cons, hfirst]
  clear hfirst h hne
  induction rest with
  | nil => rfl
  | cons u rest ih =>
    rw [List.foldl_cons, hrest u (by simp)]
    exact ih fun u' hu' => hrest u' (List.mem_cons_of_mem u hu')

/-- No label is the same as one before it, as `addLabel` leaves a list. -/
def FreshLabels (L : List Value) : Prop :=
  L.Pairwise fun a b => Value.same b a = false

theorem freshLabels_foldl_addLabel (L : List Value) {acc : List Value} (h : FreshLabels acc) :
    FreshLabels (L.foldl addLabel acc) := by
  induction L generalizing acc with
  | nil => exact h
  | cons l L ih =>
    rw [List.foldl_cons]
    apply ih
    unfold addLabel
    split
    · exact h
    · rename_i hl
      refine List.pairwise_append.2 ⟨h, List.pairwise_singleton _ _, fun a ha b hb => ?_⟩
      rw [List.mem_singleton.1 hb]
      simpa using List.any_eq_false.1 (by simpa using hl) a ha

theorem freshLabels_unionLabels (ts : List Table) : FreshLabels (Table.unionLabels ts) := by
  rw [unionLabels_eq_foldl]
  generalize hacc : ([] : List Value) = acc
  have h : FreshLabels acc := hacc ▸ List.Pairwise.nil
  clear hacc
  induction ts generalizing acc with
  | nil => exact h
  | cons t ts ih =>
    rw [List.foldl_cons, ← Array.foldl_toList]
    exact ih _ (freshLabels_foldl_addLabel _ h)

/-- Fresh labels folded in again are each put at the end. -/
theorem foldl_addLabel_of_fresh {acc L : List Value} (h : FreshLabels (acc ++ L)) :
    L.foldl addLabel acc = acc ++ L := by
  induction L generalizing acc with
  | nil => simp
  | cons l L ih =>
    have hl : acc.any (Value.same l) = false :=
      List.any_eq_false.2 fun a ha => by
        simpa using (List.pairwise_append.1 h).2.2 a ha l (by simp)
    rw [List.foldl_cons, addLabel, if_neg (by simp [hl]),
      ih (by rwa [List.append_assoc, List.singleton_append])]
    simp

theorem foldl_addLabel_ne_nil (L : List Value) {acc : List Value} (h : acc ≠ []) :
    L.foldl addLabel acc ≠ [] := by
  induction L generalizing acc with
  | nil => exact h
  | cons l L ih =>
    rw [List.foldl_cons]
    apply ih
    unfold addLabel
    split
    · exact h
    · simp

end Labels

/-! ### The columns of a stack -/

section Columns

variable {S : Schema}

theorem find?_name_of_mem {cs : List (String × DType)} (hnd : (cs.map Prod.fst).Nodup)
    {n : String} {d : DType} (h : (n, d) ∈ cs) :
    cs.find? (fun c => Value.same (.str c.1) (.str n)) = some (n, d) := by
  induction cs with
  | nil => cases h
  | cons c cs ih =>
    obtain ⟨hc, hnd⟩ := List.nodup_cons.1 hnd
    rcases List.mem_cons.1 h with rfl | hmem
    · simp [Value.same_str]
    · have hne : c.1 ≠ n := by
        rintro rfl
        exact hc (List.mem_map.2 ⟨_, hmem, rfl⟩)
      rw [List.find?_cons_of_neg (by simp [Value.same_str, hne])]
      exact ih hnd hmem

/-- A table of the schema holds, under each name of the schema, a column of the schema's type. -/
theorem columnOr_dtype {t : Table} (ht : t.HasSchema S) {n : String} {d : DType}
    (h : (n, d) ∈ S.columns) : (t.columnOr (.str n)).dtype = d := by
  have hfind : (t.columns.toList.find? fun c => Value.same c.label (.str n)).map
      (fun c => (c.label, c.dtype)) = some (.str n, d) := by
    have hsig := congrArg (List.find? fun x => Value.same x.1 (.str n)) ht
    simp only [List.find?_map, Function.comp_def] at hsig
    rw [hsig, find?_name_of_mem S.names_nodup h]
    rfl
  obtain ⟨c, hc, hcd⟩ := Option.map_eq_some_iff.1 hfind
  simp only [Prod.mk.injEq] at hcd
  rw [Array.find?_toList] at hc
  simp [Table.columnOr, hc, hcd.2]

/-- Under each name of the schema, a stack holds the tables' cells one after the other. -/
theorem columnOr_stacked (ts : List Table) {n : String} {d : DType} (h : (n, d) ∈ S.columns) :
    (S.stacked ts).columnOr (.str n) =
      { label := .str n, dtype := d, cells := Schema.cellsUnder ts (.str n) } := by
  have hfind := find?_name_of_mem S.names_nodup h
  simp only [Table.columnOr, Schema.stacked, List.find?_toArray, List.find?_map, Function.comp_def]
  rw [hfind]
  rfl

theorem Column.join_label (label : Value) (parts : List Column) :
    (Column.join label parts).label = label := by
  unfold Column.join
  dsimp only
  split_ifs <;> rfl

theorem Column.stack_label (label : Value) (parts : List Column) :
    (Column.stack label parts).label = label := by
  unfold Column.stack
  dsimp only
  split
  · exact Column.join_label _ _
  · split <;> exact Column.join_label _ _

/-- A stack has the union's labels, whatever the columns' types. -/
theorem labels_stack (ts : List Table) :
    (Table.stack ts).labels = (Table.unionLabels ts).toArray := by
  simp [Table.stack, Table.labels, Function.comp_def, Column.stack_label]

/-- Columns of one type are placed one under the other, keeping the type. -/
theorem Column.stack_of_dtype (label : Value) {parts : List Column} (hne : parts ≠ []) {d : DType}
    (h : ∀ c ∈ parts, c.dtype = d) :
    Column.stack label parts =
      { label, dtype := d, cells := (parts.map (·.cells)).foldl (· ++ ·) #[] } := by
  obtain ⟨c, rest, rfl⟩ := List.exists_cons_of_ne_nil hne
  have hc : c.dtype = d := h c (by simp)
  have hrest : ∀ x ∈ rest, x.dtype = d := fun x hx => h x (List.mem_cons_of_mem c hx)
  simp only [Column.stack, Column.join, List.map_cons, List.headD_cons, List.all_cons, hc,
    beq_self_eq_true, Bool.true_and]
  have hall : (rest.map (·.dtype)).all (· == d) = true := by simpa using hrest
  simp [hall]

/-- Tables of one schema, at least one, stack into `Schema.stacked`. -/
theorem stack_of_hasSchema {ts : List Table} (hne : ts ≠ []) (h : ∀ t ∈ ts, t.HasSchema S) :
    Table.stack ts = S.stacked ts := by
  unfold Table.stack Schema.stacked
  rw [unionLabels_of_hasSchema hne h, List.sum_eq_foldl]
  simp only [Schema.labels, List.map_map, Table.mk.injEq, and_true]
  congr 1
  apply List.map_congr_left
  rintro ⟨n, d⟩ hc
  have hparts : ts.map (·.columnOr (.str n)) ≠ [] := by simpa using hne
  have hdt : ∀ c ∈ ts.map (·.columnOr (.str n)), c.dtype = d := by
    simp only [List.mem_map]
    rintro _ ⟨t, ht, rfl⟩
    exact columnOr_dtype (h t ht) hc
  rw [Function.comp_apply, Column.stack_of_dtype _ hparts hdt]
  simp [Schema.cellsUnder, List.map_map, Function.comp_def]

theorem hasSchema_stacked (ts : List Table) : (S.stacked ts).HasSchema S := by
  simp [Table.HasSchema, Schema.stacked, Function.comp_def]

theorem rowCount_stacked (ts : List Table) :
    (S.stacked ts).rowCount = (ts.map Table.rowCount).sum := by
  simp [Table.rowCount, Schema.stacked, Table.rangeIndex]

/-- Two lists of tables stack alike when they hold the same cells under each name and as many
rows. -/
theorem stacked_congr {ts us : List Table}
    (hcells : ∀ c ∈ S.columns,
      Schema.cellsUnder ts (.str c.1) = Schema.cellsUnder us (.str c.1))
    (hrows : (ts.map Table.rowCount).sum = (us.map Table.rowCount).sum) :
    S.stacked ts = S.stacked us := by
  simp only [Schema.stacked, Table.mk.injEq, hrows, and_true]
  congr 1
  exact List.map_congr_left fun c hc => by rw [hcells c hc]

theorem stacked_stacked (ts : List Table) (t : Table) :
    S.stacked [S.stacked ts, t] = S.stacked (ts ++ [t]) := by
  apply stacked_congr
  · rintro ⟨n, d⟩ hc
    simp [Schema.cellsUnder, columnOr_stacked ts hc, List.foldl_append]
  · simp [rowCount_stacked]

/-- A stack of tables of the schema has rows and columns as soon as one of them has. -/
theorem isEmpty_stacked {ts : List Table} {t : Table} (ht : t ∈ ts) (hs : t.HasSchema S)
    (hfull : t.isEmpty = false) : (S.stacked ts).isEmpty = false := by
  simp only [Table.isEmpty, Bool.or_eq_false_iff, Array.isEmpty_eq_false_iff] at hfull ⊢
  obtain ⟨hcols, hrows⟩ := hfull
  have hS : S.columns ≠ [] := by
    intro hnil
    have := congrArg List.length hs
    simp [hnil] at this
    exact hcols this
  have hsum : 0 < (ts.map Table.rowCount).sum :=
    Nat.lt_of_lt_of_le (Nat.pos_of_ne_zero (by simpa [Table.rowCount] using hrows))
      (List.le_sum_of_mem (List.mem_map_of_mem ht))
  constructor
  · simpa [Schema.stacked] using hS
  · simpa [Schema.stacked, Table.rangeIndex] using Nat.pos_iff_ne_zero.1 hsum

theorem appendWith_of_full {t u : Table} (ht : t.isEmpty = false) (hu : u.isEmpty = false) :
    Command.appendWith t u = Table.stack [t, u] := by
  rw [Command.appendWith, if_neg (by simp [hu]), if_neg (by simp [ht])]

/-- Appending a table of the schema to another, neither empty, stacks them. -/
theorem appendWith_of_hasSchema {t u : Table} (ht : t.HasSchema S) (hu : u.HasSchema S)
    (htfull : t.isEmpty = false) (hufull : u.isEmpty = false) :
    Command.appendWith t u = S.stacked [t, u] := by
  rw [appendWith_of_full htfull hufull]
  exact stack_of_hasSchema (by simp) (by simp [ht, hu])

end Columns

/-! ### Stacks of tables of any columns -/

section Aligned

/-- What a chain of appends keeps of the tables `ts` put one under another so far: their labels,
each once in the order first met, rows labelled `0, 1, …`, and a row and a column. -/
def Aligned (ts : List Table) (t : Table) : Prop :=
  t.labels = (Table.unionLabels ts).toArray ∧
    t.index = Table.rangeIndex (ts.map Table.rowCount).sum ∧ t.isEmpty = false

theorem index_stack (ts : List Table) :
    (Table.stack ts).index = Table.rangeIndex (ts.map Table.rowCount).sum := by
  simp [Table.stack, List.sum_eq_foldl]

theorem isEmpty_stack_pair {t u : Table} (ht : t.isEmpty = false) (hu : u.isEmpty = false) :
    (Table.stack [t, u]).isEmpty = false := by
  simp only [Table.isEmpty, Bool.or_eq_false_iff, Array.isEmpty_eq_false_iff] at ht hu
  have hlabels : Table.unionLabels [t, u] ≠ [] := by
    obtain ⟨l, L, hl⟩ := List.exists_cons_of_ne_nil (by simpa [Table.labels] using ht.1 :
      t.labels.toList ≠ [])
    rw [unionLabels_eq_foldl]
    simp only [List.foldl_cons, List.foldl_nil, ← Array.foldl_toList, hl]
    exact foldl_addLabel_ne_nil _ (foldl_addLabel_ne_nil _ (by simp [addLabel]))
  have hrows : u.rowCount ≠ 0 := by simpa [Table.rowCount] using hu.2
  simp [Table.isEmpty, Table.stack, hlabels, Table.rangeIndex, hrows]

theorem aligned_pair {t u : Table} (ht : t.isEmpty = false) (hu : u.isEmpty = false) :
    Aligned [t, u] (Command.appendWith t u) := by
  rw [appendWith_of_full ht hu]
  exact ⟨labels_stack _, index_stack _, isEmpty_stack_pair ht hu⟩

/-- Appending a table with a row and a column keeps the stack aligned: the new labels go at the
end, since the labels so far are each the first of their kind. -/
theorem aligned_append {ts : List Table} {t u : Table} (ht : Aligned ts t)
    (hu : u.isEmpty = false) : Aligned (ts ++ [u]) (Command.appendWith t u) := by
  obtain ⟨hl, hi, he⟩ := ht
  have hfresh : FreshLabels t.labels.toList := by
    simpa [hl] using freshLabels_unionLabels ts
  have hpair : Table.unionLabels [t, u] = u.labels.toList.foldl addLabel (Table.unionLabels ts) := by
    rw [unionLabels_eq_foldl]
    simp only [List.foldl_cons, List.foldl_nil, ← Array.foldl_toList]
    rw [@foldl_addLabel_of_fresh [] _ (by simpa using hfresh), List.nil_append, hl,
      List.toList_toArray]
  have hsnoc : Table.unionLabels (ts ++ [u]) =
      u.labels.toList.foldl addLabel (Table.unionLabels ts) := by
    rw [unionLabels_eq_foldl, List.foldl_append, ← unionLabels_eq_foldl]
    simp [← Array.foldl_toList]
  rw [appendWith_of_full he hu]
  refine ⟨by rw [labels_stack, hpair, hsnoc], ?_, isEmpty_stack_pair he hu⟩
  simp [index_stack, Table.rowCount, hi, Table.rangeIndex]

end Aligned

/-! ### The two runs -/

section Runs

open Query

variable {cat : Catalog}

/-- The stage `append [r]`: the rows of the table that `r` names, put under the table's. -/
def appendStage (r : SourceRef) : Stage :=
  .mk "append" [] [] [] [.mk (.mk (.one r) [] r.pos) r.pos] r.pos

/-- References of stored tables read, in order, the tables they name. -/
theorem mapM_cache_refs {refs : List SourceRef} {ts : List Table}
    (hkind : ∀ r ∈ refs, r.kind = "cache")
    (hget : refs.map (fun r => cat.get? r.name) = ts.map some) :
    refs.mapM (fun r =>
      if r.kind == "cache" || r.kind == "search" || r.kind == "index" then
        (cat.get? r.name).elim (throw (Fault.invalid s!"Source not found: {r.name}")) pure
      else
        (throw (Fault.invalid s!"Unknown source type in multi-source: {r.kind}") : Outcome Table)) =
      .ok ts := by
  induction refs generalizing ts with
  | nil =>
    cases ts with
    | nil => rfl
    | cons _ _ => simp at hget
  | cons r refs ih =>
    cases ts with
    | nil => simp at hget
    | cons t ts =>
      simp only [List.map_cons, List.cons.injEq] at hget
      have hrest := ih (fun x hx => hkind x (List.mem_cons_of_mem r hx)) hget.2
      rw [List.mapM_cons, hrest]
      simp [hkind r (by simp), hget.1]

theorem readSource_union {refs : List SourceRef} {ts : List Table} (p : Nat)
    (hkind : ∀ r ∈ refs, r.kind = "cache")
    (hget : refs.map (fun r => cat.get? r.name) = ts.map some) :
    readSource cat (.union refs p) = .ok (Table.stack ts) := by
  simp only [readSource, mapM_cache_refs hkind hget]
  rfl

theorem run_bind_of_run_ok {α β : Type} {x : Run α} {f : α → Run β} {a : α} {cat' : Catalog}
    (hx : x.run cat = (.ok a, cat')) : (x >>= f).run cat = (f a).run cat' := by
  simp only [ExceptT.run_bind]
  show (do let e ← x.run; _) cat = _
  simp [bind, StateT.bind, hx]

theorem run_lift_ok_bind {α β : Type} (a : α) (f : α → Run β) :
    Run.lift (.ok a) >>= f = f a := by
  simp [Run.lift]

theorem runWith_nil {read : Catalog → Source → Outcome Table}
    {step : Step → Held → Run Held} {src : Source} (p : Nat) {t : Table}
    (h : read cat src = .ok t) :
    (Query.runWith read step (.mk src [] p)).run cat = (.ok t, cat) := by
  unfold Query.runWith
  rw [run_get_bind]
  have hs : (Pipeline.mk src [] p).source = src := rfl
  simp only [hs, h]
  rfl

/-- A run from a single reference runs its configured steps in turn on the table it reads. -/
theorem runWith_one_fold {read : Catalog → Source → Outcome Table}
    {step : Step → Held → Run Held} {r : SourceRef} {stages : List Stage} (p : Nat) {t : Table}
    {steps : List Step} {h : Held} {cat' : Catalog} (hread : read cat (.one r) = .ok t)
    (hprep : prepare stages = .ok steps)
    (hfold : (steps.foldlM (fun u s => step s u) { table := t, holders := [r.name] }).run cat =
      (.ok h, cat')) :
    (Query.runWith read step (.mk (.one r) stages p)).run cat = (.ok h.table, cat') := by
  unfold Query.runWith
  rw [run_get_bind]
  have hs : (Pipeline.mk (.one r) stages p).source = .one r := rfl
  have hst : (Pipeline.mk (.one r) stages p).stages = stages := rfl
  simp only [hs, hst, hread, hprep, run_lift_ok_bind]
  exact run_bind_of_run_ok hfold

/-- The stage `append [r]` puts the table `r` names under the held one. -/
theorem run_append_ref (fuel : Nat) {r : SourceRef} {u : Table} (hk : r.kind = "cache")
    (hu : cat.get? r.name = some u) (h : Held) :
    (Step.run (fuel + 1) (.append (some (.mk (.one r) [] r.pos))) h).run cat =
      (.ok { table := Command.appendWith h.table u }, cat) := by
  have hread : readSubquerySource cat (.one r) = .ok u := by
    simp [readSubquerySource, hk, hu]
    rfl
  have hsub : (Query.runWith readSubquerySource (Step.run fuel) (.mk (.one r) [] r.pos)).run cat =
      (.ok u, cat) := runWith_nil r.pos hread
  simp only [Step.run]
  rw [run_bind_of_run_ok hsub]
  rfl

/-- The stages `append [r]` configure, one each, the command that appends what `r` names. -/
theorem prepare_appendStages (refs : List SourceRef) :
    prepare (refs.map appendStage) =
      .ok (refs.map fun r => .append (some (.mk (.one r) [] r.pos))) := by
  have hname : Kind.ofName? "append" = some .append := Kind.ofName?_of_mem (by simp [Kind.names])
  induction refs with
  | nil => rfl
  | cons r refs ih =>
    simp only [prepare] at ih ⊢
    rw [List.map_cons, List.mapM_cons, ih]
    have hst : (appendStage r).name = "append" := rfl
    simp only [hst, hname]
    rfl

/-- Appending stored tables in turn keeps an invariant of the tables appended so far and the held
table, when one append keeps it. -/
theorem foldlM_append_refs (fuel : Nat) (P : List Table → Table → Prop) {refs : List SourceRef}
    {us : List Table} (hkind : ∀ r ∈ refs, r.kind = "cache")
    (hget : refs.map (fun r => cat.get? r.name) = us.map some)
    (hstep : ∀ ts t, ∀ u ∈ us, P ts t → P (ts ++ [u]) (Command.appendWith t u))
    {ts : List Table} {h : Held} (hh : P ts h.table) :
    ∃ h', ((refs.map fun r => Step.append (some (.mk (.one r) [] r.pos))).foldlM
        (fun u s => Step.run (fuel + 1) s u) h).run cat = (.ok h', cat) ∧ P (ts ++ us) h'.table := by
  induction refs generalizing us ts h with
  | nil =>
    cases us with
    | nil => exact ⟨h, rfl, by rwa [List.append_nil]⟩
    | cons _ _ => simp at hget
  | cons r refs ih =>
    cases us with
    | nil => simp at hget
    | cons u us =>
      simp only [List.map_cons, List.cons.injEq] at hget
      obtain ⟨h', hrun, hP⟩ := ih (fun x hx => hkind x (List.mem_cons_of_mem r hx)) hget.2
        (fun ts t v hv => hstep ts t v (List.mem_cons_of_mem u hv))
        (h := { table := Command.appendWith h.table u }) (hstep ts h.table u (by simp) hh)
      refine ⟨h', ?_, by rwa [List.append_assoc, List.singleton_append] at hP⟩
      rw [List.map_cons, List.foldlM_cons,
        run_bind_of_run_ok (run_append_ref fuel (hkind r (by simp)) hget.1 h), hrun]

/-- A union of stored tables answers their stack. -/
theorem union_answer (fuel : Nat) {refs : List SourceRef} {ts : List Table} (p q : Nat)
    (hkind : ∀ r ∈ refs, r.kind = "cache")
    (hget : refs.map (fun r => cat.get? r.name) = ts.map some) :
    answerOf (Query.run (fuel + 1) (.mk (.union refs p) [] q)) cat = .ok (Table.stack ts) := by
  simp only [answerOf, Query.run, runWith_nil q (readSource_union p hkind hget)]
  rfl

/-- A chain `cache=r₁ | append [cache=r₂] | …` answers a table of an invariant of the tables
appended, when the first append gives it and each later one keeps it. -/
theorem chain_answer (fuel : Nat) (P : List Table → Table → Prop) {r₁ r₂ : SourceRef}
    {rest : List SourceRef} {t₁ t₂ : Table} {us : List Table} (q : Nat)
    (hkind : ∀ r ∈ r₁ :: r₂ :: rest, r.kind = "cache") (hget₁ : cat.get? r₁.name = some t₁)
    (hget₂ : cat.get? r₂.name = some t₂) (hget : rest.map (fun r => cat.get? r.name) = us.map some)
    (hstart : P [t₁, t₂] (Command.appendWith t₁ t₂))
    (hstep : ∀ ts t, ∀ u ∈ us, P ts t → P (ts ++ [u]) (Command.appendWith t u)) :
    ∃ v, answerOf (Query.run (fuel + 1) (.mk (.one r₁) ((r₂ :: rest).map appendStage) q)) cat =
      .ok v ∧ P (t₁ :: t₂ :: us) v := by
  have hread : readSource cat (.one r₁) = .ok t₁ := by
    simp [readSource, readRef, hkind r₁ (by simp), hget₁]
    rfl
  obtain ⟨h, hrun, hP⟩ := foldlM_append_refs fuel P (fun r hr => hkind r (by simp [hr])) hget
    hstep (h := { table := Command.appendWith t₁ t₂ }) hstart
  have hfold : (((r₂ :: rest).map fun r => Step.append (some (.mk (.one r) [] r.pos))).foldlM
      (fun u s => Step.run (fuel + 1) s u) { table := t₁, holders := [r₁.name] }).run cat =
        (.ok h, cat) := by
    rw [List.map_cons, List.foldlM_cons,
      run_bind_of_run_ok (run_append_ref fuel (hkind r₂ (by simp)) hget₂ _), hrun]
  refine ⟨h.table, ?_, by simpa using hP⟩
  simp only [answerOf, Query.run, runWith_one_fold q hread (prepare_appendStages _) hfold]
  rfl

theorem two_tables_of_refs {r₁ r₂ : SourceRef} {rest : List SourceRef} {ts : List Table}
    (hget : (r₁ :: r₂ :: rest).map (fun r => cat.get? r.name) = ts.map some) :
    ∃ t₁ t₂ us, ts = t₁ :: t₂ :: us := by
  rcases ts with _ | ⟨t₁, _ | ⟨t₂, us⟩⟩
  · simp at hget
  · simp at hget
  · exact ⟨t₁, t₂, us, rfl⟩

/-- Two or more stored tables with rows and columns, whatever their columns: the union and the
chain of appends both answer with the labels of all the tables, each once in the order first met,
and with rows labelled `0, 1, …`. -/
theorem union_append_chain_aligned (fuel : Nat) (cat : Catalog) (r₁ r₂ : SourceRef)
    (rest : List SourceRef) (ts : List Table) (p q : Nat)
    (hkind : ∀ r ∈ r₁ :: r₂ :: rest, r.kind = "cache")
    (hget : (r₁ :: r₂ :: rest).map (fun r => cat.get? r.name) = ts.map some)
    (hfull : ∀ t ∈ ts, t.isEmpty = false) :
    ∃ u v, answerOf (Query.run (fuel + 1) (.mk (.union (r₁ :: r₂ :: rest) p) [] q)) cat = .ok u ∧
      answerOf (Query.run (fuel + 1) (.mk (.one r₁) ((r₂ :: rest).map appendStage) q)) cat =
        .ok v ∧
      u.labels = (Table.unionLabels ts).toArray ∧ v.labels = u.labels ∧
      u.index = Table.rangeIndex (ts.map Table.rowCount).sum ∧ v.index = u.index := by
  obtain ⟨t₁, t₂, us, rfl⟩ := two_tables_of_refs hget
  have hunion := union_answer fuel p q hkind hget
  simp only [List.map_cons, List.cons.injEq] at hget
  obtain ⟨v, hv, hvl, hvi, -⟩ := chain_answer fuel Aligned q hkind hget.1 hget.2.1 hget.2.2
    (aligned_pair (hfull t₁ (by simp)) (hfull t₂ (by simp)))
    (fun ts t u hu ht => aligned_append ht (hfull u (by simp [hu])))
  exact ⟨_, v, hunion, hv, labels_stack _, by rw [hvl, labels_stack], index_stack _,
    by rw [hvi, index_stack]⟩

/-- A union of two or more nonempty stored tables of one schema answers as the chain of appends. -/
theorem union_append_chain_stack (fuel : Nat) (S : Schema) (cat : Catalog) (r₁ r₂ : SourceRef)
    (rest : List SourceRef) (ts : List Table) (p q : Nat)
    (hkind : ∀ r ∈ r₁ :: r₂ :: rest, r.kind = "cache")
    (hget : (r₁ :: r₂ :: rest).map (fun r => cat.get? r.name) = ts.map some)
    (hs : ∀ t ∈ ts, t.HasSchema S) (hfull : ∀ t ∈ ts, t.isEmpty = false) :
    answerOf (Query.run (fuel + 1) (.mk (.union (r₁ :: r₂ :: rest) p) [] q)) cat =
        .ok (S.stacked ts) ∧
      answerOf (Query.run (fuel + 1) (.mk (.one r₁) ((r₂ :: rest).map appendStage) q)) cat =
        .ok (S.stacked ts) := by
  obtain ⟨t₁, t₂, us, rfl⟩ := two_tables_of_refs hget
  refine ⟨by rw [union_answer fuel p q hkind hget, stack_of_hasSchema (by simp) hs], ?_⟩
  simp only [List.map_cons, List.cons.injEq] at hget
  have hs₁ := hs t₁ (by simp)
  have hfull₁ := hfull t₁ (by simp)
  -- the invariant: the held table is the stack of the tables so far, one of them with a row
  obtain ⟨v, hv, rfl, -⟩ := chain_answer fuel
    (fun ts t => t = S.stacked ts ∧ ∃ t' ∈ ts, t'.HasSchema S ∧ t'.isEmpty = false) q hkind
    hget.1 hget.2.1 hget.2.2
    ⟨appendWith_of_hasSchema hs₁ (hs t₂ (by simp)) hfull₁ (hfull t₂ (by simp)), t₁, by simp, hs₁,
      hfull₁⟩
    (fun ts t u hu ⟨ht, t', ht', hs', hf'⟩ => ⟨by
      rw [ht, appendWith_of_hasSchema (hasSchema_stacked ts) (hs u (by simp [hu]))
        (isEmpty_stacked ht' hs' hf') (hfull u (by simp [hu])), stacked_stacked],
      t', List.mem_append_left _ ht', hs', hf'⟩)
  exact hv

/-- Three stored tables of one integer column `a`, a row each: the union and the chain of appends
both give the three rows. -/
theorem union_append_chain_three_tables :
    let S : Schema := ⟨[("a", .int64)], by simp⟩
    let t₁ : Table := .mk #[.mk (.str "a") .int64 #[.int 1]] (Table.rangeIndex 1)
    let t₂ : Table := .mk #[.mk (.str "a") .int64 #[.int 2]] #[.int 7]
    let t₃ : Table := .mk #[.mk (.str "a") .int64 #[.int 3]] (Table.rangeIndex 1)
    let cat : Catalog := { entries := #[("t1", t₁), ("t2", t₂), ("t3", t₃)] }
    let r₁ : SourceRef := { kind := "cache", name := "t1", pos := 0 }
    let r₂ : SourceRef := { kind := "cache", name := "t2", pos := 0 }
    let r₃ : SourceRef := { kind := "cache", name := "t3", pos := 0 }
    (∀ r ∈ [r₁, r₂, r₃], r.kind = "cache") ∧
      [r₁, r₂, r₃].map (fun r => cat.get? r.name) = [t₁, t₂, t₃].map some ∧
      (∀ t ∈ [t₁, t₂, t₃], t.HasSchema S) ∧
      (∀ t ∈ [t₁, t₂, t₃], t.isEmpty = false) ∧
      answerOf (Query.run 1 (.mk (.union [r₁, r₂, r₃] 0) [] 0)) cat =
        .ok (S.stacked [t₁, t₂, t₃]) ∧
      answerOf (Query.run 1 (.mk (.one r₁) ([r₂, r₃].map appendStage) 0)) cat =
        .ok (S.stacked [t₁, t₂, t₃]) := by
  intro S t₁ t₂ t₃ cat r₁ r₂ r₃
  have hkind : ∀ r ∈ [r₁, r₂, r₃], r.kind = "cache" := by simp [r₁, r₂, r₃]
  have hget : [r₁, r₂, r₃].map (fun r => cat.get? r.name) = [t₁, t₂, t₃].map some := by
    simp [cat, r₁, r₂, r₃, Catalog.get?]
  have hs : ∀ t ∈ [t₁, t₂, t₃], t.HasSchema S := by
    simp [Table.HasSchema, S, t₁, t₂, t₃]
  have hfull : ∀ t ∈ [t₁, t₂, t₃], t.isEmpty = false := by
    simp [Table.isEmpty, t₁, t₂, t₃, Table.rangeIndex]
  exact ⟨hkind, hget, hs, hfull,
    union_append_chain_stack 0 S cat r₁ r₂ [r₃] _ 0 0 hkind hget hs hfull⟩

set_option maxRecDepth 100000 in
/-- The chain of appends loses the columns of an empty table, which the union keeps. -/
theorem append_chain_drops_empty_table :
    let a : Table := .mk #[.mk (.str "x") .object #[]] #[]
    let b : Table := .mk #[.mk (.str "y") .object #[.str "v"]] (Table.rangeIndex 1)
    let cat : Catalog := { entries := #[("a", a), ("b", b)] }
    let ra : SourceRef := { kind := "cache", name := "a", pos := 0 }
    let rb : SourceRef := { kind := "cache", name := "b", pos := 0 }
    (answerOf (Query.run 1 (.mk (.union [ra, rb] 0) [] 0)) cat).map Table.labels =
        .ok #[.str "x", .str "y"] ∧
      answerOf (Query.run 1 (.mk (.one ra) [appendStage rb] 0)) cat = .ok b := by
  intro a b cat ra rb
  -- the union's labels are read off the stack, whose cells need not be computed
  have hread : readSource cat (.union [ra, rb] 0) = .ok (Table.stack [a, b]) :=
    readSource_union 0 (by simp [ra, rb]) (by simp [cat, ra, rb, Catalog.get?])
  refine ⟨?_, by cbv⟩
  simp only [answerOf, Query.run, runWith_nil 0 hread, Id.run, Except.map, labels_stack]
  cbv

end Runs

end PipeQuery
