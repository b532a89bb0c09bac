import PipeQuery.Proofs.Stacking
import PipeQuery.Proofs.Summaries

/-!
# A many-to-one join keeps the rows

`join f [q]` left-joins the table to the answer of `q` on `f`, one row per pair of matching rows
(`joinRows`). When no key of the table matches two rows of the answer (`ManyToOne`), each row is
paired with its one match or with none (`joinRows_manyToOne`), so `cache=n | join f [q]` answers
with the table's columns as they were, then the answer's other columns taken at the matching rows
(`join_many_to_one_keeps_rows`). Suffixing can give two of the answer's columns one name, and the
join then fails (`join_suffix_clash_fails`).
-/

namespace PipeQuery

open Query

/-- The row of `right` whose key matches the key at row `i` of `left`, the first if several do. -/
def matchOf (left right : Column) (i : Nat) : Option Nat :=
  (List.range right.cells.size).find? fun j => keysMatch (left.cell i) (right.cell j)

/-- Per row of the left key, the row of the right key matching it. -/
def matchRows (left right : Column) : Array (Option Nat) :=
  (Array.range left.cells.size).map (matchOf left right)

/-- A join of `right` onto `left` on `f` keeping `left`'s rows: no left key matches two right rows,
and suffixed names stay apart. -/
structure ManyToOne (left right : Table) (f : String) (lkey rkey : Column) : Prop where
  left_key : left.find? f = some lkey
  right_key : right.find? f = some rkey
  left_once : (left.columns.filter (·.named f)).size ≤ 1
  right_once : (right.columns.filter (·.named f)).size ≤ 1
  meet : keysClash lkey rkey = false
  unique : ∀ i j j', j < rkey.cells.size → j' < rkey.cells.size →
    keysMatch (lkey.cell i) (rkey.cell j) → keysMatch (lkey.cell i) (rkey.cell j') → j = j'
  apart : Table.suffixClash ((right.columns.filter (!·.named f)).map (·.label))
    (((right.columns.filter (!·.named f)).map (·.label)).map (joinedLabel left.labels "_right")) =
      false

variable {left right : Table} {f : String} {lkey rkey : Column}

/-- In a list without repeats, a test that at most one member passes keeps the first that does. -/
theorem filter_eq_find?_toList {l : List Nat} (hnd : l.Nodup) {p : Nat → Bool}
    (h : ∀ x ∈ l, ∀ y ∈ l, p x → p y → x = y) : l.filter p = (l.find? p).toList := by
  rw [← List.head?_filter]
  match hf : l.filter p with
  | [] => rfl
  | [_] => rfl
  | a :: b :: _ =>
    have hnd' := hnd.filter p
    rw [hf] at hnd'
    have ha : a ∈ l.filter p := by simp [hf]
    have hb : b ∈ l.filter p := by simp [hf]
    rw [List.mem_filter] at ha hb
    exact absurd (h a ha.1 b hb.1 ha.2 hb.2) (by simp_all)

/-- A many-to-one join pairs each row of the left key with its one match, in order. -/
theorem joinRows_manyToOne (h : ManyToOne left right f lkey rkey) :
    joinRows lkey rkey = (Array.range lkey.cells.size).map fun i => (i, matchOf lkey rkey i) := by
  apply Array.toList_inj.1
  simp only [joinRows, Array.toList_flatMap, Array.toList_map, Array.toList_range]
  rw [← List.flatMap_pure_eq_map]
  apply List.flatMap_congr
  intro i _
  have hits : ((Array.range rkey.cells.size).filter fun j => keysMatch (lkey.cell i) (rkey.cell j)) =
      (matchOf lkey rkey i).toList.toArray := by
    apply Array.toList_inj.1
    simp only [Array.toList_filter, Array.toList_range, matchOf]
    exact filter_eq_find?_toList List.nodup_range fun x hx y hy =>
      h.unique i x y (by simpa using hx) (by simpa using hy)
  rw [hits]
  cases hm : matchOf lkey rkey i <;> simp [hm]

theorem joinedLabel_text_empty (others : Array Value) (l : Value) :
    (joinedLabel others "" l).text = l.text := by
  unfold joinedLabel
  split <;> simp [Value.text]

/-- A many-to-one join keeps the left columns and adds the right's other columns, renamed, at the
matching rows. -/
theorem leftJoin_manyToOne (h : ManyToOne left right f lkey rkey) :
    ∃ out, Table.leftJoin left right f f "_right" = .ok out ∧
      out.index = Table.rangeIndex lkey.cells.size ∧
      out.columns.map (fun c => (c.label.text, c.cells)) =
        left.columns.map (fun c => (c.label.text, (c.pick (Array.range lkey.cells.size)).cells)) ++
        (right.columns.filter (!·.named f)).map (fun c =>
          ((joinedLabel left.labels "_right" c.label).text, (c.takeOr (matchRows lkey rkey)).cells)) := by
  have hapart := h.apart
  simp only [Array.map_map] at hapart
  simp [Table.leftJoin, h.left_key, h.right_key, Nat.not_lt.mpr h.left_once,
    Nat.not_lt.mpr h.right_once, h.meet, hapart, joinRows_manyToOne h, matchRows]
  refine ⟨_, rfl, rfl, ?_⟩
  rw [Array.map_append]
  congr 1
  · split <;> simp [Function.comp_def, joinedLabel_text_empty, Column.pick]
    -- keys of kinds that do not meet become mixed values: labels and cells stay
    intro c _
    split <;> simp [Column.cell]
  · simp [Function.comp_def]

/-- The stage `join` configures the join on its last plain name with its first subquery. -/
theorem prepare_join {st : Stage} (hst : st.name = "join") :
    prepare [st] = .ok [.join (Command.joinFieldOfStage st) (Command.firstSubquery st)] := by
  have hk : Kind.ofName? st.name = some .join := by
    rw [hst]
    exact Kind.ofName?_of_mem (by simp [Kind.names])
  simp only [prepare, List.mapM_cons, List.mapM_nil, hk]
  rfl

/-- A query `cache=n | join f [q]` answers with the join of the table stored under `n`, when it
has rows, and the answer of `q`. -/
theorem answerOf_cache_join (fuel : Nat) {cat cat' : Catalog} {r : SourceRef} {st : Stage}
    {q : Pipeline} {df R : Table} (p : Nat) (hk : r.kind = "cache") (hget : cat.get? r.name = some df)
    (hst : st.name = "join") (hq : Command.firstSubquery st = some q) (hdf : df.isEmpty = false)
    (hf : Command.joinFieldOfStage st ≠ "")
    (hsub : (Query.runSubquery fuel q).run cat = (.ok R, cat')) :
    answerOf (Query.run (fuel + 1) (.mk (.one r) [st] p)) cat =
      Command.joinWith (Command.joinFieldOfStage st) df R := by
  have hread : readSource cat (.one r) = .ok df := by
    simp [readSource, readRef, hk, hget]
    rfl
  unfold answerOf Query.run Query.runWith
  rw [run_get_bind]
  have hs : (Pipeline.mk (.one r) [st] p).source = .one r := rfl
  have hst' : (Pipeline.mk (.one r) [st] p).stages = [st] := rfl
  simp only [hs, hst', hread, prepare_join hst, run_lift_ok_bind, hq, List.foldlM_cons,
    List.foldlM_nil]
  have hfe : (Command.joinFieldOfStage st).isEmpty = false := by simpa using hf
  simp only [Step.run, hdf, hfe, Bool.false_eq_true, if_false, bind_pure]
  have hsub' : (Query.runWith readSubquerySource (Step.run fuel) q).run cat = (.ok R, cat') := hsub
  simp only [bind_assoc]
  rw [run_bind_of_run_ok hsub']
  cases Command.joinWith (Command.joinFieldOfStage st) df R <;> rfl

/-- A many-to-one join keeps the rows: `cache=n | join f [q]` answers with the table's columns, then
the answer's other columns (named with `_right` on a clash) holding the cells of each row's match, a
gap where none matches. -/
theorem join_many_to_one_keeps_rows (fuel : Nat) (cat cat' : Catalog) (r : SourceRef)
    (st : Stage) (q : Pipeline) (p : Nat) (f : String) (df R : Table) (lkey rkey : Column)
    (hk : r.kind = "cache") (hget : cat.get? r.name = some df) (hst : st.name = "join")
    (hf : Command.joinFieldOfStage st = f) (hf0 : f ≠ "") (hq : Command.firstSubquery st = some q)
    (hsub : (Query.runSubquery fuel q).run cat = (.ok R, cat'))
    (hdf : df.isEmpty = false) (hR : R.isEmpty = false)
    (hsize : ∀ c ∈ df.columns, c.cells.size = df.rowCount) (h : ManyToOne df R f lkey rkey) :
    ∃ out, answerOf (Query.run (fuel + 1) (.mk (.one r) [st] p)) cat = .ok out ∧
      out.rowCount = df.rowCount ∧
      out.columns.map (fun c => (c.label.text, c.cells)) =
        df.columns.map (fun c => (c.label.text, c.cells)) ++
        (R.columns.filter (!·.named f)).map fun c =>
          ((joinedLabel df.labels "_right" c.label).text, (c.takeOr (matchRows lkey rkey)).cells) := by
  have hrun := answerOf_cache_join fuel p hk hget hst hq hdf (hf ▸ hf0) hsub
  rw [hf] at hrun
  obtain ⟨out, hout, hidx, hcols⟩ := leftJoin_manyToOne h
  have hn : lkey.cells.size = df.rowCount := hsize lkey (Array.mem_of_find?_eq_some h.left_key)
  refine ⟨out, by rw [hrun, Command.joinWith, hR]; exact hout, ?_, ?_⟩
  · simp [Table.rowCount, hidx, hn, Table.rangeIndex]
  · rw [hcols, hn]
    congr 1
    apply Array.map_congr_left
    intro c hc
    rw [Column.pick_range (hsize c hc)]

/-- A two-row table joined to a one-row answer: the row without a match gets a gap. -/
theorem join_keeps_rows_beside_gap :
    let k : Column := .mk (.str "f") .int64 #[.int 1, .int 2]
    let rk : Column := .mk (.str "f") .int64 #[.int 1]
    let df : Table := .mk #[k] (Table.rangeIndex 2)
    let R : Table := .mk #[rk, .mk (.str "v") .object #[.str "u"]] (Table.rangeIndex 1)
    let st : Stage := .mk "join" [.positional (.ident "f" 0) 0] [] []
      [.mk (.mk (.one ⟨"cache", "r", [], 0⟩) [] 0) 0] 0
    ∃ out, answerOf (Query.run 1 (.mk (.one ⟨"cache", "t", [], 0⟩) [st] 0))
        { entries := #[("t", df), ("r", R)] } = .ok out ∧
      out.rowCount = df.rowCount ∧
      out.columns.map (fun c => (c.label.text, c.cells)) =
        df.columns.map (fun c => (c.label.text, c.cells)) ++
        (R.columns.filter (!·.named "f")).map fun c =>
          ((joinedLabel df.labels "_right" c.label).text,
            (c.takeOr (matchRows k rk)).cells) := by
  intro k rk df R st
  have hsub : (Query.runSubquery 0 (.mk (.one ⟨"cache", "r", [], 0⟩) [] 0)).run
      { entries := #[("t", df), ("r", R)] } = (.ok R, { entries := #[("t", df), ("r", R)] }) := by
    cbv
  exact join_many_to_one_keeps_rows 0 _ _ _ st _ 0 "f" df R k rk rfl (by cbv) rfl rfl (by decide)
    rfl hsub (by cbv) (by cbv) (by simp [df, k, Table.rowCount, Table.rangeIndex])
    ⟨by cbv, by cbv, by cbv, by cbv, rfl, fun _ j j' (hj : j < 1) (hj' : j' < 1) _ _ => by omega,
      by cbv⟩

/-- Suffixing can give two columns one name, and then the join fails. -/
theorem join_suffix_clash_fails :
    let df : Table := .mk #[.mk (.str "f") .int64 #[.int 1], .mk (.str "c") .object #[.str "p"]]
      (Table.rangeIndex 1)
    let R : Table := .mk #[.mk (.str "f") .int64 #[.int 1], .mk (.str "c") .object #[.str "u"],
      .mk (.str "c_right") .object #[.str "v"]] (Table.rangeIndex 1)
    let st : Stage := .mk "join" [.positional (.ident "f" 0) 0] [] []
      [.mk (.mk (.one ⟨"cache", "r", [], 0⟩) [] 0) 0] 0
    answerOf (Query.run 1 (.mk (.one ⟨"cache", "t", [], 0⟩) [st] 0))
        { entries := #[("t", df), ("r", R)] } =
      .error (Fault.inner .mergeError "Passing 'suffixes' which cause duplicate columns is not allowed.") := by
  intro df R st
  cbv

end PipeQuery
