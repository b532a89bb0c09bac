import PipeQuery.Pipeline
import Mathlib

/-!
# A subquery runs as the main query, but for its source

The main query and a subquery of `join` or `append` both run through `Query.runWith` and differ
only in the reader of the source: the subquery's (`readSubquerySource`) refuses `index=n` and a
union of references. So the two runs answer alike (`SameAnswer`) exactly when the source is one
reference other than `index=n`, or the main query fails anyway (`runSubquery_sameAnswer_iff`).
-/

namespace PipeQuery

open Query

/-- Two answers agree: both are failures, whatever their messages, or both are the same table. -/
def SameAnswer : Except Fault Table → Except Fault Table → Prop
  | .ok t, .ok u => t = u
  | .error _, .error _ => True
  | _, _ => False

def answerOf (x : Run Table) (cat : Catalog) : Except Fault Table :=
  ((x.run cat).run).1

theorem SameAnswer.refl (a : Except Fault Table) : SameAnswer a a := by
  cases a <;> simp [SameAnswer]

/-! ### The shared run -/

section RunWith

variable {read read' : Catalog → Source → Outcome Table} {step : Step → Held → Run Held}
  {q : Pipeline} {cat : Catalog}

theorem run_get_bind {α : Type} (f : Catalog → Run α) (cat : Catalog) :
    ((get : Run Catalog) >>= f).run cat = (f cat).run cat := rfl

theorem run_lift_error_bind {α β : Type} (e : Fault) (f : α → Run β) (cat : Catalog) :
    (Run.lift (.error e) >>= f).run cat = (.error e, cat) := rfl

/-- A run whose source cannot be read fails with the reader's failure and changes nothing. -/
theorem runWith_read_error {e : Fault} (h : read cat q.source = .error e) :
    (Query.runWith read step q).run cat = (.error e, cat) := by
  unfold Query.runWith
  rw [run_get_bind]
  dsimp only
  rw [h, run_lift_error_bind]

/-- The run reads nothing of its reader but the table of this source. -/
theorem runWith_congr_read (h : read cat q.source = read' cat q.source) :
    (Query.runWith read step q).run cat = (Query.runWith read' step q).run cat := by
  unfold Query.runWith
  rw [run_get_bind, run_get_bind]
  dsimp only
  rw [h]

/-- Two single references of one name that the reader reads alike start the same run. -/
theorem runWith_one_congr {r r' : SourceRef} {stages : List Stage} {p p' : Nat}
    (hname : r.name = r'.name) (h : read cat (.one r) = read cat (.one r')) :
    (Query.runWith read step (.mk (.one r) stages p)).run cat =
      (Query.runWith read step (.mk (.one r') stages p')).run cat := by
  unfold Query.runWith
  rw [run_get_bind, run_get_bind]
  have hs : ∀ p, (Pipeline.mk (.one r) stages p).source = .one r := fun _ => rfl
  have hs' : ∀ p, (Pipeline.mk (.one r') stages p).source = .one r' := fun _ => rfl
  simp only [hs, hs', h, hname]
  rfl

end RunWith

/-! ### The two readers -/

/-- A single reference other than `index=n` is read alike by both readers: the same stored table,
or a failure from each. -/
theorem readSubquerySource_agrees (cat : Catalog) {r : SourceRef} (hk : r.kind ≠ "index") :
    (∃ t, readSubquerySource cat (.one r) = .ok t ∧ readSource cat (.one r) = .ok t) ∨
      ((∃ e, readSubquerySource cat (.one r) = .error e) ∧ ∃ e, readSource cat (.one r) = .error e) := by
  by_cases hknown : r.kind = "cache" ∨ r.kind = "search" ∨ r.kind = "default"
  · -- both readers look the name up, each failing with its own message
    have hsub : readSubquerySource cat (.one r) =
        (cat.get? r.name).elim (throw (Fault.invalid s!"Source not found: {r.name}")) pure := by
      rcases hknown with h | h | h <;> simp [readSubquerySource, h]
    obtain ⟨msg, hmain⟩ : ∃ msg, readSource cat (.one r) =
        (cat.get? r.name).elim (throw (Fault.invalid msg)) pure := by
      rcases hknown with h | h | h <;> exact ⟨_, by simp [readSource, readRef, h]; rfl⟩
    rw [hsub, hmain]
    cases cat.get? r.name with
    | none => exact .inr ⟨⟨_, rfl⟩, _, rfl⟩
    | some t => exact .inl ⟨t, rfl, rfl⟩
  · -- any other kind is refused by both
    simp only [not_or] at hknown
    obtain ⟨h1, h2, h3⟩ := hknown
    refine .inr ⟨⟨_, by simp [readSubquerySource, h1, h2, h3]; rfl⟩, ?_⟩
    simp only [readSource, readRef]
    exact ⟨_, rfl⟩

/-- An `index=n` reference and a union are refused by the subquery's reader. -/
theorem readSubquerySource_refuses (cat : Catalog) {src : Source}
    (h : ¬∃ r, src = .one r ∧ r.kind ≠ "index") : ∃ e, readSubquerySource cat src = .error e := by
  cases src with
  | one r =>
    have hk : r.kind = "index" := by simpa using h
    exact ⟨_, by simp [readSubquerySource, hk]; rfl⟩
  | union parts p => exact ⟨_, rfl⟩

/-! ### The two runs -/

/-- A subquery answers as the main query exactly when its source is one reference other than
`index=n`, or the main query fails too. -/
theorem runSubquery_sameAnswer_iff (fuel : Nat) (q : Pipeline) (cat : Catalog) :
    SameAnswer (answerOf (Query.runSubquery fuel q) cat) (answerOf (Query.run fuel q) cat) ↔
      (∃ r, q.source = .one r ∧ r.kind ≠ "index") ∨ ∃ e, answerOf (Query.run fuel q) cat = .error e := by
  by_cases hsrc : ∃ r, q.source = .one r ∧ r.kind ≠ "index"
  · refine iff_of_true ?_ (.inl hsrc)
    obtain ⟨r, hr, hk⟩ := hsrc
    rcases readSubquerySource_agrees cat hk with ⟨t, hs, hm⟩ | ⟨⟨e, hs⟩, e', hm⟩
    · -- the same table: the same run from there on
      rw [← hr] at hs hm
      have hrun : (Query.runWith readSubquerySource (Step.run fuel) q).run cat =
          (Query.runWith readSource (Step.run fuel) q).run cat :=
        runWith_congr_read (hs.trans hm.symm)
      simp only [answerOf, Query.runSubquery, Query.run, hrun]
      exact SameAnswer.refl _
    · -- both fail on the source
      rw [← hr] at hs hm
      simp [answerOf, Query.runSubquery, Query.run, runWith_read_error hs,
        runWith_read_error hm, SameAnswer, Id.run]
  · obtain ⟨e, he⟩ := readSubquerySource_refuses cat hsrc
    have hsub : answerOf (Query.runSubquery fuel q) cat = .error e := by
      simp [answerOf, Query.runSubquery, runWith_read_error he, Id.run]
    rw [hsub]
    simp only [hsrc, false_or]
    cases answerOf (Query.run fuel q) cat <;> simp [SameAnswer]

set_option maxRecDepth 10000 in
/-- The query `index=t` reads the stored table `t` at top level, but is refused as a subquery. -/
theorem runSubquery_index_refused :
    ∃ q, Query.parse "index=t" = .ok q ∧
      answerOf (Query.runSubquery 1 q) { entries := #[("t", default)] } =
        .error (Fault.invalid "Unknown source type: index") ∧
      answerOf (Query.run 1 q) { entries := #[("t", default)] } = .ok default :=
  ⟨_, by cbv, by cbv, by cbv⟩

/-! ### A search source -/

/-- A `search` reference reads the table stored under its name; its parameters are not read. -/
theorem readSource_search (cat : Catalog) {r : SourceRef} (hr : r.kind = "search") :
    readSource cat (.one r) =
      (cat.get? r.name).elim (throw (Fault.invalid s!"Index not found: {r.name}")) pure := by
  simp [readSource, readRef, hr]

theorem readSource_cache (cat : Catalog) (name : String) (pos : Nat) :
    readSource cat (.one { kind := "cache", name, pos }) =
      (cat.get? name).elim (throw (Fault.invalid s!"Cache not found: {name}")) pure := by
  simp [readSource, readRef]

/-- A query read from `search` with any parameters answers as the same query read from `cache=n`:
the parameters are never applied. -/
theorem run_search_source_sameAnswer (fuel : Nat) {r : SourceRef} (hr : r.kind = "search")
    (stages : List Stage) (p : Nat) (cat : Catalog) :
    SameAnswer (answerOf (Query.run fuel (.mk (.one r) stages p)) cat)
      (answerOf (Query.run fuel (.mk (.one { kind := "cache", name := r.name, pos := r.pos }) stages p))
        cat) := by
  have hs := readSource_search cat hr
  have hc := readSource_cache cat r.name r.pos
  cases ht : cat.get? r.name with
  | some t =>
    have hrun : (Query.run fuel (.mk (.one r) stages p)).run cat =
        (Query.run fuel (.mk (.one { kind := "cache", name := r.name, pos := r.pos }) stages p)).run
          cat :=
      runWith_one_congr rfl (by rw [hs, hc, ht]; rfl)
    simp only [answerOf, hrun]
    exact SameAnswer.refl _
  | none =>
    rw [ht] at hs hc
    have hs' : readSource cat (Pipeline.mk (.one r) stages p).source = _ := hs
    have hc' : readSource cat
        (Pipeline.mk (.one { kind := "cache", name := r.name, pos := r.pos }) stages p).source = _ := hc
    simp [answerOf, Query.run, runWith_read_error hs', runWith_read_error hc', SameAnswer, Id.run]

/-- A search source with bounds on a stored table answers as the cache source does. -/
theorem search_source_bounds_agree :
    let source : SourceRef :=
      { kind := "search", name := "x", params := [("earliest", .text "2024-01-02")], pos := 0 }
    source.kind = "search" ∧
      SameAnswer (answerOf (Query.run 1 (.mk (.one source) [] 0)) { entries := #[("x", .empty)] })
        (answerOf (Query.run 1 (.mk (.one { kind := "cache", name := "x", pos := 0 }) [] 0))
          { entries := #[("x", .empty)] }) := by
  intro source
  exact ⟨rfl, run_search_source_sameAnswer 1 rfl [] 0 _⟩

set_option maxRecDepth 10000 in
/-- The bounds of a search source are not applied, while the `search` command's are. -/
theorem search_source_skips_time_column :
    let x : Table := .mk #[.mk (.str "_time") .bool #[.bool true]] (Table.rangeIndex 1)
    let source : SourceRef :=
      { kind := "search", name := "x", params := [("earliest", .text "2024-01-02")], pos := 0 }
    let stage : Stage :=
      .mk "search" [.keyword "earliest" (.lit (.text "2024-01-02") .string 0) 17] [] [] [] 10
    answerOf (Query.run 1 (.mk (.one source) [] 0)) { entries := #[("x", x)] } = .ok x ∧
      answerOf (Query.run 1 (.mk (.one { kind := "cache", name := "x", pos := 0 }) [stage] 0))
          { entries := #[("x", x)] } =
        .error (Fault.inner .typeError "dtype bool cannot be converted to datetime64[ns]") :=
  ⟨by cbv, by cbv⟩

end PipeQuery
