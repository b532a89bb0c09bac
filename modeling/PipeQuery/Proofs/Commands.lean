import PipeQuery.Proofs.Sources
import PipeQuery.Proofs.Embedding.Query
import Mathlib

/-!
# Configuring a command: its names and its two readers

Most commands go by several names (`Kind.names`). Once a query is read, a stage's name only finds
its command, which is configured from the stage's arguments alone (`ofStage_withName`), so two
names of one command run alike (`alias_synonyms`), and so they do in the word interface
(`splitLine_name`). Where they differ is in reading a query: `head` has a reader of its own and
`limit` the general one (`head_limit_read_apart`). The two readers need not agree either: a count
written before the fields of `top` is one more field on the query path
(`top_count_read_as_field`), and the words of a `stats` stage leave out its aggregations
(`stats_words_drop_aggregations`). `rex` takes a text `s/old/new/` as written, escapes kept
(`rex_sed_text_replaces`).
-/

namespace PipeQuery

open Query Command

/-- The stage under another name, its arguments, fields, aggregations and subqueries kept. -/
def Query.Stage.withName (st : Stage) (name : String) : Stage :=
  .mk name st.args st.byFields st.aggs st.subqueries st.pos

/-- A list of characters without the blanks at either end. -/
def stripBlanks (cs : List Char) : List Char :=
  (cs.reverse.dropWhile Text.isBlank).reverse.dropWhile Text.isBlank

/-! ### The table of names -/

namespace Kind

theorem names_found : ∀ n ∈ names, ofName? n.1 = some n.2 := by decide +kernel

/-- Each name of the table is a word of lower-case letters and underscores. -/
theorem names_plain :
    (names.all fun n => !n.1.toList.isEmpty && n.1.toList.all fun c => c.isLower || c == '_') =
      true := by
  decide

theorem ofName?_of_mem {k : String} {K : Kind} (h : (k, K) ∈ names) : ofName? k = some K :=
  names_found _ h

end Kind

/-! ### Reading a line by its first word -/

theorem isBlank_space : Text.isBlank ' ' = true := by cbv

theorem isBlank_of_name_char {c : Char} (h : (c.isLower || c == '_') = true) :
    Text.isBlank c = false := by
  have hrange : 0x5F ≤ c.toNat ∧ c.toNat ≤ 0x7A := by
    simp only [Bool.or_eq_true, Char.isLower, Bool.and_eq_true, decide_eq_true_eq, beq_iff_eq] at h
    rcases h with ⟨h1, h2⟩ | rfl
    · simp only [ge_iff_le, UInt32.le_iff_toNat_le] at h1 h2
      have ha : 'a'.val.toNat = 97 := rfl
      have hz : 'z'.val.toNat = 122 := rfl
      simp only [Char.toNat]
      omega
    · decide
  cases hb : Text.isBlank c with
  | false => rfl
  | true =>
    obtain ⟨r, hr, hlo, hhi⟩ := Text.RangeTable.covers_of_contains hb
    simp only [Text.blankRanges, List.mem_cons, List.not_mem_nil, or_false] at hr
    rcases hr with rfl | rfl | rfl | rfl | rfl | rfl | rfl | rfl | rfl | rfl <;> simp at hlo hhi <;>
      omega

theorem Kind.name_word {k : String} {K : Kind} (h : (k, K) ∈ Kind.names) :
    k.toList ≠ [] ∧ ∀ c ∈ k.toList, Text.isBlank c = false := by
  have hn := List.all_eq_true.mp Kind.names_plain _ h
  simp only [Bool.and_eq_true, Bool.not_eq_true', List.isEmpty_eq_false_iff, List.all_eq_true] at hn
  exact ⟨hn.1, fun c hc => isBlank_of_name_char (hn.2 c hc)⟩

/-- A line that starts with a one-word name splits into that name and the rest of the line
without its blanks at either end. -/
theorem splitLine_name {k : String} (hk : k.toList ≠ []) (hb : ∀ c ∈ k.toList, Text.isBlank c = false)
    (a : String) : splitLine (k ++ " " ++ a) = (k, String.ofList (stripBlanks a.toList)) := by
  have hline : (k ++ " " ++ a).toList = k.toList ++ ' ' :: a.toList := by simp
  have hword : ∀ c ∈ k.toList, (!Text.isBlank c) = true := by simpa using hb
  have hgap : (!Text.isBlank ' ') = false := by simp [isBlank_space]
  have hlead : (k.toList ++ ' ' :: a.toList).dropWhile Text.isBlank = k.toList ++ ' ' :: a.toList := by
    obtain ⟨c, r, hc⟩ := List.exists_cons_of_ne_nil hk
    rw [hc, List.cons_append, List.dropWhile_cons_of_neg (by simp [hb c (by simp [hc])])]
  have hlast : k.toList.reverse.dropWhile Text.isBlank = k.toList.reverse := by
    obtain ⟨c, r, hc⟩ := List.exists_cons_of_ne_nil (List.reverse_ne_nil_iff.mpr hk)
    have hmem : c ∈ k.toList := List.mem_reverse.mp (hc ▸ List.mem_cons_self)
    rw [hc, List.dropWhile_cons_of_neg (by simp [hb c hmem])]
  unfold splitLine
  rw [hline, hlead, List.reverse_append, List.reverse_cons, List.append_assoc, List.dropWhile_append]
  dsimp only
  by_cases hA : (a.toList.reverse.dropWhile Text.isBlank).isEmpty
  · -- the rest of the line is blank: what is left is the name alone
    have hspace : ([' '] ++ k.toList.reverse).dropWhile Text.isBlank = k.toList.reverse := by
      rw [List.singleton_append, List.dropWhile_cons_of_pos isBlank_space, hlast]
    rw [if_pos hA, hspace, List.reverse_reverse, List.takeWhile_eq_self_iff.mpr hword,
      List.dropWhile_eq_nil_iff.mpr hword]
    simp [stripBlanks, List.isEmpty_iff.mp hA]
  · -- the rest of the line keeps its words after the blank that ends the name
    have hrev : (a.toList.reverse.dropWhile Text.isBlank ++ ([' '] ++ k.toList.reverse)).reverse =
        k.toList ++ ' ' :: (a.toList.reverse.dropWhile Text.isBlank).reverse := by
      simp
    rw [if_neg hA, hrev, List.takeWhile_append_of_pos hword, List.dropWhile_append_of_pos hword,
      List.takeWhile_cons_of_neg (by simp [hgap]), List.dropWhile_cons_of_neg (by simp [hgap]),
      List.dropWhile_cons_of_pos isBlank_space]
    simp [stripBlanks]

/-- Two names of one command read a line alike, whatever follows the name. -/
theorem ofLine_alias {k1 k2 : String} {K : Kind} (h1 : (k1, K) ∈ Kind.names)
    (h2 : (k2, K) ∈ Kind.names) (a : String) :
    Step.ofLine (k1 ++ " " ++ a) = Step.ofLine (k2 ++ " " ++ a) := by
  unfold Step.ofLine
  rw [splitLine_name (Kind.name_word h1).1 (Kind.name_word h1).2,
    splitLine_name (Kind.name_word h2).1 (Kind.name_word h2).2]
  simp only [Kind.ofName?_of_mem h1, Kind.ofName?_of_mem h2]

/-! ### A stage under another name -/

/-- The command a stage configures does not depend on the stage's name. -/
theorem ofStage_withName (K : Kind) (st : Stage) (name : String) :
    Step.ofStage K (st.withName name) = Step.ofStage K st := by
  cases st
  cases K <;> rfl

/-- Renaming one stage to a name of the same command configures the same commands. -/
theorem prepare_withName {st : Stage} {name : String} {K : Kind} (hst : Kind.ofName? st.name = some K)
    (hname : Kind.ofName? name = some K) (pre post : List Stage) :
    prepare (pre ++ st.withName name :: post) = prepare (pre ++ st :: post) := by
  have hname' : Kind.ofName? (st.withName name).name = some K := hname
  simp only [prepare, List.mapM_append, List.mapM_cons, hst, hname', ofStage_withName]

/-- A run reads its stages only through the commands they configure. -/
theorem runWith_congr_prepare {read : Catalog → Source → Outcome Table}
    {step : Step → Held → Run Held} {src : Source} {stages stages' : List Stage} {p : Nat}
    (h : prepare stages' = prepare stages) (cat : Catalog) :
    (Query.runWith read step (.mk src stages' p)).run cat =
      (Query.runWith read step (.mk src stages p)).run cat := by
  unfold Query.runWith
  rw [run_get_bind, run_get_bind]
  have hs : ∀ l, (Pipeline.mk src l p).stages = l := fun _ => rfl
  simp only [hs, h]
  rfl

/-- Two names of one command are synonyms once a query is read, and in the word interface. -/
theorem alias_synonyms {k1 k2 : String} {K : Kind} (h1 : (k1, K) ∈ Kind.names)
    (h2 : (k2, K) ∈ Kind.names) :
    (∀ a, Step.ofLine (k1 ++ " " ++ a) = Step.ofLine (k2 ++ " " ++ a)) ∧
      ∀ (fuel : Nat) (src : Source) (pre post : List Stage) (st : Stage) (p : Nat) (cat : Catalog),
        (Query.run fuel (.mk src (pre ++ st.withName k1 :: post) p)).run cat =
          (Query.run fuel (.mk src (pre ++ st.withName k2 :: post) p)).run cat := by
  refine ⟨ofLine_alias h1 h2, fun fuel src pre post st p cat => ?_⟩
  have hst : Kind.ofName? (st.withName k2).name = some K := Kind.ofName?_of_mem h2
  have hren : (st.withName k2).withName k1 = st.withName k1 := rfl
  have hprep := prepare_withName hst (Kind.ofName?_of_mem h1) pre post
  rw [hren] at hprep
  exact runWith_congr_prepare hprep cat

theorem limit_head_synonyms :
    ("head", Kind.head) ∈ Kind.names ∧ ("limit", Kind.head) ∈ Kind.names ∧
      ((∀ a, Step.ofLine ("head" ++ " " ++ a) = Step.ofLine ("limit" ++ " " ++ a)) ∧
        ∀ (fuel : Nat) (src : Source) (pre post : List Stage) (st : Stage) (p : Nat)
          (cat : Catalog),
          (Query.run fuel (.mk src (pre ++ st.withName "head" :: post) p)).run cat =
            (Query.run fuel (.mk src (pre ++ st.withName "limit" :: post) p)).run cat) :=
  have h1 : ("head", Kind.head) ∈ Kind.names := by decide
  have h2 : ("limit", Kind.head) ∈ Kind.names := by decide
  ⟨h1, h2, alias_synonyms h1 h2⟩

set_option maxRecDepth 10000 in
/-- `cache=t | head "5"` and `cache=t | limit "5"` are read apart: `head` takes a number token only,
so ten rows are kept, `limit` five. -/
theorem head_limit_read_apart :
    let t : Table := .mk #[.mk (.str "a") .int64 #[.int 1, .int 2, .int 3, .int 4, .int 5, .int 6]]
      (Table.rangeIndex 6)
    (answerOf (runText "cache=t | head \"5\"") { entries := #[("t", t)] }).map Table.rowCount =
        .ok 6 ∧
      (answerOf (runText "cache=t | limit \"5\"") { entries := #[("t", t)] }).map Table.rowCount =
        .ok 5 :=
  ⟨by cbv, by cbv⟩

/-! ### A count before the fields of `top` and `rare` -/

section Count

theorem toNat_of_isDigit {c : Char} (h : c.isDigit = true) : 48 ≤ c.toNat ∧ c.toNat ≤ 57 := by
  simp only [Char.isDigit, Bool.and_eq_true, decide_eq_true_eq, ge_iff_le,
    UInt32.le_iff_toNat_le] at h
  have h0 : '0'.val.toNat = 48 := rfl
  have h9 : '9'.val.toNat = 57 := rfl
  simp only [Char.toNat]
  omega

theorem lowerCharAt_digit {c : Char} (h : c.isDigit = true) (before after : List Char) :
    Text.lowerCharAt before c after = String.singleton c := by
  have hn := toNat_of_isDigit h
  have hsigma : (c.toNat == 0x3A3) = false := by simp; omega
  have hspecial : Text.lowerSpecial.find? (·.1 == c.toNat) = none := by
    simp [Text.lowerSpecial]; omega
  have hupper : ¬(c.val ≥ 'A'.val ∧ c.val ≤ 'Z'.val) := by
    have hA : 'A'.val.toNat = 65 := rfl
    simp only [ge_iff_le, UInt32.le_iff_toNat_le, hA, not_and, not_le]
    simp only [Char.toNat] at hn
    omega
  have hlow : c.toLower = c := by
    simp only [Char.toLower]
    rw [dif_neg hupper]
  simp [Text.lowerCharAt, hsigma, Text.lowerChar, hspecial, show c.toNat < 0x80 by omega, hlow]

theorem lower_of_digits {w : String} (h : ∀ c ∈ w.toList, c.isDigit = true) : Text.lower w = w := by
  have hgo : ∀ (cs before : List Char) (out : String), (∀ c ∈ cs, c.isDigit = true) →
      Text.lowerAfter.go cs before out = out ++ String.ofList cs := by
    intro cs
    induction cs with
    | nil => intro before out _; simp [Text.lowerAfter.go]
    | cons c r ih =>
      intro before out hd
      rw [Text.lowerAfter.go, lowerCharAt_digit (hd c (by simp)),
        ih _ _ fun d hdr => hd d (by simp [hdr])]
      simp [String.ofList_cons, ← String.append_assoc]
  simp [Text.lower, Text.lowerAfter, hgo w.toList [] "" h]

theorem dropWhile_of_none {p : Char → Bool} {cs : List Char} (h : ∀ c ∈ cs, p c = false) :
    cs.dropWhile p = cs := by
  cases cs with
  | nil => rfl
  | cons c r => exact List.dropWhile_cons_of_neg (by simp [h c (by simp)])

theorem stripQuotes_of_digits {w : String} (h : ∀ c ∈ w.toList, c.isDigit = true) :
    stripQuotes w = w := by
  have hq : ∀ c ∈ w.toList, (c = '"' || c = '\'') = false := by
    intro c hc
    have hn := toNat_of_isDigit (h c hc)
    have hd : c ≠ '"' := fun he => by subst he; simp at hn
    have hs : c ≠ '\'' := fun he => by subst he; simp at hn
    simp [hd, hs]
  have hr : ∀ c ∈ w.toList.reverse, (c = '"' || c = '\'') = false := fun c hc =>
    hq c (List.mem_reverse.mp hc)
  simp only [stripQuotes]
  rw [dropWhile_of_none hq, dropWhile_of_none hr, List.reverse_reverse, String.ofList_toList]

/-- Fields named after the count are added in order by the fold of `top`'s reader, given that
one such field is. -/
theorem foldlM_fields {F : Frequency × Bool → Arg → Outcome (Frequency × Bool)}
    (hF : ∀ (r : Frequency) (f : String) (p : Nat), Text.lower f ≠ "by" →
      F (r, false) (.positional (.ident f 0) p) = .ok ({ r with fields := r.fields ++ [f] }, false))
    (fs : List (String × Nat)) (hfs : ∀ f ∈ fs, Text.lower f.1 ≠ "by") (r : Frequency) :
    (fs.map fun f => Arg.positional (.ident f.1 0) f.2).foldlM F (r, false) =
      .ok ({ r with fields := r.fields ++ fs.map Prod.fst }, false) := by
  induction fs generalizing r with
  | nil => simp; rfl
  | cons f fs ih =>
    rw [List.map_cons, List.foldlM_cons, hF r f.1 f.2 (hfs f (by simp))]
    simp only [bind, Except.bind]
    rw [ih (fun g hg => hfs g (by simp [hg]))]
    simp

/-- The request of `top w f₁ … fₖ` on the query path, `w` a numeral: `w` is the first field and the
count stays ten. -/
theorem ofStage_count_field {w : String} (hw : ∀ c ∈ w.toList, c.isDigit = true)
    (fs : List (String × Nat)) (hfs : ∀ f ∈ fs, Text.lower f.1 ≠ "by") (name : String) (p : Nat)
    (byFields : List String) (aggs : List Aggregation) (subs : List Subquery) (pos : Nat) :
    Frequency.ofStage (.mk name (.positional (.lit (.text w) .number 0) p ::
        fs.map fun f => .positional (.ident f.1 0) f.2) byFields aggs subs pos) =
      .ok { fields := w :: fs.map Prod.fst } := by
  have hby : (Text.lower w == "by") = false := by
    rw [lower_of_digits hw]
    cases hb : w == "by" with
    | false => rfl
    | true =>
      have hwb : w = "by" := by simpa using hb
      have := hw 'b' (by simp [hwb])
      simp at this
  unfold Frequency.ofStage
  simp only [Query.Stage.args, List.foldlM_cons, LitValue.word, hby, stripQuotes_of_digits hw]
  simp only [Bool.false_and, Bool.false_eq_true, if_false, List.nil_append, pure_bind]
  rw [foldlM_fields _ fs hfs]
  · rfl
  · intro r f p hf
    simp [hf]
    rfl

/-- A request for a field the table lacks fails and names it. -/
theorem frequent_absent_count {w : String} {fs : List String} (rarest : Bool) {t : Table}
    (ht : t.isEmpty = false) (hw : t.has w = false) (hfs : ∀ f ∈ fs, t.has f = true) :
    Command.frequent rarest { fields := w :: fs } t =
      .error (Fault.invalid s!"Fields not found: {Query.quotedList [w]}") := by
  have habsent : absent t (w :: fs) = [w] := by
    simpa [absent, hw] using hfs
  simp [Command.frequent, ht, habsent]
  rfl

/-- On the query path, `top` and `rare` read a count written before their fields as one more field,
and so fail naming the numeral on every table with rows that has the fields but no such column. -/
theorem top_count_read_as_field {w : String} (hw : ∀ c ∈ w.toList, c.isDigit = true)
    (fs : List (String × Nat)) (hfs : ∀ f ∈ fs, Text.lower f.1 ≠ "by") (name : String) (p : Nat)
    (byFields : List String) (aggs : List Aggregation) (subs : List Subquery) (pos : Nat) :
    Frequency.ofStage (.mk name (.positional (.lit (.text w) .number 0) p ::
        fs.map fun f => .positional (.ident f.1 0) f.2) byFields aggs subs pos) =
      .ok { fields := w :: fs.map Prod.fst } ∧
    ∀ (rarest : Bool) (t : Table), t.isEmpty = false → t.has w = false →
      (∀ f ∈ fs, t.has f.1 = true) →
      Command.frequent rarest { fields := w :: fs.map Prod.fst } t =
        .error (Fault.invalid s!"Fields not found: {Query.quotedList [w]}") :=
  ⟨ofStage_count_field hw fs hfs name p byFields aggs subs pos, fun rarest _ ht hwt hft =>
    frequent_absent_count rarest ht hwt fun f hf => by
      obtain ⟨g, hg, rfl⟩ := List.mem_map.mp hf
      exact hft g hg⟩

/-- `top 3 color` as the query path reads it: the numeral `3` is a field. -/
theorem top_three_color_read_as_field :
    (∀ c ∈ "3".toList, c.isDigit = true) ∧ (∀ f ∈ [("color", 20)], Text.lower f.1 ≠ "by") ∧
      Frequency.ofStage (.mk "top" [.positional (.lit (.text "3") .number 0) 14,
        .positional (.ident "color" 0) 20] [] [] [] 10) = .ok { fields := ["3", "color"] } :=
  have hw : ∀ c ∈ "3".toList, c.isDigit = true := by simp
  have hfs : ∀ f ∈ [("color", 20)], Text.lower f.1 ≠ "by" := by
    simp only [List.mem_singleton, forall_eq]
    cbv
  ⟨hw, hfs, (top_count_read_as_field hw [("color", 20)] hfs "top" 14 [] [] [] 10).1⟩

set_option maxRecDepth 100000 in
/-- The two paths configure `top 3 color` apart on a table with the columns `3` and `color`. -/
theorem top_count_paths_differ :
    let t : Table := .mk #[.mk (.str "3") .int64 #[.int 0], .mk (.str "color") .object #[.str "red"]]
      (Table.rangeIndex 1)
    (answerOf (runText "cache=t | top 3 color") { entries := #[("t", t)] }).map (·.labels) =
        .ok #[.str "3", .str "color", .str "count"] ∧
      ((Step.ofLine "top 3 color").map fun x =>
        (answerOf ((·.table) <$> x.2.run 64 { table := t, holders := ["t"] })
          { entries := #[("t", t)] }).map (·.labels)) = .ok (.ok #[.str "color", .str "count"]) :=
  ⟨by cbv, by cbv⟩

end Count

/-! ### The words of a `stats` stage -/

/-- The arguments of `stats` are its aggregations and `by` fields: it reads no plain argument. -/
theorem statsArgs_args {ts : Array Token} {f x y : Nat} {p : StageParts}
    (h : (statsArgs ts f).run x = .ok (p, y)) : p.args = #[] := by
  unfold statsArgs at h
  obtain ⟨_, _, -, h⟩ := run_bind_ok h
  obtain ⟨_, _, -, h⟩ := run_bind_ok h
  split at h
  · -- `by` and the fields after it
    obtain ⟨_, _, -, h⟩ := run_bind_ok h
    obtain ⟨_, _, -, h⟩ := run_bind_ok h
    cases h
    rfl
  · cases h
    rfl

/-- A stage read as `stats` has no plain argument. -/
theorem stage_stats_args {ts : Array Token} {f x y : Nat} {st : Stage}
    (h : (stage ts f).run x = .ok (st, y)) (hs : Text.lower st.name = "stats") : st.args = [] := by
  cases f with
  | zero => cases h
  | succ f =>
    rw [stage_succ] at h
    obtain ⟨_, _, -, h⟩ := run_bind_ok h
    obtain ⟨_, _, -, h⟩ := run_bind_ok h
    split at h
    · cases h
    obtain ⟨t, _, -, h⟩ := run_bind_ok h
    obtain ⟨p, _, hk⟩ := stageThen_ok h
    cases hk
    dsimp only at h
    rw [show Text.lower t.text = "stats" from hs] at h
    obtain ⟨q, _, hq, hk⟩ := run_bind_ok h
    simp only [run_pure, Except.ok.injEq, Prod.mk.injEq, Stage.mk.injEq] at hk
    rw [← hk.1.2.1, statsArgs_args hq]
    rfl

/-- A `stats` stage read from the tokens hands the word interface `by` and its fields alone: its
aggregations are not among its words, so `stats` rebuilt from them aggregates nothing, where the
stage itself asks for them. -/
theorem stats_words_drop_aggregations {ts : Array Token} {f x y : Nat} {st : Stage}
    (h : (stage ts f).run x = .ok (st, y)) (hs : Text.lower st.name = "stats") :
    Step.ofWords .stats st.argWords =
        .ok (.stats { aggregates := [], keys := st.byFields.map stripCommas }) ∧
      Step.ofStage .stats st =
        .ok (.stats { aggregates := st.aggs.map Aggregate.ofQuery, keys := st.byFields }) := by
  refine ⟨?_, rfl⟩
  have hby : Text.lower "by" = "by" := by cbv
  simp only [Step.ofWords, StatsRequest.ofWords, Stage.argWords, stage_stats_args h hs,
    List.map_nil, List.nil_append]
  split
  · rename_i hnil
    simp [List.isEmpty_iff.1 hnil, pure, Except.pure]
  · simp [hby, pure, Except.pure]

/-- `stats count by g`: the stage reads `count` as its aggregation and `g` as its field. -/
theorem stats_count_by_g_words :
    (stage #[⟨.ident, "stats", 0, 1, 0⟩, ⟨.ident, "count", 6, 1, 6⟩, ⟨.byKw, "by", 12, 1, 12⟩,
        ⟨.ident, "g", 15, 1, 15⟩, ⟨.eof, "", 16, 1, 16⟩] 8).run 0 =
      .ok (.mk "stats" [] ["g"] [⟨"count", none, [], 6⟩] [] 0, 4) ∧
    Text.lower "stats" = "stats" ∧
    Step.ofWords .stats ["by", "g"] = .ok (.stats { aggregates := [], keys := ["g"] }) :=
  have hrun : (stage #[⟨.ident, "stats", 0, 1, 0⟩, ⟨.ident, "count", 6, 1, 6⟩,
      ⟨.byKw, "by", 12, 1, 12⟩, ⟨.ident, "g", 15, 1, 15⟩, ⟨.eof, "", 16, 1, 16⟩] 8).run 0 =
      .ok (.mk "stats" [] ["g"] [⟨"count", none, [], 6⟩] [] 0, 4) := by cbv
  have hs : Text.lower "stats" = "stats" := by cbv
  ⟨hrun, hs, (stats_words_drop_aggregations hrun hs).1⟩

/-! ### The `s/old/new/` text of `rex` -/

section Sed

open Extraction

/-- A text the `s/old/new/` splitter takes whole: each backslash escapes the next character, and
no `/` stands alone. -/
inductive SedText : List Char → Prop
  | nil : SedText []
  | escape (c : Char) {r : List Char} : SedText r → SedText ('\\' :: c :: r)
  | plain {c : Char} {r : List Char} : c ≠ '\\' → c ≠ '/' → SedText r → SedText (c :: r)

theorem sedPieces_sedText {p : List Char} (hp : SedText p) (rest cur : List Char) :
    sedPieces (p ++ rest) cur = sedPieces rest (p.reverse ++ cur) := by
  induction hp generalizing cur with
  | nil => rfl
  | escape c _ ih => simp [sedPieces, ih]
  | plain h1 h2 _ ih => simp [sedPieces, h1, ih]

/-- `s/p/r/`, or `s/p/r` with `r` not empty, sets the pattern `p` and the replacement `r` as written,
and the mode sed. -/
theorem withSed_sedText {p r fin : List Char} (hp : SedText p) (hr : SedText r)
    (hfin : fin = ['/'] ∨ fin = [] ∧ r ≠ []) (x : Extraction) :
    isSed (String.ofList ('s' :: '/' :: p ++ '/' :: r ++ fin)) = true ∧
      x.withSed (String.ofList ('s' :: '/' :: p ++ '/' :: r ++ fin)) =
        { x with pattern := String.ofList p, replacement := String.ofList r, substitute := true } := by
  have hpieces : sedPieces (p ++ '/' :: (r ++ fin)) [] = [String.ofList p, String.ofList r] := by
    rw [sedPieces_sedText hp, sedPieces, sedPieces_sedText hr]
    rcases hfin with rfl | ⟨rfl, hne⟩
    · simp [sedPieces]
    · simp [sedPieces, hne]
  constructor
  · simp [isSed, List.cons_prefix_cons]
  · simp [withSed, hpieces]

/-- In sed mode, on a table with rows, each text of the column is rewritten by the replacement. -/
theorem extract_sed {x : Extraction} {t : Table} {c : Column} {re : Regex.Pattern} {g : String → String}
    (ht : t.isEmpty = false) (hp : x.pattern.isEmpty = false) (hf : x.field.isEmpty = false)
    (hc : t.find? x.field = some c) (hs : x.substitute = true) (hre : Regex.compile x.pattern false = .ok re)
    (hg : ∀ s, re.replace x.replacement s none = .ok (g s)) :
    Command.extract x t = .ok (t.put { c with dtype := .object, cells := c.texts.map fun s => .str (g s) }) := by
  simp [Command.extract, ht, hp, hf, hc, hs, hre, Except.mapError, bind, Except.bind, hg]
  rfl

/-- `rex field=f "s/p/r/"` (or `"s/p/r"`, `r` not empty) rewrites each text of `f` by the pattern `p`
and the replacement `r` as written, escapes kept. -/
theorem rex_sed_text_replaces {p r fin : List Char} (hp : SedText p) (hr : SedText r) (hp0 : p ≠ [])
    (hfin : fin = ['/'] ∨ fin = [] ∧ r ≠ []) {f : String} (hf : f.isEmpty = false) (name : String)
    (k : LitKind) (q₁ q₂ q₃ q₄ pos : Nat) (byFields : List String) (aggs : List Aggregation)
    (subs : List Subquery) :
    let x : Extraction :=
      { field := f, pattern := String.ofList p, substitute := true, replacement := String.ofList r }
    Extraction.ofStage (.mk name [.keyword "field" (.ident f q₁) q₂, .positional
        (.lit (.text (String.ofList ('s' :: '/' :: p ++ '/' :: r ++ fin))) k q₃) q₄] byFields aggs subs pos) =
      .ok x ∧
    ∀ (t : Table) (c : Column) (re : Regex.Pattern) (g : String → String), t.isEmpty = false →
      t.find? f = some c → Regex.compile x.pattern false = .ok re →
      (∀ s, re.replace x.replacement s none = .ok (g s)) →
      Command.extract x t = .ok (t.put { c with dtype := .object, cells := c.texts.map fun s => .str (g s) }) := by
  intro x
  obtain ⟨hsed, hwith⟩ := withSed_sedText hp hr hfin { field := f }
  refine ⟨?_, fun t c re g ht hc hre hg => extract_sed ht (by simp [x, hp0]) hf hc rfl hre hg⟩
  generalize String.ofList ('s' :: '/' :: p ++ '/' :: r ++ fin) = w at hsed hwith ⊢
  simp [Extraction.ofStage, Query.Stage.args, Extraction.set, Expr.wordOrRender, Expr.word?, LitValue.word,
    hsed, hwith, x]
  rfl

/-- `rex field=x "s/a/b/"` reads the pattern `a` and the replacement `b`. -/
theorem rex_sed_a_b :
    SedText ['a'] ∧ SedText ['b'] ∧
      Extraction.ofStage (.mk "rex" [.keyword "field" (.ident "x" 20) 22,
        .positional (.lit (.text "s/a/b/") .string 0) 22] [] [] [] 10) =
        .ok { field := "x", pattern := "a", substitute := true, replacement := "b" } :=
  have hp : SedText ['a'] := .plain (by decide) (by decide) .nil
  have hr : SedText ['b'] := .plain (by decide) (by decide) .nil
  ⟨hp, hr, (rex_sed_text_replaces hp hr (by simp) (.inl rfl) (by decide) "rex" .string 20 22 0 22 10 [] [] []).1⟩

set_option maxRecDepth 100000 in
/-- An escaped slash in the replacement keeps its backslash: `s/a/b\/c/` turns `a` into `b\/c`. -/
theorem rex_sed_keeps_escaped_slash :
    let t : Table := .mk #[.mk (.str "x") .object #[.str "a"]] (Table.rangeIndex 1)
    (answerOf (runText "cache=t | rex field=x \"s/a/b\\/c/\"") { entries := #[("t", t)] }).map
      (fun u => (u.find? "x").map (·.cells)) = .ok (some #[.str "b\\/c"]) := by
  intro t
  cbv

end Sed

end PipeQuery
