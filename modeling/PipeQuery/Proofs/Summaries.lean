import PipeQuery.Proofs.Sessions
import PipeQuery.Command.Aggregate

/-!
# Summaries by group

`stats … by k` over a key column of texts groups the rows whose key is present by its value
(`groupRows_text_key`): every such row lies in one group, a group's rows ascend and share one key,
and the keys of the groups strictly ascend. The answer is the key column, one cell per group, and
then one column per aggregation (`stats_by_text_key`). A count counts the present cells of the
column it names, and a bare `count` those of the table's first column, which are not always the
rows of the group (`stats_count_by_text_key`, `stats_count_reads_first_column`).

Without `by`, each summary is taken over whole columns, in code of its own. For the summaries that
count (`count`, `dc`, `values`) the answer is the grouped one on a constant key, once the key is
dropped (`stats_counting_ungrouped_eq_constant_key`); `first` and `last` have no whole-column form
and fail (`stats_first_needs_groups`).
-/

namespace List

theorem pairwise_lt_of_isChain_ne {β : Type} [PartialOrder β] :
    ∀ {l : List β}, l.Pairwise (· ≤ ·) → l.IsChain (· ≠ ·) → l.Pairwise (· < ·)
  | [], _, _ => .nil
  | [_], _, _ => pairwise_singleton _ _
  | a :: b :: l, hle, hne => by
    rw [isChain_cons_cons] at hne
    have hab : a < b := lt_of_le_of_ne (rel_of_pairwise_cons hle (by simp)) hne.1
    refine pairwise_cons.2 ⟨fun c hc => ?_, pairwise_lt_of_isChain_ne hle.of_cons hne.2⟩
    rcases mem_cons.1 hc with rfl | hc
    · exact hab
    · exact hab.trans_le (rel_of_pairwise_cons hle.of_cons hc)

theorem mapM_ok {ε α β : Type} {f : α → Except ε β} {g : α → β} :
    ∀ {l : List α}, (∀ a ∈ l, f a = .ok (g a)) → l.mapM f = .ok (l.map g)
  | [], _ => rfl
  | a :: l, h => by
    simp [mapM_cons, h a (by simp), mapM_ok fun b hb => h b (mem_cons_of_mem a hb), bind,
      Except.bind, pure, Except.pure]

end List

namespace PipeQuery

/-! ### Grouping by a key of texts -/

/-- Cutting a list sorted by a key where the key changes gives runs whose keys strictly ascend. -/
theorem splitBy_key_heads_ascending {α β : Type} [LinearOrder β] (key : α → β) {l : List α}
    (hsorted : l.Pairwise fun i j => key i ≤ key j) (d : α) :
    ((l.splitBy fun i j => decide (key i = key j)).map fun g => key (g.headD d)).Pairwise (· < ·) := by
  set G := l.splitBy fun i j => decide (key i = key j)
  have hkey : ∀ g ∈ G, ∀ i ∈ g, key i = key (g.headD d) := fun g hg =>
    isChain_eq_head d ((List.isChain_of_mem_splitBy hg).imp fun _ _ h => of_decide_eq_true h)
  have hle : (G.map fun g => key (g.headD d)).Pairwise (· ≤ ·) := by
    rw [← List.flatten_splitBy (fun i j => decide (key i = key j)) l, List.pairwise_flatten] at hsorted
    refine List.pairwise_map.2 (hsorted.2.imp_of_mem fun {a b} ha hb h => h _ ?_ _ ?_)
    · exact List.headD_mem_of_ne_nil d (List.ne_nil_of_mem_splitBy ha)
    · exact List.headD_mem_of_ne_nil d (List.ne_nil_of_mem_splitBy hb)
  -- neighbouring runs differ in key, since the cut is where the key changes
  have hne : (G.map fun g => key (g.headD d)).IsChain (· ≠ ·) := by
    refine List.isChain_map _ |>.2 <|
      (List.IsChain.iff_mem.1 (List.isChain_getLast_head_splitBy _ l)).imp ?_
    rintro a b ⟨ha, hb, hab, hb', h⟩
    rw [← hkey a ha _ (List.getLast_mem hab), ← hkey b hb _ (List.head_mem hb')]
    simpa using h
  exact List.pairwise_lt_of_isChain_ne hle hne

/-- `groups` are the rows below `n` with a present value in `k`, grouped by that value in ascending
order of values. -/
structure KeyGroups (k : Column) (n : Nat) (groups : List (List Nat)) : Prop where
  perm : groups.flatten.Perm ((List.range n).filter fun i => !(k.cell i).isMissing)
  group : ∀ g ∈ groups, g ≠ [] ∧ g.Pairwise (· < ·) ∧ ∀ i ∈ g, k.cell i = k.cell (g.headD 0)
  ascending : (groups.map fun g => textRank (k.cell (g.headD 0))).Pairwise (· < ·)

section TextKey

variable {k : Column} (htext : ∀ v ∈ k.cells, v.TextOrNone)
include htext

theorem rowOrder_text_le :
    (fun i j => rowOrder [(k, true)] i j != .gt) =
      fun i j => decide (textRank (k.cell i) ≤ textRank (k.cell j)) := by
  funext i j
  rw [rowOrder_single, Bool.eq_iff_iff, bne_iff_ne, decide_eq_true_iff]
  exact (cellOrder_text (Column.cell_text htext i) (Column.cell_text htext j)).1

theorem rowOrder_text_eq :
    (fun i j => rowOrder [(k, true)] j i == .eq) =
      fun i j => decide (textRank (k.cell i) = textRank (k.cell j)) := by
  funext i j
  have hi := Column.cell_text htext i
  have hj := Column.cell_text htext j
  rw [rowOrder_single, Bool.eq_iff_iff, beq_iff_eq, decide_eq_true_iff, (cellOrder_text hj hi).2,
    textRank_inj hi hj]
  exact eq_comm

/-- Grouping by a column of texts gives the groups of its present values, in the order of the
values. -/
theorem groupRows_text_key (n : Nat) : KeyGroups k n ((groupRows n [k]).map (·.2)) := by
  rw [groupRows_single, rowOrder_text_le htext, rowOrder_text_eq htext, List.map_map]
  simp only [Function.comp_def]
  set key := fun i => textRank (k.cell i)
  set sorted := ((List.range n).filter fun i => !(k.cell i).isMissing).mergeSort
    fun i j => decide (key i ≤ key j)
  set G := sorted.splitBy fun i j => decide (key i = key j)
  have hsorted : sorted.Pairwise fun i j => key i ≤ key j := List.pairwise_mergeSort_key key _
  have hperm := List.mergeSort_perm ((List.range n).filter fun i => !(k.cell i).isMissing)
    fun i j => decide (key i ≤ key j)
  have hnodup : sorted.Nodup := hperm.nodup_iff.2 (List.nodup_range.filter _)
  have hkey : ∀ g ∈ G, ∀ i ∈ g, key i = key (g.headD 0) := fun g hg =>
    isChain_eq_head 0 ((List.isChain_of_mem_splitBy hg).imp fun _ _ h => of_decide_eq_true h)
  have hsame : ∀ g ∈ G, ∀ i ∈ g, k.cell i = k.cell (g.headD 0) := fun g hg i hi =>
    (textRank_inj (Column.cell_text htext _) (Column.cell_text htext _)).1 (hkey g hg i hi)
  have hrun : ∀ g ∈ G, (g.mergeSort fun a b => decide (a ≤ b)).Perm g ∧
      k.cell ((g.mergeSort fun a b => decide (a ≤ b)).headD 0) = k.cell (g.headD 0) := by
    intro g hg
    have hp := List.mergeSort_perm g fun a b => decide (a ≤ b)
    refine ⟨hp, hsame g hg _ (hp.subset (List.headD_mem_of_ne_nil 0 ?_))⟩
    rw [← List.length_pos_iff, List.length_mergeSort, List.length_pos_iff]
    exact List.ne_nil_of_mem_splitBy hg
  refine ⟨?_, ?_, ?_⟩
  · rw [← List.flatMap_def]
    refine ((List.Perm.flatMap_left G fun g hg => (hrun g hg).1).trans ?_).trans hperm
    rw [List.flatMap_id', List.flatten_splitBy]
  · intro g' hg'
    obtain ⟨g, hg, rfl⟩ := List.mem_map.1 hg'
    have hnd : g.Nodup := hnodup.sublist (by simpa [G] using List.sublist_flatten_of_mem hg)
    refine ⟨?_, ?_, fun i hi => ?_⟩
    · rw [← List.length_pos_iff, List.length_mergeSort, List.length_pos_iff]
      exact List.ne_nil_of_mem_splitBy hg
    · exact ((List.pairwise_mergeSort_le g).and ((hrun g hg).1.nodup_iff.2 hnd)).imp
        fun h => lt_of_le_of_ne h.1 h.2
    · rw [(hrun g hg).2]
      exact hsame g hg i ((hrun g hg).1.subset hi)
  · rw [List.map_map]
    convert splitBy_key_heads_ascending key hsorted 0 using 1
    exact List.map_congr_left fun g hg => by simp only [Function.comp_apply, key, (hrun g hg).2]

end TextKey

/-- A key column holding one text in every row makes one group of all the rows. -/
theorem KeyGroups.constant {k : Column} {n : Nat} {groups : List (List Nat)} {s : String}
    (hg : KeyGroups k n groups) (hn : 0 < n) (hconst : ∀ i < n, k.cell i = .str s) :
    groups = [List.range n] := by
  have hall : (List.range n).filter (fun i => !(k.cell i).isMissing) = List.range n :=
    List.filter_eq_self.2 fun i hi => by simp [hconst i (List.mem_range.1 hi), Value.isMissing]
  have hperm := hg.perm
  rw [hall] at hperm
  -- every group has the one key, so strictly ascending keys leave room for one group
  have hkey : ∀ g ∈ groups, k.cell (g.headD 0) = .str s := fun g hg' =>
    hconst _ <| List.mem_range.1 <| hperm.subset <| List.mem_flatten.2
      ⟨g, hg', List.headD_mem_of_ne_nil 0 (hg.group g hg').1⟩
  rcases groups with _ | ⟨g, _ | ⟨g', _⟩⟩
  · simp at hperm; omega
  · rw [List.flatten_singleton] at hperm
    exact congrArg (· :: []) <| hperm.eq_of_pairwise
      (fun _ _ _ _ h h' => absurd (h.trans h') (lt_irrefl _)) (hg.group g (by simp)).2.1
      List.pairwise_lt_range
  · have h := List.rel_of_pairwise_cons hg.ascending (List.mem_map_of_mem (List.mem_cons_self ..))
    simp only [hkey g (by simp), hkey g' (by simp)] at h
    exact absurd h (lt_irrefl _)

/-! ### The grouped answer -/

/-- The name of the column an aggregation writes: the one given, else `f_x` or `f`. -/
def Aggregate.outName (a : Aggregate) : String := a.asName.getD (Aggregate.defaultName a.function a.field)

/-- The summary an aggregation names, `count` for a name that names none. -/
def Aggregate.summary (a : Aggregate) : Summary := (Summary.ofName? a.function).getD .count

/-- The column an aggregation of `field` reads: the column it names, or else the table's first
column. -/
def countSource (t : Table) : Option String → Column
  | some f => (t.find? f).getD default
  | none => t.columns.getD 0 default

/-- The number of rows among `rows` with a present value in `c`. -/
def presentCount (c : Column) (rows : List Nat) : Nat :=
  (rows.filter fun i => !(c.cell i).isMissing).length

theorem countSource_mem {t : Table} (hne : t.isEmpty = false) {field : Option String}
    (h : ∀ f ∈ field, (t.find? f).isSome) : countSource t field ∈ t.columns := by
  cases field with
  | none =>
    have hpos : 0 < t.columns.size := by
      simp only [Table.isEmpty, Bool.or_eq_false_iff] at hne
      exact Nat.pos_of_ne_zero fun h => by simp [Array.isEmpty, h] at hne
    simp [countSource, Array.getD, hpos]
  | some f =>
    obtain ⟨c, hc⟩ := Option.isSome_iff_exists.1 (h f rfl)
    simpa [countSource, hc] using Array.mem_of_find?_eq_some hc

theorem Column.named_eq {c : Column} {a b : String} (ha : c.named a = true) (hb : c.named b = true) :
    a = b := by
  rcases c with ⟨label, _, _⟩
  cases label <;> simp_all [Column.named]

/-- No text or missing cell is a list or a mapping: searching texts for one finds none. -/
theorem Column.find?_texts {c : Column} (h : ∀ v ∈ c.cells, v.TextOrNone) {p : Value → Bool}
    (h0 : p .none = false) (hs : ∀ s, p (.str s) = false) : c.cells.find? p = none :=
  Array.find?_eq_none.2 fun v hv => by rcases h v hv with rfl | ⟨s, rfl⟩ <;> simp [h0, hs]

theorem Table.put_fresh {t : Table} {c : Column}
    (h : ∀ d ∈ t.columns, Value.same d.label c.label = false) :
    t.put c = { t with columns := t.columns.push c } := by
  have hnone : t.columns.findIdx? (fun d => Value.same d.label c.label) = none := by
    rw [Array.findIdx?_eq_none_iff]
    intro d hd
    simp [h d hd]
  simp [Table.put, hnone]

/-- Putting columns one by one under labels new to the table and to each other appends them. -/
theorem foldlM_put_fresh {γ : Type} {step : Table → γ → Outcome Table} (col : γ → Column) :
    ∀ {xs : List γ} {out : Table}, (∀ x ∈ xs, ∀ o, step o x = .ok (o.put (col x))) →
      (∀ x ∈ xs, ∀ d ∈ out.columns, Value.same d.label (col x).label = false) →
      (xs.map fun x => (col x).label).Pairwise (fun a b => Value.same a b = false) →
      xs.foldlM step out = .ok { out with columns := out.columns ++ (xs.map col).toArray }
  | [], out, _, _, _ => by simp [pure, Except.pure]
  | x :: xs, out, hstep, hfresh, hdist => by
    rw [List.map_cons, List.pairwise_cons] at hdist
    rw [List.foldlM_cons, hstep x (by simp), Table.put_fresh (hfresh x (by simp))]
    refine (foldlM_put_fresh col (fun y hy => hstep y (by simp [hy])) (fun y hy d hd => ?_)
      hdist.2).trans (by simp)
    rcases Array.mem_push.1 hd with hd | rfl
    · exact hfresh y (by simp [hy]) d hd
    · exact hdist.1 _ (List.mem_map_of_mem hy)

/-- `stats` by a key column of texts: the key column, then each aggregation's summary of each group.
-/
theorem stats_by_text_key {t : Table} {B : String} {k : Column} {aggs : List Aggregate}
    (col : Aggregate → Column) (hne : t.isEmpty = false) (hk : t.find? B = some k)
    (htext : ∀ v ∈ k.cells, v.TextOrNone)
    (hagg : ∀ a ∈ aggs, ∃ s, Summary.ofName? a.function = some s ∧ (a.field = none → s = .count) ∧
      s.groups (countSource t a.field) ((groupRows t.rowCount [k]).map (·.2)) = .ok (col a))
    (hfield : ∀ a ∈ aggs, ∀ f ∈ a.field, (t.find? f).isSome)
    (hnames : (aggs.map Aggregate.outName).Nodup) (hfresh : ∀ a ∈ aggs, a.outName ≠ B) :
    Command.stats ⟨aggs, [B]⟩ t = .ok
      ⟨#[{ k with cells := (((groupRows t.rowCount [k]).map (·.2)).map
          fun g => k.cell (g.headD 0)).toArray }] ++
        (aggs.map fun a => { col a with label := .str a.outName }).toArray,
        Table.rangeIndex ((groupRows t.rowCount [k]).map (·.2)).length⟩ := by
  have hsm : ∀ a ∈ aggs, Summary.ofName? a.function = some a.summary ∧
      (a.field = none → a.summary = .count) ∧
      a.summary.groups (countSource t a.field) ((groupRows t.rowCount [k]).map (·.2)) = .ok (col a) := by
    intro a ha
    obtain ⟨s, h1, h2, h3⟩ := hagg a ha
    simp only [Aggregate.summary, h1, Option.getD_some]
    exact ⟨trivial, h2, h3⟩
  unfold Command.stats
  rw [List.mapM_ok (g := fun a => (a.outName, a.summary, a.field)) fun a ha => by
    simp [Aggregate.outName, (hsm a ha).1, pure, Except.pure]]
  simp [hne, List.mapM_cons, Command.columnNamed, hk, pure, Except.pure, bind, Except.bind]
  rw [Column.find?_texts htext rfl fun _ => rfl]
  simp only [List.foldlM_map]
  have hB := Array.find?_some hk
  rw [foldlM_put_fresh fun a => { col a with label := .str a.outName }]
  · simp [Function.comp_def]
  · intro a ha o
    have hg := (hsm a ha).2.2
    cases hf : a.field with
    | none =>
      simp only [hf, countSource, (hsm a ha).2.1 hf, Array.getD_eq_getD_getElem?] at hg
      simp [(hsm a ha).2.1 hf, hg]
    | some f =>
      obtain ⟨c, hc⟩ := Option.isSome_iff_exists.1 (hfield a ha f hf)
      simp only [hf, countSource, hc, Option.getD_some] at hg
      simp [hc, hg]
  · intro a ha d hd
    simp only [List.mem_toArray, List.mem_singleton] at hd
    subst hd
    show Value.same k.label _ = false
    rw [Column.same_label_str, Bool.eq_false_iff]
    exact fun h => hfresh a ha (Column.named_eq h hB)
  · rw [List.pairwise_map]
    exact (List.pairwise_map.1 hnames).imp fun h => by simpa [Value.same] using h

/-! ### Counts by group -/

theorem Summary.groups_count (c : Column) (groups : List (List Nat)) :
    Summary.groups .count c groups =
      .ok ⟨c.label, .int64, (groups.map fun g => .int (presentCount c g)).toArray⟩ := by
  simp [Summary.groups, presentCount, Column.pick, pure, Except.pure, List.filter_map,
    Function.comp_def]

/-- Counts by a key column of texts: one row per present key, in key order, with the group's count
of present values. -/
theorem stats_count_by_text_key {t : Table} {B : String} {k : Column} {aggs : List Aggregate}
    (hne : t.isEmpty = false) (hk : t.find? B = some k) (htext : ∀ v ∈ k.cells, v.TextOrNone)
    (hcount : ∀ a ∈ aggs, a.function = "count") (hfield : ∀ a ∈ aggs, ∀ f ∈ a.field, (t.find? f).isSome)
    (hnames : (aggs.map Aggregate.outName).Nodup) (hfresh : ∀ a ∈ aggs, a.outName ≠ B) :
    ∃ groups, KeyGroups k t.rowCount groups ∧
      Command.stats ⟨aggs, [B]⟩ t = .ok
        ⟨#[{ k with cells := (groups.map fun g => k.cell (g.headD 0)).toArray }] ++
          (aggs.map fun a => (⟨.str a.outName, .int64,
            (groups.map fun g => .int (presentCount (countSource t a.field) g)).toArray⟩ : Column)).toArray,
          Table.rangeIndex groups.length⟩ := by
  refine ⟨_, groupRows_text_key htext t.rowCount, ?_⟩
  rw [stats_by_text_key _ hne hk htext (fun a ha => ⟨.count, by rw [hcount a ha]; rfl, fun _ => rfl,
    Summary.groups_count _ _⟩) hfield hnames hfresh]

theorem stats_count_by_text_key_one_group :
    let x : Column := ⟨.str "x", .object, #[.none, .str "u"]⟩
    let k : Column := ⟨.str "k", .object, #[.str "a", .str "a"]⟩
    let t : Table := ⟨#[x, k], #[.int 0, .int 1]⟩
    let aggs : List Aggregate := [⟨"count", none, none⟩]
    ∃ groups, KeyGroups k t.rowCount groups ∧
      Command.stats ⟨aggs, ["k"]⟩ t = .ok
        ⟨#[{ k with cells := (groups.map fun g => k.cell (g.headD 0)).toArray }] ++
          (aggs.map fun a => (⟨.str a.outName, .int64,
            (groups.map fun g => .int (presentCount (countSource t a.field) g)).toArray⟩ : Column)).toArray,
          Table.rangeIndex groups.length⟩ := by
  intro x k t aggs
  exact stats_count_by_text_key (by decide +kernel) rfl (by simp [k, Value.TextOrNone])
    (by simp [aggs]) (by simp [aggs]) (by decide) (by decide)

/-- A bare `count` over a group of two rows whose first column has one missing cell counts one. -/
theorem stats_count_reads_first_column :
    let k : Column := ⟨.str "k", .object, #[.str "a", .str "a"]⟩
    let t : Table := ⟨#[⟨.str "x", .object, #[.none, .str "u"]⟩, k], #[.int 0, .int 1]⟩
    Command.stats ⟨[⟨"count", none, none⟩], ["k"]⟩ t =
      .ok ⟨#[⟨.str "k", .object, #[.str "a"]⟩, ⟨.str "count", .int64, #[.int 1]⟩], #[.int 0]⟩ := by
  intro k t
  have htext : ∀ v ∈ k.cells, v.TextOrNone := by simp [k, Value.TextOrNone]
  have hg : (groupRows t.rowCount [k]).map (·.2) = [List.range 2] :=
    KeyGroups.constant (s := "a") (groupRows_text_key htext _) (by decide) fun i hi => by
      interval_cases i <;> rfl
  have hcount : presentCount (countSource t none) (List.range 2) = 1 := by decide +kernel
  rw [stats_by_text_key (fun _ => ⟨.str "x", .int64, #[.int 1]⟩) (by decide +kernel) rfl htext
    (fun a ha => ⟨.count, by simp at ha; simp [ha]; rfl, fun _ => rfl, by
      simp at ha; simp [ha, hg, Summary.groups_count, hcount]; rfl⟩) (by simp) (by decide) (by decide)]
  simp [hg, Aggregate.outName, Aggregate.defaultName, Table.rangeIndex, Array.range_succ,
    Array.range_eq_empty_iff.2 (rfl : (0 : Nat) = 0), Column.cell, k, List.head?_range]

/-! ### Counting without groups -/

/-- The summaries that count: present values, distinct present values, and distinct values. -/
def Summary.Counting (s : Summary) : Prop := s = .count ∨ s = .distinct ∨ s = .values

/-- What a counting summary gives for a list of values. -/
def Summary.counted (s : Summary) (cells : List Value) : Value :=
  match s with
  | .distinct => .int (distinctCount cells)
  | .values => .list (uniqueValues cells) 0
  | _ => .int (cells.filter (!·.isMissing)).length

/-- The kind of column a counting summary makes: numbers of 64 bits, or lists of values. -/
def Summary.countedType (s : Summary) : DType := if s = .values then .object else .int64

theorem Column.infer_count (label : Value) {m : Nat} (hm : (m : Int) ≤ Seen.int64Max) :
    Column.infer label #[.int m] = ⟨label, .int64, #[.int m]⟩ := by
  have h1 : ¬((m : Int) < Seen.int64Min) := by simp [Seen.int64Min]
  have h2 : ¬((m : Int) > Seen.uint64Max) := by simp [Seen.uint64Max, Seen.int64Max] at hm ⊢; omega
  have h3 : ¬((m : Int) > Seen.int64Max) := by omega
  simp [Column.infer, inferCells, Seen.ofCells, Seen.add, h1, h2, h3]

theorem Column.infer_list (label : Value) (items : List Value) (id : Nat) :
    Column.infer label #[.list items id] = ⟨label, .object, #[.list items id]⟩ := by
  simp [Column.infer, inferCells, Seen.ofCells, Seen.add]

theorem Column.pick_range {c : Column} {n : Nat} (h : c.cells.size = n) :
    c.pick (Array.range n) = c := by
  rcases c with ⟨label, dtype, cells⟩
  subst h
  simp only [Column.pick, Column.mk.injEq, true_and]
  apply Array.ext (by simp)
  intro i h1 h2
  simp [Column.cell, Array.getD, h2]

theorem uniqueValues_length_le (cells : List Value) : (uniqueValues cells).length ≤ cells.length := by
  suffices ∀ acc : List Value, (cells.foldl (fun acc x =>
      if acc.any (Value.sameEntry x) then acc else acc ++ [x]) acc).length ≤ acc.length + cells.length
    by simpa [uniqueValues] using this []
  induction cells with
  | nil => simp
  | cons x xs ih =>
    intro acc
    simp only [List.foldl_cons, List.length_cons]
    split
    · exact (ih acc).trans (by omega)
    · exact (ih _).trans (by simp; omega)

section Counting

variable {s : Summary} (hs : s.Counting)
include hs

theorem Summary.whole_counting (c : Column) : s.whole c = .ok (s.counted c.cells.toList) := by
  rcases hs with rfl | rfl | rfl <;> simp [Summary.whole, Summary.counted, pure, Except.pure]

theorem Summary.groups_counting {c : Column} {n : Nat} (h : c.cells.size = n) :
    s.groups c [List.range n] = .ok ⟨c.label, s.countedType, #[s.counted c.cells.toList]⟩ := by
  rcases hs with rfl | rfl | rfl <;>
    simp [Summary.groups, Summary.counted, Summary.countedType, Column.pick_range h, pure,
      Except.pure, ← Array.length_toList]

theorem Column.infer_counted (label : Value) {cells : List Value}
    (hn : (cells.length : Int) ≤ Seen.int64Max) :
    Column.infer label #[s.counted cells] = ⟨label, s.countedType, #[s.counted cells]⟩ := by
  rcases hs with rfl | rfl | rfl
  · have hle := List.length_filter_le (fun v : Value => !v.isMissing) cells
    exact Column.infer_count label (le_trans (by exact_mod_cast hle) hn)
  · have hle := (uniqueValues_length_le _).trans
      (List.length_filter_le (fun v : Value => !v.isMissing) cells)
    exact Column.infer_count label (le_trans (by exact_mod_cast hle) hn)
  · exact Column.infer_list label _ _

end Counting

/-- Writing columns into a row one by one under names new to the row and to each other appends
them. -/
theorem foldlM_row_fresh {γ : Type}
    {step : List (String × Column) → γ → Outcome (List (String × Column))} (name : γ → String)
    (col : γ → Column) :
    ∀ {xs : List γ} {row : List (String × Column)},
      (∀ x ∈ xs, ∀ r : List (String × Column), (∀ e ∈ r, e.1 ≠ name x) →
        step r x = .ok (r ++ [(name x, col x)])) →
      (∀ x ∈ xs, ∀ e ∈ row, e.1 ≠ name x) → (xs.map name).Nodup →
      xs.foldlM step row = .ok (row ++ xs.map fun x => (name x, col x))
  | [], row, _, _, _ => by simp [pure, Except.pure]
  | x :: xs, row, hstep, hfresh, hnd => by
    rw [List.map_cons, List.nodup_cons] at hnd
    rw [List.foldlM_cons, hstep x (by simp) row (hfresh x (by simp))]
    refine (foldlM_row_fresh name col (fun y hy => hstep y (by simp [hy])) (fun y hy e he => ?_)
      hnd.2).trans (by simp)
    rcases List.mem_append.1 he with he | he
    · exact hfresh y (by simp [hy]) e he
    · rw [List.mem_singleton.1 he]
      exact fun h => hnd.1 (by rw [show name x = name y from h]; exact List.mem_map_of_mem hy)

/-- The table with one more column, last, named `k`, holding the text `s` in every row. -/
def Table.withConstant (t : Table) (k s : String) : Table :=
  { t with columns := t.columns.push ⟨.str k, .object, Array.replicate t.rowCount (.str s)⟩ }

theorem Table.find?_withConstant {t : Table} {k s f : String} {c : Column} (h : t.find? f = some c) :
    (t.withConstant k s).find? f = some c := by
  simp only [Table.find?] at h
  simp [Table.withConstant, Table.find?, Array.find?_push, h]

theorem countSource_withConstant {t : Table} (hne : t.isEmpty = false) {k s : String}
    {field : Option String} (h : ∀ f ∈ field, (t.find? f).isSome) :
    countSource (t.withConstant k s) field = countSource t field := by
  cases field with
  | none =>
    have hpos := Array.size_pos_of_mem (@countSource_mem t hne none (by simp))
    simp [countSource, Table.withConstant, Array.getElem_push_lt hpos, Array.getElem?_eq_getElem hpos]
  | some f =>
    obtain ⟨c, hc⟩ := Option.isSome_iff_exists.1 (h f rfl)
    simp [countSource, hc, Table.find?_withConstant hc]

theorem Table.isEmpty_withConstant {t : Table} (hne : t.isEmpty = false) (k s : String) :
    (t.withConstant k s).isEmpty = false := by
  simp [Table.withConstant, Table.isEmpty] at hne ⊢
  exact hne.2

theorem Table.find?_withConstant_key {t : Table} {k : String} (hk : t.find? k = none) (s : String) :
    (t.withConstant k s).find? k = some ⟨.str k, .object, Array.replicate t.rowCount (.str s)⟩ := by
  simp only [Table.find?] at hk
  rw [Table.withConstant, Table.find?, Array.find?_push, hk, Option.none_or]
  simp [Column.named]

theorem groupRows_replicate {n : Nat} (hn : 0 < n) (label : Value) (s : String) :
    (groupRows n [⟨label, .object, Array.replicate n (.str s)⟩]).map (·.2) = [List.range n] :=
  KeyGroups.constant (s := s)
    (groupRows_text_key (fun v hv => Or.inr ⟨s, (Array.mem_replicate.1 hv).2⟩) n) hn
    fun i hi => by simp [Column.cell, Array.getD, hi]

/-- A counting aggregation taken over the whole column it reads, under its output name. -/
def Aggregate.countedColumn (t : Table) (a : Aggregate) : Column :=
  ⟨.str a.outName, a.summary.countedType, #[a.summary.counted (countSource t a.field).cells.toList]⟩

/-- Without `by`, counting aggregations give one row: each one's count of the whole column it
reads. -/
theorem stats_ungrouped_counting {t : Table} {aggs : List Aggregate} (hne : t.isEmpty = false)
    (hbound : ∀ a ∈ aggs, ((countSource t a.field).cells.size : Int) ≤ Seen.int64Max)
    (hsm : ∀ a ∈ aggs, Summary.ofName? a.function = some a.summary ∧ a.summary.Counting)
    (hcount : ∀ a ∈ aggs, a.field = none → a.summary = .count)
    (hfield : ∀ a ∈ aggs, ∀ f ∈ a.field, (t.find? f).isSome)
    (hnames : (aggs.map Aggregate.outName).Nodup) :
    Command.stats ⟨aggs, []⟩ t = .ok ⟨(aggs.map (Aggregate.countedColumn t)).toArray, #[.int 0]⟩ := by
  unfold Command.stats
  rw [List.mapM_ok (g := fun a => (a.outName, a.summary, a.field)) fun a ha => by
    simp [Aggregate.outName, (hsm a ha).1, pure, Except.pure]]
  simp only [hne, Bool.false_eq_true, ↓reduceIte, List.isEmpty_nil, bind, Except.bind,
    List.foldlM_map]
  rw [foldlM_row_fresh Aggregate.outName (Aggregate.countedColumn t)]
  · simp [Function.comp_def, Aggregate.countedColumn, pure, Except.pure]
  · intro a ha r hr
    have hnone : r.findIdx? (fun e => e.1 == a.outName) = none :=
      List.findIdx?_eq_none_iff.2 fun e he => by simpa using hr e he
    have hinfer := Column.infer_counted (hsm a ha).2 (.str a.outName)
      (by rw [Array.length_toList]; exact hbound a ha)
    simp only [Summary.whole_counting (hsm a ha).2, hnone]
    cases hf : a.field with
    | none =>
      simp only [hcount a ha hf, hf, Aggregate.countedColumn] at hinfer ⊢
      simpa [countSource, Summary.counted, pure, Except.pure] using hinfer
    | some f =>
      obtain ⟨c, hc⟩ := Option.isSome_iff_exists.1 (hfield a ha f hf)
      simp only [hf] at hinfer
      rcases (hsm a ha).2 with h | h | h <;> simp only [h, Aggregate.countedColumn, hf] at hinfer ⊢ <;>
        simpa [Command.columnNamed, hc, countSource, Summary.counted, pure, Except.pure] using hinfer
  · intro a _ e he
    simp at he
  · exact hnames

/-- By a key column of one text, counting aggregations give one row: the text, then each one's
count of the whole column it reads. -/
theorem stats_constant_key_counting {t : Table} {aggs : List Aggregate} {k s : String}
    (hne : t.isEmpty = false) (hsource : ∀ a ∈ aggs, (countSource t a.field).cells.size = t.rowCount)
    (hsm : ∀ a ∈ aggs, Summary.ofName? a.function = some a.summary ∧ a.summary.Counting)
    (hcount : ∀ a ∈ aggs, a.field = none → a.summary = .count)
    (hfield : ∀ a ∈ aggs, ∀ f ∈ a.field, (t.find? f).isSome)
    (hnames : (aggs.map Aggregate.outName).Nodup) (hk : t.find? k = none)
    (hfresh : ∀ a ∈ aggs, a.outName ≠ k) :
    Command.stats ⟨aggs, [k]⟩ (t.withConstant k s) =
      .ok ⟨#[⟨.str k, .object, #[.str s]⟩] ++ (aggs.map (Aggregate.countedColumn t)).toArray,
        #[.int 0]⟩ := by
  have hpos : 0 < t.rowCount := by
    simp only [Table.isEmpty, Bool.or_eq_false_iff] at hne
    exact Nat.pos_of_ne_zero fun h => by
      simp [Array.isEmpty] at hne
      exact hne.2 (Array.size_eq_zero_iff.1 h)
  have hgroups := groupRows_replicate hpos (.str k) s
  rw [stats_by_text_key (fun a => ⟨(countSource t a.field).label, a.summary.countedType,
      #[a.summary.counted (countSource t a.field).cells.toList]⟩)
    (Table.isEmpty_withConstant hne k s) (Table.find?_withConstant_key hk s)
    (fun v hv => Or.inr ⟨s, (Array.mem_replicate.1 hv).2⟩)
    (fun a ha => ⟨a.summary, (hsm a ha).1, hcount a ha, by
      rw [countSource_withConstant hne (hfield a ha),
        show (t.withConstant k s).rowCount = t.rowCount from rfl, hgroups]
      exact Summary.groups_counting (hsm a ha).2 (hsource a ha)⟩)
    (fun a ha f hf => by
      obtain ⟨c, hc⟩ := Option.isSome_iff_exists.1 (hfield a ha f hf)
      simp [Table.find?_withConstant hc])
    hnames hfresh, show (t.withConstant k s).rowCount = t.rowCount from rfl, hgroups]
  simp [Aggregate.countedColumn, Column.cell, Array.getD, hpos, Nat.pos_iff_ne_zero.1 hpos,
    List.head?_range, Table.rangeIndex, Array.range_succ, Array.range_eq_empty_iff.2 (rfl : (0 : Nat) = 0)]

/-- Without `by`, the counting summaries give what they give by a constant key column appended to
the table, once that column is dropped. -/
theorem stats_counting_ungrouped_eq_constant_key {t : Table} {aggs : List Aggregate} {k s : String}
    (hne : t.isEmpty = false) (hsize : ∀ c ∈ t.columns, c.cells.size = t.rowCount)
    (hrows : (t.rowCount : Int) ≤ Seen.int64Max)
    (hfun : ∀ a ∈ aggs, a.function ∈ ["count", "dc", "distinct_count", "values"])
    (hbare : ∀ a ∈ aggs, a.field = none → a.function = "count")
    (hfield : ∀ a ∈ aggs, ∀ f ∈ a.field, (t.find? f).isSome)
    (hnames : (aggs.map Aggregate.outName).Nodup) (hk : t.find? k = none)
    (hfresh : ∀ a ∈ aggs, a.outName ≠ k) :
    Command.stats ⟨aggs, []⟩ t = (Command.stats ⟨aggs, [k]⟩ (t.withConstant k s)).map fun out =>
      { out with columns := out.columns.filter fun c => !c.named k } := by
  have hsm : ∀ a ∈ aggs, Summary.ofName? a.function = some a.summary ∧ a.summary.Counting := by
    intro a ha
    have h := hfun a ha
    simp only [List.mem_cons, List.not_mem_nil, or_false] at h
    simp only [Aggregate.summary, Summary.Counting]
    rcases h with h | h | h | h <;> rw [h] <;> decide
  have hcount : ∀ a ∈ aggs, a.field = none → a.summary = .count := fun a ha hf => by
    simp only [Aggregate.summary, hbare a ha hf]
    rfl
  have hsource : ∀ a ∈ aggs, (countSource t a.field).cells.size = t.rowCount := fun a ha =>
    hsize _ (countSource_mem hne (hfield a ha))
  rw [stats_ungrouped_counting hne (fun a ha => by rw [hsource a ha]; exact hrows) hsm hcount hfield
      hnames, stats_constant_key_counting hne hsource hsm hcount hfield hnames hk hfresh]
  have hkeep : (aggs.map (Aggregate.countedColumn t)).filter (fun c => !c.named k) =
      aggs.map (Aggregate.countedColumn t) :=
    List.filter_eq_self.2 fun c hc => by
      obtain ⟨a, ha, rfl⟩ := List.mem_map.1 hc
      simpa [Aggregate.countedColumn, Column.named] using hfresh a ha
  have hkey : (⟨.str k, .object, #[.str s]⟩ : Column).named k = true := by simp [Column.named]
  simp [Except.map, hkeep, hkey]

theorem stats_counting_constant_key_two_rows :
    let t : Table := ⟨#[⟨.str "x", .object, #[.none, .str "u"]⟩], #[.int 0, .int 1]⟩
    let aggs : List Aggregate := [⟨"count", none, some "n"⟩, ⟨"values", some "x", none⟩]
    Command.stats ⟨aggs, []⟩ t = (Command.stats ⟨aggs, ["k"]⟩ (t.withConstant "k" "c")).map fun out =>
      { out with columns := out.columns.filter fun c => !c.named "k" } := by
  intro t aggs
  exact stats_counting_ungrouped_eq_constant_key (by decide +kernel) (by simp [t, Table.rowCount])
    (by simp [t, Table.rowCount, Seen.int64Max]) (by simp [aggs]) (by simp [aggs]) (by simp [aggs]; rfl)
    (by decide) rfl (by decide)

/-- `first` of a whole column fails, while the same aggregation by a constant key gives the first
value. -/
theorem stats_first_needs_groups :
    let t : Table := ⟨#[⟨.str "x", .int64, #[.int 1, .int 2]⟩], #[.int 0, .int 1]⟩
    let aggs : List Aggregate := [⟨"first", some "x", some "f"⟩]
    (Command.stats ⟨aggs, []⟩ t).toOption.isSome = false ∧
      Command.stats ⟨aggs, ["k"]⟩ (t.withConstant "k" "c") =
        .ok ⟨#[⟨.str "k", .object, #[.str "c"]⟩, ⟨.str "f", .int64, #[.int 1]⟩], #[.int 0]⟩ := by
  intro t aggs
  refine ⟨by decide +kernel, ?_⟩
  have hg : (groupRows (t.withConstant "k" "c").rowCount
      [⟨.str "k", .object, Array.replicate t.rowCount (.str "c")⟩]).map (·.2) = [[0, 1]] :=
    groupRows_replicate (n := 2) (by decide) _ _
  have hfirst : Summary.groups .first (countSource (t.withConstant "k" "c") (some "x")) [[0, 1]] =
      .ok ⟨.str "x", .int64, #[.int 1]⟩ := by
    simp [t, Table.withConstant, countSource, Table.find?, Summary.groups, Column.pick, Column.cell,
      Column.named, pure, Except.pure, Value.isMissing]
  rw [stats_by_text_key (fun _ => ⟨.str "x", .int64, #[.int 1]⟩) (by decide +kernel)
    (Table.find?_withConstant_key (t := t) rfl "c")
    (fun v hv => Or.inr ⟨"c", (Array.mem_replicate.1 hv).2⟩)
    (fun a ha => by
      simp only [aggs, List.mem_singleton] at ha
      subst ha
      exact ⟨.first, rfl, by simp, by rw [hg]; exact hfirst⟩)
    (by simp [aggs]; rfl) (by decide) (by decide), hg]
  simp [aggs, Aggregate.outName, Table.rangeIndex, Array.range_succ,
    Array.range_eq_empty_iff.2 (rfl : (0 : Nat) = 0), Column.cell, t, Table.rowCount]

end PipeQuery
