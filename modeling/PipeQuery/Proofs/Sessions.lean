import PipeQuery.Proofs.TimeFloor
import PipeQuery.Command.Transaction

/-!
# Sessions as maximal runs

`transaction` sorts the rows by owner and then by instant, groups the rows of each owner, and cuts
each group where the gap between two events exceeds the span. The cut is `List.splitBy`
(`cutSessions_eq_splitBy`), grouping the sorted rows is `List.splitBy` on equal owners
(`groupRows_of_sorted`), and for a column of texts and a column of instants the sort orders the
rows by the pair (`sortRows_sessionKey`).

So for an owner column of texts and a time column of instants, the rows of the answer are the
maximal runs of each owner's events in time order in which one event follows another at most the
span later (`sessions_split_owner_runs`): one row a run, with the owner, the first and last
instants, the seconds between them and the number of events, then every other column at the
run's first event (`sessions_runs_all_columns`), and as many events in all as rows with an owner.
The seconds are those `spanSeconds` counts: nanoseconds below a microsecond are
dropped (`spanSeconds_drops_nanoseconds`).
-/

namespace List

variable {α β : Type*}

theorem headD_mem_of_ne_nil {l : List α} (d : α) (h : l ≠ []) : l.headD d ∈ l := by
  obtain ⟨a, l, rfl⟩ := exists_cons_of_ne_nil h
  simp

theorem getLastD_map_cons (f : α → β) (a : α) (l : List α) (d : α) (d' : β) :
    ((a :: l).map f).getLastD d' = f ((a :: l).getLastD d) := by
  rw [getLastD_eq_getLast?, getLastD_eq_getLast?, getLast?_map,
    getLast?_eq_some_getLast (cons_ne_nil a l)]
  rfl

theorem find?_beq_of_mem [BEq α] [LawfulBEq α] {l : List α} {a : α} (h : a ∈ l) :
    l.find? (· == a) = some a := by
  obtain ⟨b, hb⟩ := Option.isSome_iff_exists.1 ((find?_isSome (p := (· == a))).2 ⟨a, h, beq_self_eq_true a⟩)
  have hba : b = a := by simpa using find?_some hb
  rw [hb, hba]

theorem mem_of_mem_splitBy {r : α → α → Bool} {l m : List α} {a : α} (hm : m ∈ l.splitBy r)
    (ha : a ∈ m) : a ∈ l := by
  rw [← flatten_splitBy r l]
  exact mem_flatten.2 ⟨m, hm, ha⟩

theorem pairwise_mergeSort_key {β : Type} [LinearOrder β] (f : α → β) (l : List α) :
    (l.mergeSort fun a b => decide (f a ≤ f b)).Pairwise fun a b => f a ≤ f b := by
  simpa using @pairwise_mergeSort _ (fun a b => decide (f a ≤ f b))
    (fun _ _ _ h₁ h₂ => by simpa using le_trans (by simpa using h₁) (by simpa using h₂))
    (fun a b => by simpa using le_total (f a) (f b)) l

theorem pairwise_mergeSort_le {β : Type} [LinearOrder β] (l : List β) :
    (l.mergeSort fun a b => decide (a ≤ b)).Pairwise (· ≤ ·) :=
  pairwise_mergeSort_key id l

/-- Splitting a list's images is splitting the list by the images' relation, where the two relations
agree on the list. -/
theorem splitBy_map_of_mem {g : α → β} {r : β → β → Bool} {r' : α → α → Bool} {l : List α}
    (h : ∀ a ∈ l, ∀ b ∈ l, r' a b = r (g a) (g b)) :
    (l.map g).splitBy r = (l.splitBy r').map (map g) := by
  rw [splitBy_eq_iff]
  refine ⟨by rw [← map_flatten, flatten_splitBy], by simp [nil_notMem_splitBy r' l],
    fun m hm => ?_, ?_⟩
  · obtain ⟨m₀, hm₀, rfl⟩ := mem_map.1 hm
    rw [isChain_map]
    refine (IsChain.iff_mem.1 (isChain_of_mem_splitBy hm₀)).imp fun a b hab => ?_
    obtain ⟨ha, hb, hab⟩ := hab
    rwa [← h a (mem_of_mem_splitBy hm₀ ha) b (mem_of_mem_splitBy hm₀ hb)]
  · rw [isChain_map]
    refine (IsChain.iff_mem.1 (isChain_getLast_head_splitBy r' l)).imp fun m m' hmm' => ?_
    obtain ⟨hm, hm', ha, hb, hab⟩ := hmm'
    refine ⟨by simpa using ha, by simpa using hb, ?_⟩
    rw [getLast_map, head_map, ← h _ (mem_of_mem_splitBy hm (getLast_mem _)) _
      (mem_of_mem_splitBy hm' (head_mem _))]
    exact hab

theorem splitBy_congr {r r' : α → α → Bool} {l : List α} (h : ∀ a ∈ l, ∀ b ∈ l, r a b = r' a b) :
    l.splitBy r = l.splitBy r' := by
  simpa using @splitBy_map_of_mem α α id r r' l fun a ha b hb => (h a ha b hb).symm

end List

namespace PipeQuery

/-! ### Cutting one owner's rows -/

/-- Row `j` continues the session of the row `i` before it: both have an instant and the second
comes at most `span` after the first. -/
def continues (span : Int) (instant : Nat → Option Int) (i j : Nat) : Bool :=
  match instant i, instant j with
  | some a, some b => decide (b - a ≤ span)
  | _, _ => false

theorem foldl_cut {span : Int} {instant : Nat → Option Int}
    {f : List (List Nat) × Nat → Nat → List (List Nat) × Nat}
    (hf : ∀ prev g gs j, f ((prev :: g) :: gs, prev) j =
      if continues span instant prev j then ((j :: prev :: g) :: gs, j)
      else ([j] :: (prev :: g) :: gs, j)) :
    ∀ (l : List Nat) (prev : Nat) (g : List Nat) (gs : List (List Nat)),
      ((l.foldl f ((prev :: g) :: gs.map List.reverse, prev)).1.map List.reverse).reverse =
        List.splitBy.loop (continues span instant) l prev g gs
  | [], prev, g, gs => by simp [List.splitBy.loop]
  | j :: l, prev, g, gs => by
    rw [List.foldl_cons, hf, List.splitBy.loop]
    cases continues span instant prev j
    · have h := foldl_cut hf l j [] ((prev :: g).reverse :: gs)
      rw [List.map_cons, List.reverse_reverse] at h
      exact h
    · exact foldl_cut hf l j (prev :: g) gs

theorem cutSessions_eq_splitBy (span : Int) (instant : Nat → Option Int) (rows : List Nat) :
    cutSessions span instant rows = rows.splitBy (continues span instant) := by
  cases rows with
  | nil => rfl
  | cons i rest =>
    simp only [cutSessions, List.splitBy]
    refine foldl_cut (fun prev g gs j => ?_) rest i [] []
    -- the fold opens a session exactly where `continues` fails
    simp only [continues]
    obtain hp | ⟨a, hp⟩ := (instant prev).eq_none_or_eq_some <;>
      obtain hj | ⟨b, hj⟩ := (instant j).eq_none_or_eq_some <;> simp [hp, hj]
    split_ifs <;> first | rfl | omega
/-! ### Ordering rows by a text and an instant -/

/-- A cell of a column of texts as a key: the text, or for a missing cell a place after every
text. -/
def textRank : Value → WithTop String
  | .str s => s
  | _ => ⊤

/-- The nanoseconds of an instant (`0` for any other value). -/
def instantNanos : Value → Int
  | .time ns => ns
  | _ => 0

def Value.TextOrNone (v : Value) : Prop := v = .none ∨ ∃ s, v = .str s

theorem textRank_inj {a b : Value} (ha : a.TextOrNone) (hb : b.TextOrNone) :
    textRank a = textRank b ↔ a = b := by
  rcases ha with rfl | ⟨s, rfl⟩ <;> rcases hb with rfl | ⟨s', rfl⟩ <;> simp [textRank]

/-- On texts and missing cells, `cellOrder` is the order of `textRank`. -/
theorem cellOrder_text {a b : Value} (ha : a.TextOrNone) (hb : b.TextOrNone) :
    (cellOrder true a b ≠ .gt ↔ textRank a ≤ textRank b) ∧
      (cellOrder true a b = .eq ↔ a = b) := by
  rcases ha with rfl | ⟨s, rfl⟩ <;> rcases hb with rfl | ⟨s', rfl⟩
  · simp [cellOrder, Value.isMissing]
  · simp [cellOrder, Value.isMissing, textRank]
  · simp [cellOrder, Value.isMissing, textRank]
  · simp only [cellOrder, Value.isMissing, Value.sortOrder, Value.kindRank, Value.num?,
      Value.order?, Value.atomOrder?, textRank, bne_self_eq_false, Bool.false_eq_true, if_false,
      Option.getD_some, if_true, and_self, WithTop.coe_le_coe, compare_le_iff_le, compare_eq_iff_eq, Value.str.injEq]

/-- On instants, `cellOrder` is the order of their nanoseconds. -/
theorem cellOrder_time (a b : Int) : cellOrder true (.time a) (.time b) ≠ .gt ↔ a ≤ b := by
  simp only [cellOrder, Value.isMissing, Value.sortOrder, Value.kindRank, Value.num?,
    Value.order?, Value.atomOrder?, bne_self_eq_false, Bool.false_eq_true, if_false,
    Option.getD_some, if_true, compare_le_iff_le]

theorem rowOrder_single (c : Column) (asc : Bool) (i j : Nat) :
    rowOrder [(c, asc)] i j = cellOrder asc (c.cell i) (c.cell j) := by
  simp only [rowOrder]
  split <;> simp_all

/-- The key a row sorts by under a column of texts and a column of instants: the text, then the
instant. -/
def sessionKey (owner clock : Column) (i : Nat) : WithTop String ×ₗ Int :=
  toLex (textRank (owner.cell i), instantNanos (clock.cell i))

/-- Ordering rows by a column of texts and then a column of instants is ordering them by
`sessionKey`. -/
theorem rowOrder_sessionKey {owner clock : Column} {i j : Nat} (hi : (owner.cell i).TextOrNone)
    (hj : (owner.cell j).TextOrNone) (ci : ∃ ns, clock.cell i = .time ns)
    (cj : ∃ ns, clock.cell j = .time ns) :
    rowOrder [(owner, true), (clock, true)] i j ≠ .gt ↔
      sessionKey owner clock i ≤ sessionKey owner clock j := by
  obtain ⟨a, ha⟩ := ci
  obtain ⟨b, hb⟩ := cj
  obtain ⟨hle, heq⟩ := cellOrder_text hi hj
  have hinj := textRank_inj hi hj
  unfold rowOrder
  rw [rowOrder_single, ha, hb, sessionKey, sessionKey, Prod.Lex.toLex_le_toLex, ha, hb]
  simp only [instantNanos]
  cases h : cellOrder true (owner.cell i) (owner.cell j) with
  | lt =>
    have hlt : textRank (owner.cell i) < textRank (owner.cell j) :=
      lt_of_le_of_ne (hle.1 (by simp [h])) fun e => by simp [heq.2 (hinj.1 e)] at h
    simp [hlt]
  | eq =>
    simp only [heq.1 h, lt_self_iff_false, true_and, false_or]
    exact cellOrder_time a b
  | gt =>
    have hgt : ¬textRank (owner.cell i) ≤ textRank (owner.cell j) := fun e => hle.2 e h
    simp only [ne_eq, not_true_eq_false, false_iff, not_or, not_and]
    exact ⟨fun e => hgt e.le, fun e => absurd e.le hgt⟩

theorem Column.cell_mem {c : Column} {i : Nat} (h : i < c.cells.size) : c.cell i ∈ c.cells := by
  simp [Column.cell, Array.getD, h]

theorem Column.cell_text {c : Column} (h : ∀ v ∈ c.cells, v.TextOrNone) (i : Nat) :
    (c.cell i).TextOrNone := by
  by_cases hi : i < c.cells.size
  · exact h _ (Column.cell_mem hi)
  · left
    simp [Column.cell, Array.getD, hi]

section Sorting

variable {owner clock : Column} {n : Nat}

/-- Ordering the first `n` rows by a column of texts and then a column of instants gives a
reordering of them sorted by `sessionKey`. -/
theorem sortRows_sessionKey (howner : ∀ v ∈ owner.cells, v.TextOrNone)
    (hclock : ∀ v ∈ clock.cells, ∃ ns, v = .time ns) (hn : n ≤ clock.cells.size) :
    ∃ rows : List Nat, sortRows true n [(owner, true), (clock, true)] = .ok rows.toArray ∧
      rows.Perm (List.range n) ∧
      rows.Pairwise fun i j => sessionKey owner clock i ≤ sessionKey owner clock j := by
  let le (i j : Nat) : Bool := rowOrder [(owner, true), (clock, true)] i j != .gt
  have hkey : ∀ i ∈ List.range n, ∀ j ∈ List.range n,
      le i j = decide (sessionKey owner clock i ≤ sessionKey owner clock j) := by
    intro i hi j hj
    rw [List.mem_range] at hi hj
    have := rowOrder_sessionKey (Column.cell_text howner i) (Column.cell_text howner j)
      (hclock _ (Column.cell_mem (by omega))) (hclock _ (Column.cell_mem (by omega)))
    simp only [le, ne_eq] at this ⊢
    rw [Bool.eq_iff_iff, decide_eq_true_iff, ← this]
    simp
  have hsorted := List.pairwise_mergeSort_le ((List.range n).map (sessionKey owner clock))
  rw [← List.map_mergeSort hkey, List.pairwise_map] at hsorted
  refine ⟨(List.range n).mergeSort le, ?_, List.mergeSort_perm _ _, by simpa using hsorted⟩
  simp only [sortRows, List.any_cons, List.any_nil, Bool.or_false, Bool.or_eq_true, Array.any_eq_true]
  rw [if_neg]
  · rfl
  rintro (⟨i, hi, h⟩ | ⟨i, hi, h⟩)
  · rcases howner _ (Array.getElem_mem hi) with h' | ⟨s, h'⟩ <;> simp [h'] at h
  · obtain ⟨ns, h'⟩ := hclock _ (Array.getElem_mem hi)
    simp [h'] at h

end Sorting

/-! ### Grouping sorted rows -/

/-- The loop of `groupRows` is that of `List.splitBy`: the open group reversed in front of the
closed ones. -/
theorem gather_eq_loop (keys : List Column) (key : Nat → List Value) :
    ∀ (l : List Nat) (prev : Nat) (g : List Nat) (gs : List (List Nat)),
      groupRows.gather keys key l ((key ((prev :: g).reverse.headD 0), prev :: g) ::
          gs.map fun grp => (key (grp.headD 0), grp.reverse)) =
        (List.splitBy.loop (fun a b => rowOrder (keys.map (·, true)) b a == .eq) l prev g gs).map
          fun grp => (key (grp.headD 0), grp)
  | [], prev, g, gs => by
    simp [groupRows.gather, List.splitBy.loop, List.map_reverse, Function.comp_def]
  | i :: l, prev, g, gs => by
    rw [groupRows.gather, List.splitBy.loop]
    simp only [List.headD_cons]
    by_cases h : (rowOrder (keys.map (·, true)) i prev == .eq) = true
    · simp only [h, ↓reduceIte]
      simpa using gather_eq_loop keys key l i (prev :: g) gs
    · simp only [Bool.not_eq_true] at h
      simp only [h, Bool.false_eq_true, ↓reduceIte]
      have h := gather_eq_loop keys key l i [] ((prev :: g).reverse :: gs)
      simp only [List.map_cons, List.reverse_reverse] at h
      simpa using h

theorem gather_eq_splitBy (keys : List Column) (key : Nat → List Value) (l : List Nat) :
    groupRows.gather keys key l [] =
      (l.splitBy fun a b => rowOrder (keys.map (·, true)) b a == .eq).map
        fun grp => (key (grp.headD 0), grp) := by
  cases l with
  | nil => simp [groupRows.gather]
  | cons p ps => simpa [groupRows.gather, List.splitBy] using gather_eq_loop keys key ps p [] []

/-- Grouping by one column: the present rows sorted by it, cut into runs of equal values, rows back
in order. -/
theorem groupRows_single (n : Nat) (c : Column) :
    groupRows n [c] = ((((List.range n).filter fun i => !(c.cell i).isMissing).mergeSort
      fun i j => rowOrder [(c, true)] i j != .gt).splitBy
        fun i j => rowOrder [(c, true)] j i == .eq).map
      fun g => ([c.cell (g.headD 0)], g.mergeSort fun a b => decide (a ≤ b)) := by
  unfold groupRows
  simp only [List.all_cons, List.all_nil, Bool.and_true, List.map_cons, List.map_nil]
  rw [gather_eq_splitBy]
  simp [Function.comp_def]

/-- Grouping rows already in order by one column: the maximal runs of equal values. -/
theorem groupRows_of_sorted {n : Nat} {c : Column}
    (hsorted : ((List.range n).filter fun i => !(c.cell i).isMissing).Pairwise
      fun i j => rowOrder [(c, true)] i j ≠ .gt) :
    groupRows n [c] = (((List.range n).filter fun i => !(c.cell i).isMissing).splitBy
      fun i j => rowOrder [(c, true)] j i == .eq).map fun g => ([c.cell (g.headD 0)], g) := by
  have hrun : ∀ g ∈ ((List.range n).filter fun i => !(c.cell i).isMissing).splitBy
      (fun i j => rowOrder [(c, true)] j i == .eq), g.mergeSort (fun a b => decide (a ≤ b)) = g := by
    intro g hg
    apply List.mergeSort_of_pairwise
    have hsub : g.Sublist ((List.range n).filter fun i => !(c.cell i).isMissing) := by
      simpa using List.sublist_flatten_of_mem hg
    have hlt : g.Pairwise (· < ·) := List.pairwise_lt_range.sublist (hsub.trans List.filter_sublist)
    exact hlt.imp fun h => by simpa using h.le
  rw [groupRows_single, List.mergeSort_of_pairwise (by simpa using hsorted)]
  exact List.map_congr_left fun g hg => congrArg (Prod.mk [c.cell (g.headD 0)]) (hrun g hg)

/-! ### Records of sessions -/

theorem sessionTable_rowCount (x : Sessions) (records : List (List (String × Value))) :
    (sessionTable x records).rowCount = records.length := by
  cases records <;> simp [sessionTable, Table.rowCount, Table.rangeIndex]

/-- The first five columns of the table of sessions: the five leading names, each with its value
in every record. -/
theorem sessionTable_leading (x : Sessions) {records : List (List (String × Value))}
    (h : records ≠ []) :
    (sessionTable x records).columns.toList.take 5 =
      [x.field, x.timeField, "_end_time", "duration", "event_count"].map fun n =>
        Column.infer (.str n) (records.map fun r => (r.lookup n).getD .none).toArray := by
  cases records with
  | nil => contradiction
  | cons r rs => simp [sessionTable]

/-- A name of none of the leading five that every record holds names a column of the table of
sessions, with each record's value. -/
theorem sessionTable_find? (x : Sessions) {γ : Type} {sp : List γ} (record : γ → List (String × Value))
    (V : γ → Value) {n : String} (hne : sp ≠ []) (hV : ∀ s ∈ sp, (record s).lookup n = some (V s))
    (hn : n ∉ [x.field, x.timeField, "_end_time", "duration", "event_count"]) :
    (sessionTable x (sp.map record)).find? n = some (Column.infer (.str n) (sp.map V).toArray) := by
  obtain ⟨s, ss, rfl⟩ := List.exists_cons_of_ne_nil hne
  obtain ⟨⟨k, v⟩, hv, hk⟩ := List.lookup_isSome_iff.1 (Option.isSome_of_eq_some (hV s (by simp)))
  obtain rfl : n = k := eq_of_beq hk
  have hnamed (m : String) (vs : Array Value) : (Column.infer (.str m) vs).named n = (m == n) := rfl
  simp only [List.map_cons, sessionTable, Table.find?, List.find?_toArray, List.find?_map,
    Function.comp_def, hnamed]
  rw [List.find?_beq_of_mem]
  · simp only [Option.map_some, List.map_map, hV s List.mem_cons_self, Option.getD_some]
    rw [List.map_congr_left (g := V) fun s hs => by
      rw [Function.comp_apply, hV s (List.mem_cons_of_mem _ hs), Option.getD_some]]
  · exact List.mem_append_right _ (List.mem_filter.2 ⟨List.mem_map.2 ⟨_, hv, rfl⟩, by simpa using hn⟩)

theorem putField_fresh {record : List (String × Value)} (name : String) (v : Value)
    (h : ∀ e ∈ record, e.1 ≠ name) : putField record name v = record ++ [(name, v)] := by
  have : record.findIdx? (·.1 == name) = none := by
    rw [List.findIdx?_eq_none_iff]
    intro e he
    simpa using h e he
  simp [putField, this]

theorem foldl_extend {γ : Type} (cols : List γ) (P : List (String × Value) → γ → Bool)
    (E : γ → String × Value) (r : List (String × Value)) :
    ∃ extra, cols.foldl (fun r c => if P r c then r else r ++ [E c]) r = r ++ extra := by
  induction cols generalizing r with
  | nil => exact ⟨[], by simp⟩
  | cons c cs ih =>
    by_cases hc : P r c
    · simpa [hc] using ih r
    · obtain ⟨extra, h⟩ := ih (r ++ [E c])
      exact ⟨E c :: extra, by simp [hc, h]⟩

theorem putField_ne {record : List (String × Value)} {name n : String} (v : Value) (hn : n ≠ name)
    (h : ∀ e ∈ record, e.1 ≠ n) : ∀ e ∈ putField record name v, e.1 ≠ n := by
  unfold putField
  split
  · exact fun e he => (List.mem_or_eq_of_mem_set he).elim (h e) fun he => he ▸ hn.symm
  · exact fun e he => (List.mem_append.1 he).elim (h e) fun he => List.mem_singleton.1 he ▸ hn.symm

/-- Extending a record by the fields of columns it lacks: the field of a name it lacks is that of
the first column of the name, when a column of that name is never passed over. -/
theorem lookup_foldl_extend {γ : Type} (P : List (String × Value) → γ → Bool)
    (N : γ → String) (V : γ → Value) {n : String}
    (hP : ∀ r c, N c = n → (∀ e ∈ r, e.1 ≠ n) → P r c = false) :
    ∀ (cols : List γ) (r : List (String × Value)), (∀ e ∈ r, e.1 ≠ n) →
      (cols.foldl (fun r c => if P r c then r else r ++ [(N c, V c)]) r).lookup n =
        (cols.find? (N · == n)).map V := by
  have hnone (r : List (String × Value)) (hr : ∀ e ∈ r, e.1 ≠ n) : r.lookup n = none :=
    List.lookup_eq_none_iff.2 fun p hp => bne_iff_ne.2 (hr p hp).symm
  intro cols
  induction cols with
  | nil => exact hnone
  | cons c cs ih =>
    intro r hr
    by_cases hc : N c = n
    · obtain ⟨extra, he⟩ := foldl_extend cs P (fun c => (N c, V c)) (r ++ [(N c, V c)])
      simp only [List.foldl_cons, hP r c hc hr, Bool.false_eq_true, ↓reduceIte]
      rw [he]
      simp [hc, List.lookup_append, hnone r hr]
    · have hr' : ∀ e ∈ r ++ [(N c, V c)], e.1 ≠ n := fun e he =>
        (List.mem_append.1 he).elim (hr e) fun he => List.mem_singleton.1 he ▸ hc
      simp only [List.foldl_cons, List.find?_cons, hc, beq_false_of_ne, ne_eq, not_false_eq_true]
      split
      · exact ih r hr
      · exact ih _ hr'

/-- The record of a session with instants `a :: as` begins with the owner, first and last instants,
their gap and the count. -/
theorem sessionRecord_leading {x : Sessions} (columns : Array Column)
    {instant : Nat → Option Int} (owner : Value) {session : List Nat} {a : Int} {as : List Int}
    (hnames : [x.field, x.timeField, "_end_time", "duration", "event_count"].Nodup)
    (hs : session.filterMap instant = a :: as) :
    ∃ extra, sessionRecord x columns instant owner session =
      [(x.field, owner), (x.timeField, .time (as.foldl min a)), ("_end_time", .time (as.foldl max a)),
        ("duration", .float (spanSeconds (as.foldl max a - as.foldl min a))),
        ("event_count", .int session.length)] ++ extra := by
  simp only [List.nodup_cons, List.mem_cons, List.not_mem_nil, or_false, not_or] at hnames
  obtain ⟨⟨h12, h13, h14, h15⟩, ⟨h23, h24, h25⟩, ⟨h34, h35⟩, h45, -⟩ := hnames
  unfold sessionRecord
  rw [hs]
  simp only [List.headD_cons, List.foldl_cons, min_self, max_self, List.isEmpty_cons,
    Bool.false_eq_true, ↓reduceIte]
  rw [putField_fresh x.timeField _ (by simp [h12]), putField_fresh "_end_time" _ (by simp [h13, h23]),
    putField_fresh "duration" _ (by simp [h14, h24, h34]),
    putField_fresh "event_count" _ (by simp [h15, h25, h35, h45]), ← Array.foldl_toList]
  exact foldl_extend _ _ _ _

/-- A record's field of a name none of the leading five nor the grouping's own is that of the first
column of the name at the session's first event. -/
theorem sessionRecord_lookup {x : Sessions} (columns : Array Column) (instant : Nat → Option Int)
    (owner : Value) (session : List Nat) {n : String}
    (hn : n ∉ [x.field, x.timeField, "_end_time", "duration", "event_count", "_time_diff",
      "_new_transaction", "_transaction_id"]) :
    (sessionRecord x columns instant owner session).lookup n =
      (columns.toList.find? (·.label.text == n)).map (·.cell (session.headD 0)) := by
  simp only [List.mem_cons, List.not_mem_nil, or_false, not_or] at hn
  obtain ⟨h1, h2, h3, h4, h5, h6, h7, h8⟩ := hn
  unfold sessionRecord
  dsimp only
  -- the leading fields are named alike whether the session has instants or not
  split
  all_goals
    rw [← Array.foldl_toList]
    refine lookup_foldl_extend _ _ _ (fun r c hc hr => by simpa [hc, h6, h7, h8] using hr) _ _ ?_
    exact putField_ne _ h5 (putField_ne _ h4 (putField_ne _ h3 (putField_ne _ h2
      (by simpa using Ne.symm h1))))

theorem Column.orderable_of_texts {c : Column} (h : ∀ v ∈ c.cells, v.TextOrNone) :
    c.orderable = true := by
  have hk : ∀ k ∈ (c.cells.filter (!·.isMissing)).map Value.kindRank, k = 1 := by
    intro k hk
    obtain ⟨v, hv, rfl⟩ := Array.mem_map.1 hk
    rcases h v (Array.mem_of_mem_filter hv) with rfl | ⟨s, rfl⟩
    · simp [Value.isMissing] at hv
    · rfl
  unfold Column.orderable
  dsimp only
  split
  · next k hget =>
    have := hk k (Array.mem_of_getElem? hget)
    subst this
    rw [Bool.and_eq_true, Array.all_eq_true_iff_forall_mem]
    exact ⟨fun k hk' => by simpa using hk k hk', rfl⟩
  · rfl

theorem Column.pick_cell {c : Column} {rows : List Nat} {p : Nat} (hp : p < rows.length) :
    (c.pick rows.toArray).cell p = c.cell (rows.getD p 0) := by
  simp [Column.pick, Column.cell, Array.getD, hp]

theorem map_getD_range (rows : List Nat) :
    (List.range rows.length).map (rows.getD · 0) = rows := by
  apply List.ext_getElem (by simp)
  intro i h1 h2
  simp [List.getElem?_eq_getElem h2]

theorem Value.same_text {a b : Value} (ha : a.TextOrNone) (hb : b.TextOrNone) :
    Value.same a b = decide (textRank a = textRank b) := by
  rcases ha with rfl | ⟨s, rfl⟩ <;> rcases hb with rfl | ⟨s', rfl⟩ <;> simp [Value.same, Value.num?, textRank]
  exact Bool.eq_iff_iff.2 (by simp)

theorem foldl_min_of_le {a : Int} : ∀ {as : List Int}, (∀ b ∈ as, a ≤ b) → as.foldl min a = a
  | [], _ => rfl
  | b :: bs, h => by
    rw [List.foldl_cons, min_eq_left (h b (by simp))]
    exact foldl_min_of_le fun c hc => h c (by simp [hc])

theorem foldl_max_of_sorted : ∀ {a : Int} {as : List Int}, (a :: as).Pairwise (· ≤ ·) →
    as.foldl max a = (a :: as).getLastD 0
  | _, [], _ => rfl
  | a, b :: bs, h => by
    rw [List.foldl_cons, max_eq_right (List.rel_of_pairwise_cons h (by simp))]
    simpa using foldl_max_of_sorted (List.Pairwise.of_cons h)

theorem isChain_eq_head {α β : Type} {f : α → β} (d : α) :
    ∀ {l : List α}, l.IsChain (fun a b => f a = f b) → ∀ a ∈ l, f a = f (l.headD d)
  | [], _, a, ha => by simp at ha
  | [b], _, a, ha => by simp_all
  | b :: c :: l, h, a, ha => by
    rw [List.isChain_cons_cons] at h
    rcases List.mem_cons.1 ha with rfl | ha
    · rfl
    · rw [List.headD_cons, h.1]
      exact isChain_eq_head d h.2 a ha

/-- The leading fields of a session's record whose instants are `h p`, in order. -/
theorem sessionRecord_run {x : Sessions} (columns : Array Column) {instant : Nat → Option Int}
    (owner : Value) {s : List Nat} {h : Nat → Int}
    (hnames : [x.field, x.timeField, "_end_time", "duration", "event_count"].Nodup)
    (hs : s ≠ []) (hinstant : ∀ p ∈ s, instant p = some (h p))
    (hsorted : (s.map h).Pairwise (· ≤ ·)) :
    ∃ extra, sessionRecord x columns instant owner s =
      [(x.field, owner), (x.timeField, .time (h (s.headD 0))),
        ("_end_time", .time (h (s.getLastD 0))),
        ("duration", .float (spanSeconds (h (s.getLastD 0) - h (s.headD 0)))),
        ("event_count", .int s.length)] ++ extra := by
  obtain ⟨p, ps, rfl⟩ := List.exists_cons_of_ne_nil hs
  have hstamps : (p :: ps).filterMap instant = h p :: ps.map h := by
    rw [← List.map_cons, ← List.filterMap_eq_map]
    exact List.filterMap_congr hinstant
  obtain ⟨extra, hrec⟩ := sessionRecord_leading columns owner hnames hstamps
  have hlast : ((p :: ps).map h).getLastD 0 = h ((p :: ps).getLastD 0) := by
    rw [List.getLastD_eq_getLast?, List.getLastD_eq_getLast?, List.getLast?_map,
      List.getLast?_eq_some_getLast (List.cons_ne_nil p ps)]
    rfl
  rw [List.map_cons] at hsorted hlast
  rw [hrec, foldl_min_of_le fun b hb => List.rel_of_pairwise_cons hsorted hb,
    foldl_max_of_sorted hsorted, hlast]
  exact ⟨extra, rfl⟩

/-! ### The command -/

theorem Table.has_of_find? {t : Table} {n : String} {c : Column} (h : t.find? n = some c) :
    t.has n = true := by
  obtain ⟨hn, i, hi, hci, -⟩ := Array.find?_eq_some_iff_getElem.1 h
  exact Array.any_eq_true.2 ⟨i, hi, by rw [hci]; exact hn⟩

theorem Column.toInstants_datetime {c : Column} (h : c.dtype = .datetime) :
    c.toInstants false none = .ok c := by
  simp [Column.toInstants, Column.toInstantsWith, h, pure, Except.pure]

theorem Table.put_find? {t : Table} {n : String} {c : Column} (h : t.find? n = some c) :
    t.put c = t := by
  obtain ⟨i, hi, hput⟩ := put_found h
  rw [hput c rfl]
  obtain ⟨hlt, rfl⟩ := Array.getElem?_eq_some_iff.1 hi
  simp [Array.set!_eq_setIfInBounds, Array.setIfInBounds, hlt]

theorem Table.find?_pick (t : Table) (rows : Array Nat) (n : String) :
    (t.pick rows).find? n = (t.find? n).map (·.pick rows) := by
  simp [Table.find?, Table.pick, Array.find?_map, Function.comp_def, Column.pick, Column.named]

section Command

variable {x : Sessions} {t : Table} {owner clock : Column} {f : Fault} {span : Int}

/-- With its checks passed, `transaction` is the table of the records of the sessions of the
sorted rows. -/
theorem sessions_eq_sessionTable (hne : t.isEmpty = false) (hfield : x.field.isEmpty = false)
    (ho : t.find? x.field = some owner) (hc : t.find? x.timeField = some clock)
    (hdt : clock.dtype = .datetime) (howner : ∀ v ∈ owner.cells, v.TextOrNone)
    (hspan : spanNanos f x.maxspan = .ok span) {rows : List Nat}
    (hsort : sortRows true t.rowCount [(owner, true), (clock, true)] = .ok rows.toArray) :
    Command.sessions x t = .ok (sessionTable x
      ((groupRows rows.length [owner.pick rows.toArray]).flatMap fun (key, g) =>
        (cutSessions span (clock.pick rows.toArray).instantAt g).map
          (sessionRecord x (t.pick rows.toArray).columns (clock.pick rows.toArray).instantAt
            (key.headD .none)))) := by
  simp only [Command.sessions, hne, hfield, ho, Table.has_of_find? hc, hc, Option.getD_some,
    Column.toInstants_datetime hdt, Table.put_find? hc, Column.orderable_of_texts howner,
    Table.sortBy, hsort, (spanNanos_ok hspan _).1, Table.find?_pick, Bool.false_eq_true,
    ↓reduceIte, Bool.not_true, bind, Except.bind, pure, Except.pure, List.filterMap_cons,
    List.filterMap_nil, Option.map_some]
  simp [Table.pick, Table.rowCount]

/-- The positions of rows sorted by `sessionKey`: a later position holds a row with a key at least
as large. -/
theorem sessionKey_le_of_lt {owner clock : Column} {rows : List Nat}
    (hkey : rows.Pairwise fun i j => sessionKey owner clock i ≤ sessionKey owner clock j)
    {p q : Nat} (hpq : p < q) (hq : q < rows.length) :
    sessionKey owner clock (rows.getD p 0) ≤ sessionKey owner clock (rows.getD q 0) := by
  rw [List.pairwise_iff_getElem] at hkey
  simpa [List.getElem?_eq_getElem hq, List.getElem?_eq_getElem (hpq.trans hq)] using
    hkey p q (hpq.trans hq) hq hpq

theorem sessionKey_owner_le {owner clock : Column} {i j : Nat}
    (h : sessionKey owner clock i ≤ sessionKey owner clock j) :
    textRank (owner.cell i) ≤ textRank (owner.cell j) := by
  rcases Prod.Lex.toLex_le_toLex.1 h with h | ⟨h, -⟩
  · exact h.le
  · exact h.le

theorem sessionKey_time_le {owner clock : Column} {i j : Nat}
    (h : sessionKey owner clock i ≤ sessionKey owner clock j)
    (heq : textRank (owner.cell i) = textRank (owner.cell j)) :
    instantNanos (clock.cell i) ≤ instantNanos (clock.cell j) := by
  rcases Prod.Lex.toLex_le_toLex.1 h with h | ⟨-, h⟩
  · exact absurd heq (ne_of_lt h)
  · exact h

/-- The sessions of rows in order: rows with an owner, cut where the owner changes or the gap
exceeds `span`. -/
def sessionRuns (owner clock : Column) (span : Int) (rows : List Nat) : List (List Nat) :=
  ((rows.filter fun i => !(owner.cell i).isMissing).splitBy
      fun i j => Value.same (owner.cell i) (owner.cell j)).flatMap
    (·.splitBy fun i j => decide (instantNanos (clock.cell j) - instantNanos (clock.cell i) ≤ span))

/-- The leading columns of a table of sessions: owner, first and last instants, the seconds between
them, the count. -/
def sessionColumns (x : Sessions) (owner clock : Column) (ss : List (List Nat)) : List Column :=
  [Column.infer (.str x.field) (ss.map fun r => owner.cell (r.headD 0)).toArray,
    Column.infer (.str x.timeField) (ss.map fun r => clock.cell (r.headD 0)).toArray,
    Column.infer (.str "_end_time") (ss.map fun r => clock.cell (r.getLastD 0)).toArray,
    Column.infer (.str "duration") (ss.map fun r => .float (spanSeconds
      (instantNanos (clock.cell (r.getLastD 0)) - instantNanos (clock.cell (r.headD 0))))).toArray,
    Column.infer (.str "event_count") (ss.map fun r => .int r.length).toArray]

/-- The leading fields of the record of the session of rows `r`. -/
def sessionLead (x : Sessions) (owner clock : Column) (r : List Nat) : List (String × Value) :=
  [(x.field, owner.cell (r.headD 0)), (x.timeField, clock.cell (r.headD 0)),
    ("_end_time", clock.cell (r.getLastD 0)),
    ("duration", .float (spanSeconds (instantNanos (clock.cell (r.getLastD 0)) -
      instantNanos (clock.cell (r.headD 0))))),
    ("event_count", .int r.length)]

/-- The sessions hold exactly the rows with an owner, in order. -/
theorem flatten_sessionRuns (owner clock : Column) (span : Int) (rows : List Nat) :
    (sessionRuns owner clock span rows).flatten = rows.filter fun i => !(owner.cell i).isMissing := by
  simp only [sessionRuns, List.flatMap_def, List.flatten_flatten]
  simp [Function.comp_def]

/-- In a group of rows of equal texts, every row holds the text of the group's first row. -/
theorem cell_eq_head_of_mem_splitBy {o : Column} (htext : ∀ v ∈ o.cells, v.TextOrNone)
    {l g : List Nat} (hg : g ∈ l.splitBy fun p q => Value.same (o.cell p) (o.cell q)) :
    ∀ p ∈ g, o.cell p = o.cell (g.headD 0) :=
  isChain_eq_head 0 ((List.IsChain.iff_mem.1 (List.isChain_of_mem_splitBy hg)).imp fun a b hab => by
    have := hab.2.2
    rwa [Value.same_text (Column.cell_text htext a) (Column.cell_text htext b), decide_eq_true_iff,
      textRank_inj (Column.cell_text htext a) (Column.cell_text htext b)] at this)

/-- A session is a nonempty run of the rows taken in order, all of one owner. -/
theorem mem_sessionRuns {owner clock : Column} {span : Int} {rows s : List Nat}
    (htext : ∀ v ∈ owner.cells, v.TextOrNone) (hs : s ∈ sessionRuns owner clock span rows) :
    s ≠ [] ∧ s.Sublist rows ∧ ∀ p ∈ s, owner.cell p = owner.cell (s.headD 0) := by
  obtain ⟨g, hg, hs⟩ := List.mem_flatMap.1 hs
  have hsub : s.Sublist rows := (List.sublist_flatten_of_mem hs).trans
    (by simpa using (List.sublist_flatten_of_mem hg).trans (by simp))
  have hne := List.ne_nil_of_mem_splitBy hs
  refine ⟨hne, hsub, fun p hp => ?_⟩
  rw [cell_eq_head_of_mem_splitBy htext hg p (List.mem_of_mem_splitBy hs hp),
    cell_eq_head_of_mem_splitBy htext hg _ (List.mem_of_mem_splitBy hs (List.headD_mem_of_ne_nil 0 hne))]

/-- Taking the rows `rows` in order, the sessions of their positions are, row for row, the sessions
of the rows. -/
theorem sessionRuns_pick (owner clock : Column) (span : Int) (rows : List Nat) :
    (sessionRuns (owner.pick rows.toArray) (clock.pick rows.toArray) span
      (List.range rows.length)).map (List.map (rows.getD · 0)) = sessionRuns owner clock span rows := by
  have hcell : ∀ (c : Column) (p : Nat), p ∈ List.range rows.length →
      (c.pick rows.toArray).cell p = c.cell (rows.getD p 0) :=
    fun c p hp => Column.pick_cell (List.mem_range.1 hp)
  set present := (List.range rows.length).filter
    fun p => !((owner.pick rows.toArray).cell p).isMissing
  have hin : ∀ p ∈ present, p ∈ List.range rows.length := fun p hp => (List.mem_filter.1 hp).1
  have hmap : present.map (rows.getD · 0) = rows.filter fun i => !(owner.cell i).isMissing := by
    conv_rhs => rw [← map_getD_range rows, List.filter_map]
    exact congrArg _ (List.filter_congr fun p hp => by simp [hcell owner p hp])
  have hown : (present.map (rows.getD · 0)).splitBy
      (fun i j => Value.same (owner.cell i) (owner.cell j)) = (present.splitBy fun p q =>
        Value.same ((owner.pick rows.toArray).cell p) ((owner.pick rows.toArray).cell q)).map
          (List.map (rows.getD · 0)) :=
    List.splitBy_map_of_mem fun p hp q hq => by rw [hcell owner p (hin p hp), hcell owner q (hin q hq)]
  unfold sessionRuns
  rw [← hmap, hown, List.flatMap_map, List.map_flatMap]
  refine List.flatMap_congr fun g hg => (List.splitBy_map_of_mem fun p hp q hq => ?_).symm
  rw [hcell clock p (hin p (List.mem_of_mem_splitBy hg hp)),
    hcell clock q (hin q (List.mem_of_mem_splitBy hg hq))]

/-- Over rows sorted by a text column, `transaction`'s records are those of the rows' sessions. -/
theorem sessionRecords_of_sorted {γ : Type} {o c : Column} {n : Nat} {span : Int}
    (record : Value → List Nat → γ) (htext : ∀ v ∈ o.cells, v.TextOrNone)
    (hinst : ∀ p < n, c.instantAt p = some (instantNanos (c.cell p)))
    (hsorted : ((List.range n).filter fun i => !(o.cell i).isMissing).Pairwise
      fun i j => rowOrder [(o, true)] i j ≠ .gt) :
    ((groupRows n [o]).flatMap fun (key, g) =>
        (cutSessions span c.instantAt g).map (record (key.headD .none))) =
      (sessionRuns o c span (List.range n)).map fun s => record (o.cell (s.headD 0)) s := by
  set present := (List.range n).filter fun i => !(o.cell i).isMissing
  have hlt : ∀ p ∈ present, p < n := fun p hp => by simpa using (List.mem_filter.1 hp).1
  -- on present rows, the grouping relation is equality of owners and the cut is the gap
  have hsame : present.splitBy (fun p q => rowOrder [(o, true)] q p == .eq) =
      present.splitBy fun p q => Value.same (o.cell p) (o.cell q) :=
    List.splitBy_congr fun p _ q _ => by
      have htp := Column.cell_text htext p
      have htq := Column.cell_text htext q
      rw [rowOrder_single, Value.same_text htp htq, Bool.eq_iff_iff, beq_iff_eq,
        decide_eq_true_iff, (cellOrder_text htq htp).2, textRank_inj htp htq]
      exact eq_comm
  rw [groupRows_of_sorted hsorted, List.flatMap_map, hsame, sessionRuns, List.map_flatMap]
  refine List.flatMap_congr fun g hg => ?_
  have hgap : g.splitBy (continues span c.instantAt) = g.splitBy fun i j =>
      decide (instantNanos (c.cell j) - instantNanos (c.cell i) ≤ span) :=
    List.splitBy_congr fun p hp q hq => by
      simp only [continues, hinst p (hlt p (List.mem_of_mem_splitBy hg hp)),
        hinst q (hlt q (List.mem_of_mem_splitBy hg hq))]
  simp only [cutSessions_eq_splitBy, List.headD_cons, hgap]
  refine List.map_congr_left fun s hs => ?_
  have hs0 : s.headD 0 ∈ g :=
    List.mem_of_mem_splitBy hs (List.headD_mem_of_ne_nil 0 (List.ne_nil_of_mem_splitBy hs))
  rw [cell_eq_head_of_mem_splitBy htext hg _ hs0]

/-- The leading fields of a session's record are those of its rows, when their instants come in
order. -/
theorem sessionRecord_lead {x : Sessions} {owner clock : Column} (columns : Array Column)
    {rows s : List Nat} (hnames : [x.field, x.timeField, "_end_time", "duration", "event_count"].Nodup)
    (hs : s ≠ []) (hin : ∀ p ∈ s, p < rows.length)
    (htime : ∀ p ∈ s, clock.cell (rows.getD p 0) = .time (instantNanos (clock.cell (rows.getD p 0))))
    (hsorted : (s.map fun p => instantNanos (clock.cell (rows.getD p 0))).Pairwise (· ≤ ·)) :
    ∃ extra, sessionRecord x columns (clock.pick rows.toArray).instantAt
        (owner.cell (rows.getD (s.headD 0) 0)) s = sessionLead x owner clock (s.map (rows.getD · 0)) ++ extra := by
  have hinst : ∀ p ∈ s, (clock.pick rows.toArray).instantAt p =
      some (instantNanos (clock.cell (rows.getD p 0))) := fun p hp => by
    rw [Column.instantAt, Column.pick_cell (hin p hp), htime p hp]
    rfl
  obtain ⟨extra, he⟩ := sessionRecord_run columns (owner.cell (rows.getD (s.headD 0) 0)) hnames hs
    hinst hsorted
  refine ⟨extra, he.trans ?_⟩
  obtain ⟨p, ps, rfl⟩ := List.exists_cons_of_ne_nil hs
  have hlast : (p :: ps).getLastD 0 ∈ p :: ps := by
    rw [List.getLastD_cons]
    exact List.getLastD_mem_cons
  rw [sessionLead, List.getLastD_map_cons _ p ps 0 0]
  simp only [List.map_cons, List.headD_cons]
  rw [htime p (by simp), htime _ hlast]
  simp [instantNanos]

/-- The first five columns of the table of records that each begin with the leading fields of
their session. -/
theorem sessionTable_sessionColumns {x : Sessions} {owner clock : Column} {γ : Type} {sp : List γ}
    (record : γ → List (String × Value)) (rows : γ → List Nat)
    (hnames : [x.field, x.timeField, "_end_time", "duration", "event_count"].Nodup) (hne : sp ≠ [])
    (hlead : ∀ s ∈ sp, ∃ extra, record s = sessionLead x owner clock (rows s) ++ extra) :
    (sessionTable x (sp.map record)).columns.toList.take 5 =
      sessionColumns x owner clock (sp.map rows) := by
  rw [sessionTable_leading x (by simpa using hne)]
  have hcol : ∀ n ∈ [x.field, x.timeField, "_end_time", "duration", "event_count"],
      (sp.map record).map (fun r => (r.lookup n).getD .none) =
        (sp.map rows).map fun r => ((sessionLead x owner clock r).lookup n).getD .none := by
    intro n hn
    rw [List.map_map, List.map_map]
    refine List.map_congr_left fun s hs => ?_
    obtain ⟨extra, he⟩ := hlead s hs
    have hsome : ((sessionLead x owner clock (rows s)).lookup n).isSome := by
      rw [List.lookup_isSome_iff]
      simp only [List.mem_cons, List.not_mem_nil, or_false] at hn
      rcases hn with rfl | rfl | rfl | rfl | rfl <;> simp [sessionLead]
    simp only [Function.comp_apply, he, List.lookup_append, Option.or_of_isSome hsome]
  rw [List.map_congr_left fun n hn => congrArg (fun vs => Column.infer (.str n) vs.toArray)
    (hcol n hn)]
  simp only [List.nodup_cons, List.mem_cons, List.not_mem_nil, or_false, not_or] at hnames
  obtain ⟨⟨h12, h13, h14, h15⟩, ⟨h23, h24, h25⟩, ⟨h34, h35⟩, h45, -⟩ := hnames
  simp [sessionLead, sessionColumns, List.lookup_cons, beq_false_of_ne (Ne.symm h12),
    beq_false_of_ne (Ne.symm h13), beq_false_of_ne (Ne.symm h14), beq_false_of_ne (Ne.symm h15),
    beq_false_of_ne (Ne.symm h23), beq_false_of_ne (Ne.symm h24), beq_false_of_ne (Ne.symm h25)]

/-- `transaction` over an owner column of texts and a time column of instants: one row per session
of the rows sorted by owner and instant, its first five columns the session's owner, first and last
instants, their gap and count, and each other column of the input at the session's first event. -/
theorem sessions_runs_all_columns (hne : t.isEmpty = false) (hfield : x.field.isEmpty = false)
    (ho : t.find? x.field = some owner) (hc : t.find? x.timeField = some clock)
    (hdt : clock.dtype = .datetime) (howner : ∀ v ∈ owner.cells, v.TextOrNone)
    (hclock : ∀ v ∈ clock.cells, ∃ ns, v = .time ns) (hn : t.rowCount ≤ clock.cells.size)
    (hnames : [x.field, x.timeField, "_end_time", "duration", "event_count"].Nodup)
    (hspan : spanNanos f x.maxspan = .ok span) :
    ∃ rows : List Nat, rows.Perm (List.range t.rowCount) ∧
      rows.Pairwise (fun i j => sessionKey owner clock i ≤ sessionKey owner clock j) ∧
      ((sessionRuns owner clock span rows).map List.length).sum =
        ((List.range t.rowCount).filter fun i => !(owner.cell i).isMissing).length ∧
      ∃ out, Command.sessions x t = .ok out ∧ out.rowCount = (sessionRuns owner clock span rows).length ∧
        (sessionRuns owner clock span rows ≠ [] →
          out.columns.toList.take 5 = sessionColumns x owner clock (sessionRuns owner clock span rows) ∧
          ∀ n c, t.columns.toList.find? (·.label.text == n) = some c →
            n ∉ [x.field, x.timeField, "_end_time", "duration", "event_count", "_time_diff",
              "_new_transaction", "_transaction_id"] →
            out.find? n = some (Column.infer (.str n)
              ((sessionRuns owner clock span rows).map fun s => c.cell (s.headD 0)).toArray)) := by
  obtain ⟨rows, hsort, hperm, hkey⟩ := sortRows_sessionKey howner hclock hn
  refine ⟨rows, hperm, hkey, ?_⟩
  have htime : ∀ p < rows.length, clock.cell (rows.getD p 0) =
      .time (instantNanos (clock.cell (rows.getD p 0))) := by
    intro p hp
    have hrow : rows.getD p 0 < t.rowCount :=
      List.mem_range.1 (hperm.subset (by simp [List.getElem?_eq_getElem hp]))
    obtain ⟨ns, h⟩ := hclock _ (Column.cell_mem (show rows.getD p 0 < clock.cells.size by omega))
    rw [h]
    rfl
  have htext : ∀ v ∈ (owner.pick rows.toArray).cells, v.TextOrNone := fun v hv => by
    obtain ⟨i, -, rfl⟩ := Array.mem_map.1 hv
    exact Column.cell_text howner i
  have hinst : ∀ p < rows.length, (clock.pick rows.toArray).instantAt p =
      some (instantNanos ((clock.pick rows.toArray).cell p)) := fun p hp => by
    rw [Column.instantAt, Column.pick_cell hp, htime p hp]
    rfl
  have hsorted : ((List.range rows.length).filter
      fun p => !((owner.pick rows.toArray).cell p).isMissing).Pairwise
        fun p q => rowOrder [(owner.pick rows.toArray, true)] p q ≠ .gt := by
    refine (List.pairwise_lt_range.sublist List.filter_sublist).imp_of_mem fun {p q} _ hq hpq => ?_
    have hq' : q < rows.length := List.mem_range.1 (List.mem_filter.1 hq).1
    rw [rowOrder_single, Column.pick_cell (hpq.trans hq'), Column.pick_cell hq']
    exact (cellOrder_text (Column.cell_text howner _) (Column.cell_text howner _)).1.2
      (sessionKey_owner_le (sessionKey_le_of_lt hkey hpq hq'))
  have hout := sessions_eq_sessionTable hne hfield ho hc hdt howner hspan hsort
  rw [sessionRecords_of_sorted _ htext hinst hsorted] at hout
  refine ⟨?_, _, hout, ?_, fun hss0 => ⟨?_, fun n c hcol hother => ?_⟩⟩
  · -- the sessions hold the rows with an owner
    rw [← List.length_flatten, flatten_sessionRuns, (hperm.filter _).length_eq]
  · rw [sessionTable_rowCount, ← sessionRuns_pick owner clock span rows, List.length_map,
      List.length_map]
  all_goals rw [← sessionRuns_pick owner clock span rows] at hss0 ⊢
  · refine sessionTable_sessionColumns _ _ hnames (by simpa using hss0) fun s hs => ?_
    -- a session is a run of positions in order, all of one owner, so its instants are in order
    obtain ⟨hs0, hsub, hsame⟩ := mem_sessionRuns htext hs
    have hin : ∀ p ∈ s, p < rows.length := fun p hp => List.mem_range.1 (hsub.subset hp)
    rw [Column.pick_cell (hin _ (List.headD_mem_of_ne_nil 0 hs0))]
    refine sessionRecord_lead _ hnames hs0 hin (fun p hp => htime p (hin p hp))
      (List.pairwise_map.2 ?_)
    refine (List.pairwise_lt_range.sublist hsub).imp_of_mem fun {p q} hp hq hpq =>
      sessionKey_time_le (sessionKey_le_of_lt hkey hpq (hin q hq)) ?_
    rw [← Column.pick_cell (hin p hp), ← Column.pick_cell (hin q hq), hsame p hp, hsame q hq]
  · -- each record holds the other column's cell at its session's first row
    rw [List.map_map]
    refine sessionTable_find? x _ _ (by simpa using hss0) (fun s hs => ?_) (by simp_all)
    obtain ⟨hs0, hsub, -⟩ := mem_sessionRuns htext hs
    obtain ⟨p, ps, rfl⟩ := List.exists_cons_of_ne_nil hs0
    have hp : p < rows.length := List.mem_range.1 (hsub.subset (by simp))
    have hpick : (t.pick rows.toArray).columns.toList.find? (·.label.text == n) =
        some (c.pick rows.toArray) := by
      simp [Table.pick, List.find?_map, Column.pick, hcol]
    rw [sessionRecord_lookup _ _ _ _ hother, hpick, Option.map_some, Function.comp_apply,
      List.map_cons, List.headD_cons, List.headD_cons, Column.pick_cell hp]

/-- `transaction` over an owner column of texts and a time column of instants sorts the rows by
owner and instant, cuts the events with an owner where the owner changes or the gap exceeds the
span, and gives one row per piece: owner, first and last instants, their gap and the count. The
pieces hold every event with an owner. -/
theorem sessions_split_owner_runs {x : Sessions} {t : Table} {owner clock : Column} {f : Fault}
    {span : Int} (hne : t.isEmpty = false) (hfield : x.field.isEmpty = false)
    (ho : t.find? x.field = some owner) (hc : t.find? x.timeField = some clock)
    (hdt : clock.dtype = .datetime) (howner : ∀ v ∈ owner.cells, v.TextOrNone)
    (hclock : ∀ v ∈ clock.cells, ∃ ns, v = .time ns) (hn : t.rowCount ≤ clock.cells.size)
    (hnames : [x.field, x.timeField, "_end_time", "duration", "event_count"].Nodup)
    (hspan : spanNanos f x.maxspan = .ok span) :
    ∃ rows : List Nat, rows.Perm (List.range t.rowCount) ∧
      rows.Pairwise (fun i j => sessionKey owner clock i ≤ sessionKey owner clock j) ∧
      ((sessionRuns owner clock span rows).map List.length).sum =
        ((List.range t.rowCount).filter fun i => !(owner.cell i).isMissing).length ∧
      ∃ out, Command.sessions x t = .ok out ∧ out.rowCount = (sessionRuns owner clock span rows).length ∧
        (sessionRuns owner clock span rows ≠ [] →
          out.columns.toList.take 5 = sessionColumns x owner clock (sessionRuns owner clock span rows)) := by
  obtain ⟨rows, hperm, hkey, hsum, out, hout, hcount, hcols⟩ :=
    sessions_runs_all_columns hne hfield ho hc hdt howner hclock hn hnames hspan
  exact ⟨rows, hperm, hkey, hsum, out, hout, hcount, fun hss0 => (hcols hss0).1⟩

/-- Two events of one owner 4 ns apart form one session, the hypotheses of
`sessions_split_owner_runs` checked on a table of two rows. -/
theorem sessions_split_owner_runs_two_events :
    let x : Sessions := { field := "user", maxspan := "1h" }
    let owner : Column := ⟨.str "user", .object, #[.str "a", .str "a"]⟩
    let clock : Column := ⟨.str "_time", .datetime, #[.time 0, .time 4]⟩
    let t : Table := ⟨#[clock, owner], #[.int 0, .int 1]⟩
    ∃ rows : List Nat, rows.Perm (List.range t.rowCount) ∧
      rows.Pairwise (fun i j => sessionKey owner clock i ≤ sessionKey owner clock j) ∧
      ((sessionRuns owner clock 3600000000000 rows).map List.length).sum =
        ((List.range t.rowCount).filter fun i => !(owner.cell i).isMissing).length ∧
      ∃ out, Command.sessions x t = .ok out ∧
        out.rowCount = (sessionRuns owner clock 3600000000000 rows).length ∧
        (sessionRuns owner clock 3600000000000 rows ≠ [] → out.columns.toList.take 5 =
          sessionColumns x owner clock (sessionRuns owner clock 3600000000000 rows)) := by
  intro x owner clock t
  have hspan : (spanNanos (.invalid "") "1h").toOption = some 3600000000000 := by decide +kernel
  exact sessions_split_owner_runs (f := .invalid "") (by decide +kernel) (by decide +kernel) rfl rfl
    rfl (by simp [owner, Value.TextOrNone]) (by simp [clock]) (by decide +kernel) (by decide +kernel)
    (by revert hspan; cases spanNanos (.invalid "") "1h" <;> simp [Except.toOption])

/-- A session whose events are 4 ns apart lasts as long as one of a single instant: the seconds of
a session drop what is below a microsecond. -/
theorem spanSeconds_drops_nanoseconds : spanSeconds 4 = spanSeconds 0 := rfl

end Command

end PipeQuery
