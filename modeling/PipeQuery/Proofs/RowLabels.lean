import PipeQuery.Service
import Mathlib.Data.List.Basic

/-!
# Rows stay labelled `0, 1, …, n - 1`

Tables are read in with their rows labelled `0, 1, …` (`Table.Ranged`), and every command keeps it
so, whether it relabels its rows, gives its input's labels back, or keeps a prefix of them.

Main statement (`rows_stay_ranged`): from a ranged catalog every command, at any depth of
subqueries, gives a ranged table and leaves the catalog ranged, whether it succeeds or fails. The
invariant is carried by `Outcome.Sat` and `Run.Keeps`, with rules for `pure` and `bind`, one lemma
per command and induction on the depth (`Step.run_keeps`); `Probe.Steady` shows that a condition
never writes the row labels.
-/

namespace PipeQuery

/-- The rows are labelled `0, 1, …, n - 1`, `n` the number of rows. -/
def Table.Ranged (t : Table) : Prop := t.index = Table.rangeIndex t.rowCount

/-- Every table stored in the catalog has its rows labelled `0, 1, …`. -/
def Catalog.Ranged (c : Catalog) : Prop := ∀ e ∈ c.entries.toList, e.2.Ranged

/-- Every value the outcome succeeds with satisfies `P`. -/
def Outcome.Sat {α : Type} (P : α → Prop) (x : Outcome α) : Prop := ∀ a, x = .ok a → P a

namespace Outcome

variable {α β : Type} {P : α → Prop}

@[simp] theorem sat_pure {a : α} : Sat P (pure a) ↔ P a :=
  ⟨fun h => h a rfl, fun h _ e => by cases e; exact h⟩

@[simp] theorem sat_throw {e : Fault} : Sat P (throw e) ↔ True :=
  ⟨fun _ => trivial, fun _ _ e => by cases e⟩

@[simp] theorem sat_ok {a : α} : Sat P (.ok a) ↔ P a := sat_pure

@[simp] theorem sat_error {e : Fault} : Sat P (.error e) ↔ True := sat_throw

@[simp] theorem sat_bind {x : Outcome β} {f : β → Outcome α} :
    Sat P (x >>= f) ↔ Sat (fun b => Sat P (f b)) x := by
  constructor
  · intro h b hb a ha
    exact h a (by rw [hb]; exact ha)
  · intro h a ha
    cases hx : x with
    | error e => rw [hx] at ha; cases ha
    | ok b => rw [hx] at ha; exact h b hx a ha

@[simp] theorem sat_map {f : β → α} {x : Outcome β} :
    Sat P (f <$> x) ↔ Sat (fun b => P (f b)) x := by
  rw [← bind_pure_comp, sat_bind]
  simp

@[simp] theorem sat_true {x : Outcome α} : Sat (fun _ => True) x ↔ True :=
  ⟨fun _ => trivial, fun _ _ _ => trivial⟩

theorem Sat.imp {Q : α → Prop} {x : Outcome α} (h : Sat Q x) (hQP : ∀ a, Q a → P a) : Sat P x :=
  fun a ha => hQP a (h a ha)

theorem sat_ite {c : Prop} [Decidable c] {x y : Outcome α} :
    Sat P (if c then x else y) ↔ (c → Sat P x) ∧ (¬c → Sat P y) := by
  split <;> simp_all

theorem sat_foldlM {γ : Type} {Q : β → Prop} {f : β → γ → Outcome β}
    (hf : ∀ b a, Q b → Sat Q (f b a)) : ∀ (l : List γ) (b : β), Q b → Sat Q (l.foldlM f b)
  | [], _, hb => by simpa using hb
  | a :: l, b, hb => by
    rw [List.foldlM_cons, sat_bind]
    exact fun b' hb' => sat_foldlM hf l b' (hf b a hb b' hb')

end Outcome

namespace Table

variable {t u : Table}

@[simp] theorem ranged_resetIndex (t : Table) : t.resetIndex.Ranged := by
  simp [Ranged, resetIndex, rowCount, rangeIndex]

@[simp] theorem ranged_mk (cols : Array Column) (n : Nat) : Ranged ⟨cols, rangeIndex n⟩ := by
  simp [Ranged, rowCount, rangeIndex]

@[simp] theorem ranged_no_rows (cols : Array Column) : Ranged ⟨cols, #[]⟩ := by
  simp [Ranged, rowCount, rangeIndex]

@[simp] theorem ranged_sessionTable (x : Sessions) (records : List (List (String × Value))) :
    (sessionTable x records).Ranged := by
  cases records <;> simp [sessionTable]

@[simp] theorem ranged_one_row (cols : Array Column) : Ranged ⟨cols, #[.int 0]⟩ := by
  apply Array.ext (by simp [rowCount, rangeIndex])
  intro i h₁ _
  have : i = 0 := by simpa using h₁
  subst this
  simp [rangeIndex]

@[simp] theorem ranged_with_columns (cols : Array Column) :
    Ranged { t with columns := cols } ↔ t.Ranged := Iff.rfl

@[simp] theorem index_put (c : Column) : (t.put c).index = t.index := by
  unfold put
  split <;> rfl

@[simp] theorem ranged_put (c : Column) : (t.put c).Ranged ↔ t.Ranged := by
  simp [Ranged, rowCount]

@[simp] theorem index_shareLists (changes : List (Nat × List Value)) :
    (t.shareLists changes).index = t.index := by
  unfold shareLists
  split <;> rfl

theorem index_foldl {γ : Type} {f : Table → γ → Table} (hf : ∀ t a, (f t a).index = t.index) :
    ∀ (l : List γ) (t : Table), (l.foldl f t).index = t.index
  | [], _ => rfl
  | a :: l, t => by rw [List.foldl_cons, index_foldl hf l, hf]

theorem Ranged.of_index (h : u.index = t.index) (ht : t.Ranged) : u.Ranged := by
  simp only [Ranged, rowCount] at *
  rw [h]
  exact ht

@[simp] theorem ranged_foldl_put {γ : Type} (g : γ → Column) (l : List γ) :
    (l.foldl (fun out a => out.put (g a)) t).Ranged ↔ t.Ranged :=
  ⟨fun h => h.of_index (index_foldl (fun _ _ => index_put _) l t).symm,
    fun h => h.of_index (index_foldl (fun _ _ => index_put _) l t)⟩

theorem Ranged.foldl {γ : Type} {f : Table → γ → Table} (hf : ∀ t a, (f t a).index = t.index)
    (l : List γ) (ht : t.Ranged) : (l.foldl f t).Ranged :=
  ht.of_index (index_foldl hf l t)

/-- The first rows of a ranged table keep labels `0, 1, …`. -/
theorem Ranged.pick_range {k : Nat} (ht : t.Ranged) (hk : k ≤ t.rowCount) :
    (t.pick (Array.range k)).Ranged := by
  have hidx : ∀ i < k, t.index.getD i .none = .int i := by
    intro i hi
    rw [ht]
    simp only [rangeIndex, Array.getD_eq_getD_getElem?, Array.getElem?_map, Array.getElem?_range]
    simp [show i < t.rowCount by omega]
  simp only [Ranged, pick, rowCount, rangeIndex, Array.size_map, Array.size_range]
  apply Array.ext (by simp)
  intro i h₁ h₂
  simp only [Array.size_map, Array.size_range] at h₁
  simp only [Array.getElem_map, Array.getElem_range, hidx i h₁]

theorem Ranged.head (ht : t.Ranged) (n : Int) : (t.head n).Ranged :=
  ht.pick_range (by split <;> omega)

end Table

/-! ### Each command -/

namespace Command

open Outcome Table

variable {t : Table}

theorem sort_sat (ht : t.Ranged) (keys : List (String × Bool)) : Sat Ranged (sort keys t) := by
  simp [sort, Table.sortBy, sat_ite, ht]

theorem dedup_sat (ht : t.Ranged) (d : Dedup) : Sat Ranged (dedup d t) := by
  simp [dedup, sat_ite, ht]
  aesop

theorem dropNull_sat (ht : t.Ranged) (d : DropNull) : Sat Ranged (dropNull d t) := by
  simp [dropNull, sat_ite, ht]
  aesop

theorem fillNull_sat (ht : t.Ranged) (d : FillNull) : Sat Ranged (fillNull d t) := by
  simp [fillNull, sat_ite, ht]
  aesop

theorem select_sat (ht : t.Ranged) (s : Selection) : Sat Ranged (select s t) := by
  simp [select, sat_ite, Table.dropWhere, Table.project, ht]

theorem rename_sat (ht : t.Ranged) (rs : List (String × String)) : Sat Ranged (rename rs t) := by
  simp [rename, sat_ite, ht]

theorem stats_sat (ht : t.Ranged) (req : StatsRequest) : Sat Ranged (stats req t) := by
  simp [stats, sat_ite, ht]
  intro _ _ _ _ _ _ _ _
  exact sat_foldlM (fun out _ hout => by simp [hout]) _ _ (ranged_mk _ _)

theorem frequent_sat (ht : t.Ranged) (rarest : Bool) (r : Frequency) :
    Sat Ranged (frequent rarest r t) := by
  simp [frequent, sat_ite, ht]

theorem extract_sat (ht : t.Ranged) (x : Extraction) : Sat Ranged (extract x t) := by
  simp [extract, sat_ite, ht]
  intro _ _ _
  split
  · aesop
  · simp

theorem replace_sat (ht : t.Ranged) (rs : List Replacement) : Sat Ranged (replace rs t) := by
  simp only [replace, sat_ite, sat_pure, ht]
  refine ⟨fun _ => trivial, fun _ => sat_foldlM (fun u r hu => ?_) rs t ht⟩
  split <;> simp [hu]

theorem expand_sat (ht : t.Ranged) (x : Expansion) : Sat Ranged (expand x t) := by
  simp -zeta [expand, sat_ite, ht]
  aesop

theorem transpose_sat (ht : t.Ranged) (x : Transposition) : Sat Ranged (transpose x t) := by
  simp [transpose, sat_ite, ht]

theorem bucket_sat (ht : t.Ranged) (b : Bucketing) : Sat Ranged (bucket b t) := by
  simp [bucket, sat_ite, ht]
  aesop

theorem sessions_sat (ht : t.Ranged) (x : Sessions) : Sat Ranged (sessions x t) := by
  simp [sessions, sat_ite, ht]
  intro _ _
  split
  · simp [sat_ite]
  · simp

theorem sample_sat (ht : t.Ranged) (x : Sampling) : Sat Ranged (sample x t) := by
  simp [sample, sat_ite, ht]

theorem filter_sat (ht : t.Ranged) (expr : String) : Sat Ranged (filter expr t) := by
  unfold filter filterInPlace
  split
  · simpa using ht
  · split
    split <;> simp

theorem search_sat (ht : t.Ranged) {stored : String → Option Table}
    (hs : ∀ n u, stored n = some u → u.Ranged) (r : SearchRange) (now : Option Int) :
    Sat Ranged (search r stored now t) := by
  simp [search, sat_ite, ht]
  refine ⟨?_, ?_⟩
  · aesop
  · intro _
    split
    · next u hu =>
      have := hs _ u hu
      aesop
    · simp

theorem leftJoin_sat (left right : Table) (lk rk suffix : String) :
    Sat Ranged (Table.leftJoin left right lk rk suffix) := by
  simp [Table.leftJoin]
  aesop

theorem lookup_sat (ht : t.Ranged) (l : Lookup) (stored : String → Option Table) :
    Sat Ranged (lookup l stored t) := by
  simp [lookup, sat_ite, ht]
  intro _ _ _
  split
  · simp [sat_ite]
    intro _ _
    refine ⟨fun _ => ?_, fun _ _ => ?_⟩ <;> refine (leftJoin_sat _ _ _ _ _).imp fun j hj => ?_ <;>
      split
    all_goals simp only [sat_pure]
    · split <;> simp [hj]
    · exact Ranged.foldl (fun u _ => by split <;> simp) _ (by split <;> simp [hj])
    · split <;> simp [hj]
    · exact Ranged.foldl (fun u _ => by split <;> simp) _ (by split <;> simp [hj])
  · simp

theorem joinWith_sat (ht : t.Ranged) (field : String) (right : Table) :
    Sat Ranged (joinWith field t right) := by
  unfold joinWith
  split
  · simpa using ht
  · exact leftJoin_sat _ _ _ _ _

theorem appendWith_ranged (ht : t.Ranged) {below : Table} (hb : below.Ranged) :
    (appendWith t below).Ranged := by
  unfold appendWith Table.stack
  split
  · exact ht
  · split
    · exact hb
    · exact ranged_mk _ _

theorem assignWith_index (t : Table) (field : String) (res : Outcome Calc.Datum × Calc.Effects) :
    Sat (fun u => u.index = t.index) (assignWith t field res) := by
  unfold assignWith
  split
  · simp
  · simp only
    split
    · simp
    · rw [sat_ok, Table.index_put, Table.index_foldl fun u p => ?_, Table.index_shareLists]
      obtain ⟨_, _⟩ := p
      exact Table.index_put _

/-- Formulas write columns, and the lists held in cells, but never the labels of the rows. -/
theorem assignAll_index (eval : Table → String → Outcome Calc.Datum × Calc.Effects) :
    ∀ (as : List (String × String)) (t : Table) (lists : List (Nat × List Value)),
      Sat (fun u => u.index = t.index) (assignAll eval as t lists).1
  | [], t, lists => by simp [assignAll]
  | (field, formula) :: rest, t, lists => by
    simp only [assignAll]
    split
    · simp
    · next u hu =>
      have := assignWith_index t field (eval t formula) u hu
      exact (assignAll_index eval rest u _).imp fun v hv => hv.trans this

theorem derive_sat (ht : t.Ranged) (as : List (String × String)) : Sat Ranged (derive as t).1 := by
  unfold derive
  split
  · simpa using ht
  · exact (assignAll_index _ as t []).imp fun _ hu => ht.of_index hu

end Command

/-! ### Conditions write columns, never row labels -/

/-- The run leaves the row labels `idx` of the table it works on as they are. -/
def Probe.Steady {α : Type} (idx : Array Value) (x : Probe α) : Prop :=
  ∀ t : Table, t.index = idx → (x.run.run t).2.index = idx

namespace Probe

variable {α β : Type} {idx : Array Value}

theorem steady_pure (a : α) : Steady idx (pure a : Probe α) := fun _ h => h

theorem steady_throw (e : Fault) : Steady idx (throw e : Probe α) := fun _ h => h

theorem steady_throw_bind (e : Fault) {f : β → Probe α} : Steady idx (throw e >>= f) :=
  fun _ h => h

theorem steady_lift (x : Outcome α) : Steady idx (Probe.lift x) := by
  cases x <;> first | exact steady_pure _ | exact steady_throw _

theorem steady_bind {x : Probe β} {f : β → Probe α} (hx : Steady idx x)
    (hf : ∀ b, Steady idx (f b)) : Steady idx (x >>= f) := by
  intro t ht
  have h := hx t ht
  simp only [ExceptT.run_bind, StateT.run_bind]
  cases hr : x.run.run t with
  | mk r u =>
    rw [hr] at h
    cases r with
    | error e => exact h
    | ok b => exact hf b u h

theorem steady_get_bind {f : Table → Probe α} (hf : ∀ t, t.index = idx → Steady idx (f t)) :
    Steady idx (get >>= f) := by
  intro t ht
  exact hf t ht t ht

theorem steady_set {u : Table} (h : u.index = idx) : Steady idx (set u : Probe PUnit) :=
  fun _ _ => h

theorem steady_foldlM {f : β → α → Probe β} (hf : ∀ b a, Steady idx (f b a)) :
    ∀ (l : List α) (init : β), Steady idx (l.foldlM f init)
  | [], _ => steady_pure _
  | a :: l, init => steady_bind (hf init a) fun b => steady_foldlM hf l b

end Probe

namespace Condition

open Probe

variable {idx : Array Value}

theorem readLeft_steady (s : String) : Steady idx (readLeft s) := by
  unfold readLeft
  refine steady_get_bind fun t ht => ?_
  dsimp only
  split
  · split
    · split
      · exact steady_bind (steady_lift _) fun c =>
          steady_bind (steady_set (by rw [Table.index_put, ht])) fun _ => steady_pure _
      · exact steady_lift _
    · split <;> first | exact steady_pure _ | exact steady_throw _
  · split <;> first | exact steady_pure _ | exact steady_throw _

/-- A test of one column reads the table and writes nothing. -/
theorem steady_column (f : String) (g : Column → Truth) :
    Steady idx (get >>= fun t => lift (column t f) >>= fun c => pure (g c)) :=
  steady_get_bind fun _ _ => steady_bind (steady_lift _) fun _ => steady_pure _

theorem comparison_steady (expr : String) : Steady idx (comparison expr) := by
  unfold comparison
  dsimp only
  split
  · exact steady_bind (readLeft_steady _) fun _ => steady_get_bind fun _ _ => steady_lift _
  · exact steady_throw _

theorem evaluate_steady : ∀ (fuel : Nat) (expr : String), Steady idx (evaluate fuel expr)
  | 0, _ => steady_throw _
  | fuel + 1, expr => by
    have ih := evaluate_steady fuel
    rw [evaluate.eq_def]
    dsimp only
    refine steady_get_bind fun t _ => ?_
    split
    · exact steady_bind (steady_foldlM (fun _ _ => steady_bind (ih _) fun _ => steady_pure _) _ _)
        fun _ => steady_pure _
    split
    · exact steady_bind (steady_foldlM (fun _ _ => steady_bind (ih _) fun _ => steady_pure _) _ _)
        fun _ => steady_pure _
    split
    · exact steady_bind (ih _) fun _ => steady_pure _
    split
    · exact ih _
    split
    · exact steady_column _ _
    split
    · exact steady_column _ _
    split
    · refine steady_get_bind fun _ _ => steady_bind (steady_lift _) fun _ => ?_
      split
      · exact steady_pure _
      · exact steady_throw_bind _
    split
    · exact steady_column _ _
    split
    · exact steady_column _ _
    · exact comparison_steady _

end Condition

namespace Command

/-- The table a condition leaves behind has the labels of the rows it was given. -/
theorem filterInPlace_index (expr : String) (t : Table) :
    (filterInPlace expr t).2.index = t.index := by
  have h := Condition.evaluate_steady (expr.length + 2) expr t rfl
  unfold filterInPlace
  split
  · rfl
  · cases hr : (Condition.evaluate (expr.length + 2) expr).run.run t with
    | mk res u =>
      rw [hr] at h
      dsimp only
      split <;> exact h

end Command

/-! ### Runs -/

/-- From a catalog whose tables are ranged, the run leaves the catalog so, and succeeds only with
a value satisfying `P`. -/
def Run.Keeps {α : Type} (P : α → Prop) (x : Run α) : Prop :=
  ∀ c : Catalog, c.Ranged → (x.run.run c).2.Ranged ∧ Outcome.Sat P (x.run.run c).1

namespace Run

variable {α β : Type} {P : α → Prop} {Q : β → Prop}

theorem keeps_pure {a : α} (h : P a) : Keeps P (pure a) :=
  fun _ hc => ⟨hc, fun _ e => by cases e; exact h⟩

theorem keeps_throw (e : Fault) : Keeps P (throw e) :=
  fun _ hc => ⟨hc, fun _ e => by cases e⟩

theorem keeps_bind {x : Run β} {f : β → Run α} (hx : Keeps Q x) (hf : ∀ b, Q b → Keeps P (f b)) :
    Keeps P (x >>= f) := by
  intro c hc
  obtain ⟨hc', hsat⟩ := hx c hc
  simp only [ExceptT.run_bind, StateT.run_bind]
  cases hr : x.run.run c with
  | mk r c' =>
    rw [hr] at hc' hsat
    cases r with
    | error e => exact ⟨hc', fun _ h => by cases h⟩
    | ok b => exact hf b (hsat b rfl) c' hc'

theorem keeps_throw_bind (e : Fault) {f : β → Run α} : Keeps P (throw e >>= f) :=
  keeps_bind (Q := fun _ => False) (keeps_throw e) fun _ h => h.elim

theorem keeps_get_bind {f : Catalog → Run α} (hf : ∀ c, c.Ranged → Keeps P (f c)) :
    Keeps P (get >>= f) :=
  fun c hc => hf c hc c hc

theorem keeps_modify {f : Catalog → Catalog} (hf : ∀ c, c.Ranged → (f c).Ranged) :
    Keeps (fun _ => True) (modify f : Run PUnit) :=
  fun c hc => ⟨hf c hc, fun _ _ => trivial⟩

theorem keeps_set {c : Catalog} (hc : c.Ranged) : Keeps (fun _ => True) (set c : Run PUnit) :=
  fun _ _ => ⟨hc, fun _ _ => trivial⟩

theorem keeps_lift {x : Outcome α} (h : Outcome.Sat P x) : Keeps P (Run.lift x) := by
  cases x with
  | error e => exact keeps_throw e
  | ok a => exact keeps_pure (h a rfl)

theorem keeps_foldlM {γ : Type} {f : β → γ → Run β} (hf : ∀ b a, Q b → Keeps Q (f b a)) :
    ∀ (l : List γ) (b : β), Q b → Keeps Q (l.foldlM f b)
  | [], _, hb => keeps_pure hb
  | a :: l, b, hb => keeps_bind (hf b a hb) fun b' hb' => keeps_foldlM hf l b' hb'

theorem keeps_forIn {γ : Type} {f : γ → PUnit → Run (ForInStep PUnit)}
    (hf : ∀ a, Keeps (fun _ => True) (f a ())) :
    ∀ l : List γ, Keeps (fun _ => True) (forIn l () f)
  | [] => keeps_pure trivial
  | a :: l => by
    rw [List.forIn_cons]
    refine keeps_bind (hf a) fun r _ => ?_
    cases r with
    | done => exact keeps_pure trivial
    | yield => exact keeps_forIn hf l

end Run

namespace Catalog

variable {c : Catalog} {t : Table}

theorem Ranged.get? (hc : c.Ranged) {name : String} (h : c.get? name = some t) : t.Ranged := by
  simp only [Catalog.get?, Option.map_eq_some_iff] at h
  obtain ⟨e, he, rfl⟩ := h
  exact hc e (Array.mem_toList_iff.2 (Array.mem_of_find?_eq_some he))

theorem Ranged.sat_stored (hc : c.Ranged) (name : String) (e : Fault) :
    Outcome.Sat Table.Ranged ((c.get? name).elim (throw e) pure) := by
  cases hu : c.get? name with
  | none => simp
  | some u => simpa using hc.get? hu

theorem Ranged.set (hc : c.Ranged) (ht : t.Ranged) (name : String) : (c.set name t).Ranged := by
  unfold Catalog.set
  split
  · intro e he
    simp only [Array.set!_eq_setIfInBounds, Array.toList_setIfInBounds] at he
    rcases List.mem_or_eq_of_mem_set he with he | rfl
    · exact hc e he
    · exact ht
  · intro e he
    simp only [Array.toList_push, List.mem_append, List.mem_singleton] at he
    rcases he with he | rfl
    · exact hc e he
    · exact ht

theorem Ranged.shareLists (hc : c.Ranged) (changes : List (Nat × List Value)) :
    (c.shareLists changes).Ranged := by
  unfold Catalog.shareLists
  split
  · exact hc
  · intro e he
    simp only [Array.toList_map, List.mem_map] at he
    obtain ⟨⟨n, u⟩, hu, rfl⟩ := he
    exact (hc _ hu).of_index (Table.index_shareLists _)

/-- Numbering the lists of a table changes its cells, not its row labels nor the catalog's
tables. -/
theorem Ranged.number (hc : c.Ranged) (ht : t.Ranged) :
    (c.number t).1.Ranged ∧ (c.number t).2.Ranged :=
  ⟨hc, by unfold Catalog.number Table.numberLists; exact ht⟩

end Catalog

/-! ### Commands, queries and the legacy loop -/

open Run Outcome Table

variable {t : Table}

theorem Step.apply_keeps (s : Step) (ht : t.Ranged) : Keeps Ranged (s.apply t) := by
  cases s with
  | head n => exact keeps_pure (ht.head n)
  | tail n => exact keeps_pure (ranged_resetIndex _)
  | reverse => exact keeps_pure (by split <;> simp [ht])
  | fetch name =>
    dsimp only [Step.apply]
    split
    · exact keeps_pure ht
    · refine keeps_get_bind fun c hc => ?_
      split
      · next u hu => exact keeps_pure (hc.get? hu)
      · exact keeps_throw _
  | store name =>
    dsimp only [Step.apply]
    split
    · exact keeps_bind (keeps_modify fun c hc => hc.set ht name) fun _ _ => keeps_pure ht
    · exact keeps_pure ht
  | derive as =>
    exact keeps_bind (keeps_modify fun c hc => hc.shareLists _) fun _ _ =>
      keeps_lift (Command.derive_sat ht as)
  | lookup l => exact keeps_get_bind fun _ _ => keeps_lift (Command.lookup_sat ht l _)
  | search r => exact keeps_get_bind fun _ hc =>
      keeps_lift (Command.search_sat ht (fun _ _ hu => hc.get? hu) r _)
  | select x => exact keeps_lift (Command.select_sat ht x)
  | rename x => exact keeps_lift (Command.rename_sat ht x)
  | sort x => exact keeps_lift (Command.sort_sat ht x)
  | dedup x => exact keeps_lift (Command.dedup_sat ht x)
  | dropNull x => exact keeps_lift (Command.dropNull_sat ht x)
  | fillNull x => exact keeps_lift (Command.fillNull_sat ht x)
  | filter x => exact keeps_lift (Command.filter_sat ht x)
  | stats x => exact keeps_lift (Command.stats_sat ht x)
  | frequent r x => exact keeps_lift (Command.frequent_sat ht r x)
  | extract x => exact keeps_lift (Command.extract_sat ht x)
  | replace x => exact keeps_lift (Command.replace_sat ht x)
  | expand x => exact keeps_lift (Command.expand_sat ht x)
  | transpose x => exact keeps_lift (Command.transpose_sat ht x)
  | bucket x => exact keeps_lift (Command.bucket_sat ht x)
  | sessions x => exact keeps_lift (Command.sessions_sat ht x)
  | sample x => exact keeps_lift (Command.sample_sat ht x)
  | join _ _ | append _ => exact keeps_throw _

/-- The table a command leaves when it fails keeps the labels of its rows. -/
theorem Step.leaves_ranged (s : Step) (ht : t.Ranged) : (s.leaves t).Ranged := by
  unfold Step.leaves
  split
  · exact ht.of_index (Command.filterInPlace_index _ _)
  · exact ht.of_index (index_shareLists _)
  · exact ht

theorem Step.applyHeld_keeps (s : Step) {h : Held} (ht : h.table.Ranged) :
    Keeps (fun h => h.table.Ranged) (s.applyHeld h) := by
  unfold Step.applyHeld
  split
  · -- the table the condition changed in place is stored back under every name holding it
    next _ expr =>
      have hin := ht.of_index (Command.filterInPlace_index expr h.table)
      have hres : Sat Ranged (Command.filterInPlace expr h.table).1 := Command.filter_sat ht expr
      cases hx : Command.filterInPlace expr h.table with
      | mk res u =>
        rw [hx] at hin hres
        refine keeps_bind (keeps_forIn (fun name => keeps_bind
          (keeps_modify fun c hc => hc.set hin name) fun _ _ => keeps_pure trivial) _) fun _ _ => ?_
        refine keeps_bind (keeps_lift hres) fun v hv => ?_
        split <;> exact keeps_pure hv
  · exact keeps_bind (Step.apply_keeps _ ht) fun _ hu => keeps_pure hu
  · exact keeps_bind (Step.apply_keeps _ ht) fun _ hu => keeps_pure hu
  · refine keeps_bind (Step.apply_keeps _ ht) fun u hu => keeps_bind ?_ fun v hv => keeps_pure hv
    refine keeps_get_bind fun c hc => ?_
    exact keeps_bind (keeps_set (hc.number hu).1) fun _ _ => keeps_pure (hc.number hu).2

/-- A query's run keeps the invariant when its source reads ranged tables and each command keeps
it. -/
theorem Query.runWith_keeps {read : Catalog → Query.Source → Outcome Table}
    {step : Step → Held → Run Held}
    (hread : ∀ c src, c.Ranged → Sat Ranged (read c src))
    (hstep : ∀ s h, h.table.Ranged → Keeps (fun h => h.table.Ranged) (step s h)) (q : Pipeline) :
    Keeps Ranged (Query.runWith read step q) := by
  unfold Query.runWith
  refine keeps_get_bind fun c hc => keeps_bind (keeps_lift (hread c q.source hc)) fun t ht => ?_
  refine keeps_bind (keeps_lift (P := fun _ => True) (sat_true.2 trivial)) fun steps _ => ?_
  exact keeps_bind (keeps_foldlM (fun u s hu => hstep s u hu) steps _ ht) fun u hu => keeps_pure hu

theorem readSubquerySource_sat {c : Catalog} (hc : c.Ranged) (src : Query.Source) :
    Sat Ranged (readSubquerySource c src) := by
  unfold readSubquerySource
  split
  · split
    · exact hc.sat_stored _ _
    · simp
  · simp

theorem readSource_sat {c : Catalog} (hc : c.Ranged) (src : Query.Source) :
    Sat Ranged (readSource c src) := by
  unfold readSource readRef
  split
  · split <;> first | exact hc.sat_stored _ _ | simp
  · simp [Table.stack]

/-- Every command keeps the invariant, at any depth of subqueries: induction on the depth. -/
theorem Step.run_keeps :
    ∀ (fuel : Nat) (s : Step) {h : Held}, h.table.Ranged →
      Keeps (fun h => h.table.Ranged) (s.run fuel h)
  | 0, s, _, ht => s.applyHeld_keeps ht
  | fuel + 1, s, h, ht => by
    have hsub := Query.runWith_keeps (fun _ src hc => readSubquerySource_sat hc src)
      (fun s _ hu => Step.run_keeps fuel s hu)
    unfold Step.run
    split
    · split
      · exact keeps_pure ht
      · dsimp only
        split
        · exact keeps_throw_bind _
        · split
          · exact keeps_bind (hsub _) fun right _ =>
              keeps_bind (keeps_lift (Command.joinWith_sat ht _ right)) fun _ hj => keeps_pure hj
          · exact keeps_throw _
    · split
      · exact keeps_bind (hsub _) fun _ hb => keeps_pure (Command.appendWith_ranged ht hb)
      · exact keeps_pure ht
    · exact s.applyHeld_keeps ht

theorem runText_keeps (text : String) : Keeps Ranged (runText text) := by
  unfold runText
  split
  · exact Query.runWith_keeps (fun _ src hc => readSource_sat hc src)
      (fun s _ hu => Step.run_keeps _ s hu) _
  · split <;> exact keeps_throw _

/-- A command line of the legacy loop keeps the catalog and the working table ranged. -/
theorem Service.lineStep_ranged (acc : Catalog × Held × List Json) (l : Json)
    (hc : acc.1.Ranged) (ht : acc.2.1.table.Ranged) :
    (Service.lineStep acc l).1.Ranged ∧ (Service.lineStep acc l).2.1.table.Ranged := by
  obtain ⟨c, h, out⟩ := acc
  dsimp only at hc ht
  simp only [Service.lineStep]
  split
  · exact ⟨hc, ht⟩
  · next st _ =>
    obtain ⟨hc', hsat⟩ : ((st.run 64 h).run c).run.2.Ranged ∧
        Sat (fun (u : Held) => u.table.Ranged) ((st.run 64 h).run c).run.1 :=
      Step.run_keeps 64 st ht c hc
    cases hr : ((st.run 64 h).run c).run with
    | mk r c' =>
      rw [hr] at hc' hsat
      cases r with
      | ok u => exact ⟨hc', hsat u rfl⟩
      | error e => exact ⟨hc', st.leaves_ranged ht⟩

theorem Service.foldl_lineStep_ranged :
    ∀ (lines : List Json) (acc : Catalog × Held × List Json), acc.1.Ranged →
      acc.2.1.table.Ranged →
      (lines.foldl Service.lineStep acc).1.Ranged ∧ (lines.foldl Service.lineStep acc).2.1.table.Ranged
  | [], _, hc, ht => ⟨hc, ht⟩
  | l :: lines, acc, hc, ht => by
    obtain ⟨hc', ht'⟩ := Service.lineStep_ranged acc l hc ht
    rw [List.foldl_cons]
    exact foldl_lineStep_ranged lines (Service.lineStep acc l) hc' ht'

/-- From a catalog whose tables have their rows labelled `0, 1, …`, so do all tables of a run: a
query text run against the catalog leaves the catalog so and succeeds only with such a table;
each command, at any depth of subqueries, leaves the catalog so, succeeds only with such a table,
and leaves such a table when it fails; and the legacy loop of command lines keeps the catalog and
its working table so, line after line. -/
theorem rows_stay_ranged :
    (∀ (text : String) (c : Catalog), c.Ranged →
      ((runText text).run.run c).2.Ranged ∧ Sat Ranged ((runText text).run.run c).1) ∧
    (∀ (fuel : Nat) (s : Step) (h : Held) (c : Catalog), h.table.Ranged → c.Ranged →
      ((s.run fuel h).run.run c).2.Ranged ∧
        Sat (fun u => u.table.Ranged) ((s.run fuel h).run.run c).1 ∧ (s.leaves h.table).Ranged) ∧
    (∀ (lines : List Json) (acc : Catalog × Held × List Json), acc.1.Ranged →
      acc.2.1.table.Ranged → (lines.foldl Service.lineStep acc).1.Ranged ∧
        (lines.foldl Service.lineStep acc).2.1.table.Ranged) :=
  ⟨fun text c hc => runText_keeps text c hc,
    fun fuel s _ c ht hc => ⟨(Step.run_keeps fuel s ht c hc).1, (Step.run_keeps fuel s ht c hc).2,
      s.leaves_ranged ht⟩,
    Service.foldl_lineStep_ranged⟩

theorem empty_catalog_stays_ranged :
    ({} : Catalog).Ranged ∧ ((runText "cache=t | head 1").run.run {}).2.Ranged ∧
      Sat Ranged ((runText "cache=t | head 1").run.run {}).1 :=
  have hc : ({} : Catalog).Ranged := fun _ he => by simp at he
  ⟨hc, rows_stay_ranged.1 _ _ hc⟩

end PipeQuery
