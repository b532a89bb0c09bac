import PipeQuery.Command.Order
import Mathlib

/-!
# Dropping repeated rows

`dedup f consecutive=true` drops a row that repeats the one before it on the fields, and `dedup f`
every row that repeats an earlier one. When rows that agree on the fields stand together
(`Grouped`) and no field holds a missing value, the two drop the same rows
(`dedup_consecutive_of_grouped`). Missing values are where they part: `dedup` takes two missing
cells as agreeing, the consecutive comparison never does, so two rows with a missing key both
stay (`dedup_consecutive_keeps_missing_keys`).
-/

namespace PipeQuery.Command

/-- Rows `i` and `j` agree on the key columns: in each, both cells are missing or both equal. -/
def keysAgree (cols : List Column) (i j : Nat) : Bool :=
  cols.all fun c => cellsAgree (c.cell i) (c.cell j)

/-- Of the first `n` rows, those agreeing on the key columns stand together: a row between two
agreeing rows agrees with the later. -/
def Grouped (cols : List Column) (n : Nat) : Prop :=
  ∀ i < n, ∀ k ≤ i, ∀ j ≤ k, keysAgree cols i j = true → keysAgree cols i k = true

instance (cols : List Column) (n : Nat) : Decidable (Grouped cols n) :=
  inferInstanceAs (Decidable (∀ i < n, ∀ k ≤ i, ∀ j ≤ k, _))

variable {cols : List Column} {n : Nat}

/-- On grouped rows with present keys, a row repeats the one before it exactly when it repeats
some earlier row. -/
theorem consecutive_kept_iff_first (hg : Grouped cols n)
    (hkeys : ∀ c ∈ cols, ∀ i < n, (c.cell i).isMissing = false) {i : Nat} (hi : i < n) :
    (i == 0 || cols.any fun c =>
        (c.cell i).isMissing || (c.cell (i - 1)).isMissing || !Value.same (c.cell i) (c.cell (i - 1)))
      = !(List.range i).any (keysAgree cols i ·) := by
  cases i with
  | zero => simp
  | succ k =>
    rw [show (k + 1 == 0) = false from rfl, Bool.false_or, Nat.add_sub_cancel]
    by_cases hk : keysAgree cols (k + 1) k = true
    · -- the row before agrees, and with no missing key that means equal cells
      have hall := List.all_eq_true.1 hk
      have hany : (List.range (k + 1)).any (keysAgree cols (k + 1) ·) = true :=
        List.any_eq_true.2 ⟨k, by simp, hk⟩
      rw [hany, Bool.not_true, List.any_eq_false]
      intro c hc
      have hagree := hall c hc
      simp only [cellsAgree, hkeys c hc (k + 1) hi, hkeys c hc k (by omega), Bool.false_and,
        Bool.false_or] at hagree
      simp [hkeys c hc (k + 1) hi, hkeys c hc k (by omega), hagree]
    · -- no earlier row agrees: one that did would make the row before agree too
      have hnone : (List.range (k + 1)).any (keysAgree cols (k + 1) ·) = false := by
        rw [List.any_eq_false]
        intro j hj hagree
        exact hk (hg (k + 1) hi k (by omega) j (by simp at hj; omega) hagree)
      rw [hnone, Bool.not_false]
      obtain ⟨c, hc, hne⟩ : ∃ c ∈ cols, cellsAgree (c.cell (k + 1)) (c.cell k) = false := by
        simpa [keysAgree, List.all_eq_true] using hk
      exact List.any_eq_true.2 ⟨c, hc, by simp_all [cellsAgree]⟩

/-- On a table whose rows agreeing on the fields stand together and whose fields hold no missing
value, dropping rows that repeat the one before is dropping rows that repeat an earlier one. -/
theorem dedup_consecutive_of_grouped (t : Table) (fields : List String) (hf : fields ≠ [])
    (hg : Grouped (fields.filterMap t.find?) t.rowCount)
    (hkeys : ∀ c ∈ fields.filterMap t.find?, ∀ i < t.rowCount, (c.cell i).isMissing = false) :
    dedup { fields, consecutive := true } t = dedup { fields } t := by
  have hmask := fun i (hi : i ∈ Array.range t.rowCount) =>
    consecutive_kept_iff_first hg hkeys (Array.mem_range.1 hi)
  simp only [dedup]
  split
  · rfl
  · simp [hf, -List.any_filterMap, -List.all_filterMap]
    rw [Array.map_congr_left hmask]
    rfl

theorem dedup_consecutive_grouped_three_rows :
    let t : Table := ⟨#[⟨.str "x", .object, #[.str "a", .str "a", .str "b"]⟩], Table.rangeIndex 3⟩
    Grouped (["x"].filterMap t.find?) t.rowCount ∧
      (∀ c ∈ ["x"].filterMap t.find?, ∀ i < t.rowCount, (c.cell i).isMissing = false) ∧
      dedup { fields := ["x"], consecutive := true } t = dedup { fields := ["x"] } t := by
  intro t
  have hg : Grouped (["x"].filterMap t.find?) t.rowCount := by decide +kernel
  have hkeys : ∀ c ∈ ["x"].filterMap t.find?, ∀ i < t.rowCount, (c.cell i).isMissing = false := by
    decide +kernel
  exact ⟨hg, hkeys, dedup_consecutive_of_grouped t ["x"] (by simp) hg hkeys⟩

/-- Two rows whose only key is missing agree, so they stand together, yet the consecutive
comparison keeps both where `dedup` keeps one. -/
theorem dedup_consecutive_keeps_missing_keys :
    let t : Table := ⟨#[⟨.str "x", .object, #[.none, .none]⟩], Table.rangeIndex 2⟩
    Grouped (["x"].filterMap t.find?) t.rowCount ∧
      (dedup { fields := ["x"], consecutive := true } t).toOption.map Table.rowCount = some 2 ∧
      (dedup { fields := ["x"] } t).toOption.map Table.rowCount = some 1 := by
  intro t
  exact ⟨by decide +kernel, by decide +kernel, by decide +kernel⟩

end PipeQuery.Command
