import PipeQuery.Command.Derive
import Mathlib

/-!
# First-match choice in `case`

`case(c₁, v₁, …, cₙ, vₙ[, d])` starts from an all-missing column and lets each branch in turn
write its value into the rows where its condition holds and the column is still missing. A
branch whose value is missing in a row thus leaves the row open to the branches after it: each
row gets the value of the first branch that holds there with a present value (`firstPresent`),
else the default's value, else a missing one (`case_takes_first_present_branch`).
-/

namespace PipeQuery.Derive

/-- The truth in row `i` of a condition's result. -/
def truthAt (r : Outcome Calc.Datum) (i : Nat) : Bool :=
  match r with
  | .ok d => (cellAt d i).truthy
  | .error _ => false

/-- The value in row `i` of a result spread over `n` rows. -/
def valueAt (n : Nat) (r : Outcome Calc.Datum) (i : Nat) : Value :=
  match r with
  | .ok d => cellAt (Calc.Datum.widen n d) i
  | .error _ => .none

/-- For each condition and value, whether the condition holds in row `i`, and the value there. -/
def branchesAt (n : Nat) (eval : String → Outcome Calc.Datum) (ps : List (String × String))
    (i : Nat) : List (Bool × Value) :=
  ps.map fun p => (truthAt (eval p.1) i, valueAt n (eval p.2) i)

/-- The value of the first branch that holds with a present value. -/
def firstPresent : List (Bool × Value) → Option Value
  | [] => none
  | (b, v) :: rest => if b && !v.isMissing then some v else firstPresent rest

/-- A result that is a column of `n` truths. -/
def isTruthColumn (n : Nat) : Outcome Calc.Datum → Bool
  | .ok (.column c) => c.dtype == .bool && c.size == n
  | _ => false

/-- What one branch does to a row: it writes its value when it holds and the row is missing. -/
def takeBranch (acc : Value) (branch : Bool × Value) : Value :=
  if branch.1 && acc.isMissing then branch.2 else acc

@[simp] theorem truthy_bool (b : Bool) : (Value.bool b).truthy = b := rfl

@[simp] theorem asTruth_bool (b : Bool) : Calc.asTruth (.bool b) = b := by cases b <;> rfl

theorem invert_truths {c : Column} (hd : c.dtype = .bool) :
    (Calc.Datum.column c).invert =
      .ok (.column { c with cells := c.cells.map fun v => .bool !v.truthy }) := by
  simp [Calc.Datum.invert, Column.invert, hd]; rfl

theorem bitOr_truths {a : Column} (hd : a.dtype = .bool) (l : Value) (bs : Array Bool) :
    Calc.Datum.bits .bitOr (.column a) (Calc.Datum.truths l bs) = .ok (Calc.Datum.truths a.label
      ((a.cells.zip (bs.map .bool)).map fun p => Calc.asTruth p.1 || Calc.asTruth p.2)) := by
  have : Calc.holdsIntegers a = false := by simp [Calc.holdsIntegers, hd]; rfl
  simp [Calc.Datum.bits, Calc.Datum.truths, this, Calc.truthOp]; rfl

/-- One branch with a truth column: row by row, `takeBranch`. -/
theorem caseBranch_column {n : Nat} {result : Array Value} {col : Column} (vd : Calc.Datum)
    (hd : col.dtype = .bool) (hc : col.size = n) (hr : result.size = n) :
    caseBranch n result (.column col) vd = .ok ((Array.range n).map fun i =>
      takeBranch (result.getD i .none) ((col.cell i).truthy, cellAt vd i)) := by
  simp only [caseBranch, invert_truths hd, bind, Except.bind]
  rw [bitOr_truths (a := ⟨col.label, col.dtype, col.cells.map fun v => .bool !v.truthy⟩) hd]
  dsimp only [pure, Except.pure]
  congr 1
  refine Array.map_congr_left fun i hi => ?_
  rw [Array.mem_range] at hi
  have h1 : i < col.cells.size := (hc.symm ▸ hi : i < col.size)
  have h2 : i < result.size := hr ▸ hi
  simp [Column.cell, Calc.Datum.truths, rowTruths, Array.getD_eq_getD_getElem?, h1, h2, takeBranch]
  cases col.cells[i].truthy <;> cases result[i].isMissing <;> simp

theorem map_range_getD (a : Array Value) : (Array.range a.size).map (a.getD · .none) = a := by
  apply Array.ext (by simp); intro i h1 h2
  simp [Array.getD_eq_getD_getElem?, Array.getElem?_eq_getElem h2]

variable {n : Nat} {eval : String → Outcome Calc.Datum}

/-- The loop over the branches: each row is folded through the branches with `takeBranch`. -/
theorem foldlM_caseBranch {f : Array Value → String × String → Outcome (Array Value)} :
    ∀ {ps : List (String × String)} {result : Array Value},
    (∀ p ∈ ps, ∀ r : Array Value, r.size = n → f r p = .ok ((Array.range n).map fun i =>
      takeBranch (r.getD i .none) (truthAt (eval p.1) i, valueAt n (eval p.2) i))) →
    result.size = n →
    ps.foldlM f result = .ok ((Array.range n).map fun i =>
      (branchesAt n eval ps i).foldl takeBranch (result.getD i .none))
  | [], result, _, hr => by
    subst hr
    simp only [branchesAt, List.map_nil, List.foldl_nil, List.foldlM_nil, map_range_getD]
    rfl
  | p :: ps, result, hf, hr => by
    simp only [List.foldlM_cons, hf p (by simp) result hr, bind, Except.bind]
    rw [foldlM_caseBranch (fun q hq => hf q (by simp [hq])) (by simp)]
    congr 1
    refine Array.map_congr_left fun i hi => ?_
    simp [branchesAt, Array.getD_eq_getD_getElem?, Array.mem_range.1 hi]

theorem firstPresent_present : ∀ {bs : List (Bool × Value)} {v : Value},
    firstPresent bs = some v → v.isMissing = false
  | [], _, h => by simp [firstPresent] at h
  | (b, w) :: bs, v, h => by
    by_cases hw : (b && !w.isMissing) = true
    · simp only [firstPresent, hw, if_true, Option.some.injEq] at h
      subst h
      simpa using (Bool.and_eq_true_iff.1 hw).2
    · simp only [firstPresent, hw] at h
      exact firstPresent_present h

theorem foldl_takeBranch_present {acc : Value} (h : acc.isMissing = false) :
    ∀ bs : List (Bool × Value), bs.foldl takeBranch acc = acc
  | [] => rfl
  | _ :: bs => by simp [takeBranch, h, foldl_takeBranch_present h bs]

/-- Folding from a missing value ends in the first present value that holds, or stays missing. -/
theorem foldl_takeBranch_missing :
    ∀ (bs : List (Bool × Value)) (acc : Value), acc.isMissing = true →
      (∀ v, firstPresent bs = some v → bs.foldl takeBranch acc = v) ∧
      (firstPresent bs = none → (bs.foldl takeBranch acc).isMissing = true)
  | [], _, h => ⟨by simp [firstPresent], fun _ => h⟩
  | (b, v) :: bs, acc, h => by
    cases b with
    | false => simpa [firstPresent, takeBranch] using foldl_takeBranch_missing bs acc h
    | true =>
      cases hv : v.isMissing with
      | true => simpa [firstPresent, takeBranch, hv, h] using foldl_takeBranch_missing bs v hv
      | false => simp [firstPresent, takeBranch, hv, h, foldl_takeBranch_present hv]

theorem casePairs_flat (extra : Option String) : ∀ ps : List (String × String),
    casePairs (ps.flatMap (fun p => [p.1, p.2]) ++ extra.toList) = ps
  | [] => by cases extra <;> rfl
  | p :: ps => by simp [casePairs, casePairs_flat extra ps]

theorem length_flatMap_pairs (ps : List (String × String)) :
    (ps.flatMap fun p => [p.1, p.2]).length = 2 * ps.length := by
  induction ps with
  | nil => rfl
  | cons p ps ih => simp; omega

theorem exists_of_isTruthColumn {r : Outcome Calc.Datum} (h : isTruthColumn n r = true) :
    ∃ col : Column, r = .ok (.column col) ∧ col.dtype = .bool ∧ col.size = n := by
  unfold isTruthColumn at h
  split at h
  · simp only [Bool.and_eq_true, beq_iff_eq] at h
    exact ⟨_, rfl, h⟩
  · cases h

/-- A branch whose condition is a truth column and whose value succeeds is one `takeBranch`
per row. -/
theorem caseStep {p : String × String}
    (hp : isTruthColumn n (eval p.1) = true ∧ (eval p.2).toBool = true) {r : Array Value}
    (hr : r.size = n) :
    (do let cd ← eval p.1; caseBranch n r cd (Calc.Datum.widen n (← eval p.2))) =
      .ok ((Array.range n).map fun i =>
        takeBranch (r.getD i .none) (truthAt (eval p.1) i, valueAt n (eval p.2) i)) := by
  obtain ⟨col, hce, hdt, hn⟩ := exists_of_isTruthColumn hp.1
  obtain ⟨d, hve⟩ : ∃ d, eval p.2 = .ok d := by
    cases h : eval p.2 <;> simp_all [Except.toBool]
  simp only [hce, hve, bind, Except.bind]
  exact caseBranch_column _ hdt hn hr

/-- The column `case` should give: each row the first present value of a branch that holds, else the
default's or a missing value. -/
def FirstMatch (n : Nat) (eval : String → Outcome Calc.Datum) (ps : List (String × String)) :
    Option String → Column → Prop
  | none, col => col.dtype = .object ∧ col.size = n ∧ ∀ i < n,
      (∀ v, firstPresent (branchesAt n eval ps i) = some v → col.cell i = v) ∧
      (firstPresent (branchesAt n eval ps i) = none → (col.cell i).isMissing = true)
  | some d, col => col = Column.infer .none ((Array.range n).map fun i =>
      (firstPresent (branchesAt n eval ps i)).getD (valueAt n (eval d) i))

theorem getD_replicate_none (i : Nat) : (Array.replicate n Value.none).getD i .none = .none := by
  simp [Array.getD_eq_getD_getElem?, Array.getElem?_replicate]; split <;> rfl

/-- `caseOf` over condition/value pairs and an optional default meets `FirstMatch`. -/
theorem caseOf_first_match {ps : List (String × String)} {dflt : Option String}
    (hbr : ∀ p ∈ ps, isTruthColumn n (eval p.1) = true ∧ (eval p.2).toBool = true)
    (hd : ∀ d ∈ dflt, ∃ v, eval d = .ok v ∧ Calc.Datum.widen n v ≠ .scalar .none) :
    ∃ col, caseOf n eval (ps.flatMap (fun p => [p.1, p.2]) ++ dflt.toList) = .ok (.column col) ∧
      FirstMatch n eval ps dflt col := by
  simp only [caseOf, casePairs_flat]
  rw [foldlM_caseBranch (fun ⟨_, _⟩ hp _ hr => caseStep (hbr _ hp) hr) (by simp)]
  simp only [bind, Except.bind, getD_replicate_none]
  cases dflt with
  | none =>
    simp only [Option.toList_none, List.append_nil, length_flatMap_pairs, Nat.mul_mod_right]
    refine ⟨_, rfl, rfl, by simp [Column.size], fun i hi => ?_⟩
    simpa [Column.cell, Array.getD_eq_getD_getElem?, hi] using
      foldl_takeBranch_missing (branchesAt n eval ps i) .none rfl
  | some d =>
    obtain ⟨v, hev, hne⟩ := hd d rfl
    refine ⟨_, ?_, rfl⟩
    simp [hev]
    refine congrArg (fun c => Except.ok (Calc.Datum.column (Column.infer .none c)))
      (Array.map_congr_left fun i hi => ?_)
    have ⟨hsome, hnone⟩ := foldl_takeBranch_missing (branchesAt n eval ps i) .none rfl
    simp only [Array.getElem?_range, Array.mem_range.1 hi, if_true, Option.map_some,
      Option.getD_some]
    cases hf : firstPresent (branchesAt n eval ps i) with
    | none => simp [hnone hf, valueAt]
    | some w => simp [hsome w hf, firstPresent_present hf]

theorem not_startsWith_if {s : String} (h : s.startsWith "case(" = true) :
    (s.startsWith "if(" || s.startsWith "if ") = false := by
  simp only [String.startsWith_string_iff] at h
  obtain ⟨r, hr⟩ := h
  simp [← hr, List.cons_prefix_cons]

/-- An expression that is no condition and reads as `case(…)` with arguments is `caseOf` them. -/
theorem ownValue_case {t : Table} {fuel : Nat} {expr : String} {args : List String}
    (hcond : condition t (fuel + 1) expr = .ok none)
    (hcase : (Text.lower expr).startsWith "case(" = true)
    (hargs : callArgs? expr = some args) (hne : args ≠ []) :
    ownValue t fuel eval expr = some <$> caseOf t.rowCount eval args := by
  rw [ownValue]
  simp [hcond, not_startsWith_if hcase, hcase, hargs, hne]
  rfl

theorem eq_ok_none {r : Outcome (Option Calc.Datum)} (h : (r matches .ok none) = true) :
    r = .ok none := by
  split at h
  · rfl
  · cases h

/-- In each row, `case` gives the value of the first branch that holds with a present value, else
the default's. -/
theorem case_takes_first_present_branch {t : Table} {fuel : Nat} {expr : String}
    {ps : List (String × String)} {dflt : Option String}
    (hcond : condition t (fuel + 1) (Text.trimBlanks expr) = .ok none)
    (hcase : (Text.lower (Text.trimBlanks expr)).startsWith "case(" = true)
    (hargs : callArgs? (Text.trimBlanks expr) =
      some (ps.flatMap (fun p => [p.1, p.2]) ++ dflt.toList))
    (hps : ps ≠ [])
    (hbr : ∀ p ∈ ps, isTruthColumn t.rowCount (evaluate t fuel p.1).1 = true ∧
      (evaluate t fuel p.2).1.toBool = true)
    (hd : ∀ d ∈ dflt, ∃ v, (evaluate t fuel d).1 = .ok v ∧
      Calc.Datum.widen t.rowCount v ≠ .scalar .none) :
    ∃ col, (evaluate t (fuel + 1) expr).1 = .ok (.column col) ∧
      FirstMatch t.rowCount (fun s => (evaluate t fuel s).1) ps dflt col := by
  obtain ⟨col, hcol, hspec⟩ := caseOf_first_match hbr hd
  have hne : ps.flatMap (fun p => [p.1, p.2]) ++ dflt.toList ≠ [] := by
    cases ps <;> simp_all
  refine ⟨col, ?_, hspec⟩
  rw [evaluate, ownValue_case hcond hcase hargs hne, hcol]
  rfl

theorem case_first_match_nested :
    let t : Table := ⟨#[⟨.str "a", .object, #[.str "x"]⟩], Table.rangeIndex 1⟩
    let e := "case(a==\"x\", case(a==\"y\", a==\"x\"), a==\"x\", a==\"x\")"
    let ps := [("a==\"x\"", "case(a==\"y\", a==\"x\")"), ("a==\"x\"", "a==\"x\"")]
    condition t 5 (Text.trimBlanks e) = .ok none ∧
      (Text.lower (Text.trimBlanks e)).startsWith "case(" = true ∧
      callArgs? (Text.trimBlanks e) = some (ps.flatMap (fun p => [p.1, p.2])) ∧
      (∀ p ∈ ps, isTruthColumn t.rowCount (evaluate t 4 p.1).1 = true ∧
        (evaluate t 4 p.2).1.toBool = true) ∧
      ∃ col, (evaluate t 5 e).1 = .ok (.column col) ∧
        FirstMatch t.rowCount (fun s => (evaluate t 4 s).1) ps none col := by
  intro t e ps
  have hcond : condition t 5 (Text.trimBlanks e) = .ok none := eq_ok_none (by decide +kernel)
  have hcase : (Text.lower (Text.trimBlanks e)).startsWith "case(" = true := by decide +kernel
  have hargs : callArgs? (Text.trimBlanks e) = some (ps.flatMap (fun p => [p.1, p.2])) := by
    decide +kernel
  have hbr : ∀ p ∈ ps, isTruthColumn t.rowCount (evaluate t 4 p.1).1 = true ∧
      (evaluate t 4 p.2).1.toBool = true := by decide +kernel
  exact ⟨hcond, hcase, hargs, hbr, @case_takes_first_present_branch t 4 e ps none hcond
    hcase hargs (by simp [ps]) hbr (by simp)⟩

/-- The first branch holds but its value is missing, and the row takes the second branch's
value instead. -/
theorem case_skips_missing_branch_value :
    let t : Table := ⟨#[⟨.str "a", .object, #[.str "x"]⟩], Table.rangeIndex 1⟩
    ((evaluate t 3 "a==\"x\"").1.toOption.map fun d => (cellAt d 0).truthy) = some true ∧
    ((evaluate t 3 "case(a==\"y\", a==\"x\")").1.toOption.map
      fun d => (cellAt d 0).isMissing) = some true ∧
    (((Command.derive [("f", "case(a==\"x\", case(a==\"y\", a==\"x\"), a==\"x\", a==\"x\")")]
      t).1.toOption.bind (·.find? "f")).map fun c => (c.cell 0).isMissing) = some false := by
  intro t
  exact ⟨by decide +kernel, by decide +kernel, by decide +kernel⟩

end PipeQuery.Derive
