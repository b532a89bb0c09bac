import PipeQuery.Command.Bucket
import Mathlib

/-!
# Rounding instants down to a span

A span such as `5m` is read as a count of nanoseconds, never negative (`spanNanos_ok`).
`bucket` rounds the 64-bit count of each instant of its column down to a multiple of that count.
For an instant at least one span above the smallest count, the rounded count stays in the 64-bit
range, so it is the start of the instant's span: a multiple `b` of the span with
`b ≤ t < b + span`. The column keeps its place and the other columns and the row labels are kept
(`bucket_floors_instants`).

"Not a time" is stored as the smallest count, and the rounding does not set it apart: its count
rounded down leaves the 64-bit range and wraps past the largest one, so a missing instant becomes
an instant in the year 2262 (`bucket_missing_instant_wraps`).
-/

namespace PipeQuery

/-! ### Spans -/

/-- A text of decimal digits is read as a count that is not negative: no digit is a sign. -/
theorem readInt?_digits_nonneg {s : String} (hs : ∀ c ∈ s.toList, Text.isDecimalDigit c = true)
    {n : Int} (h : Text.readInt? s = some n) : 0 ≤ n := by
  have hminus : Text.isDecimalDigit '-' = false := by decide +kernel
  have hsub : (Text.trimBlanks s).toList.Sublist s.toList := by
    simp only [Text.trimBlanks, String.toList_ofList]
    have hback : ((s.toList.dropWhile Text.isBlank).reverse.dropWhile Text.isBlank).Sublist
        (s.toList.dropWhile Text.isBlank).reverse := List.dropWhile_sublist _
    have hfront := hback.reverse
    rw [List.reverse_reverse] at hfront
    exact hfront.trans (List.dropWhile_sublist _)
  have hsign : (Text.signOf (Text.trimBlanks s).toList).1 = false := by
    unfold Text.signOf
    split
    · rename_i r hl
      have := hs '-' (hsub.subset (by simp [hl]))
      simp [hminus] at this
    · rfl
    · rfl
  simp only [Text.readInt?] at h
  split at h
  · split at h
    · cases h
    · simp only [hsign, Bool.false_eq_true, if_false, Option.some.injEq] at h
      omega
  · cases h

/-- A span is read as a count of nanoseconds that is not negative, the same whatever failure an
unreadable span would report. -/
theorem spanNanos_ok {f : Fault} {s : String} {span : Int} (h : spanNanos f s = .ok span)
    (g : Fault) : spanNanos g s = .ok span ∧ 0 ≤ span := by
  unfold spanNanos at h ⊢
  generalize (Text.lower s).toList = l at h ⊢
  dsimp only at h ⊢
  generalize (if (l.getLast? == some '\n') = true then l.dropLast else l) = cs at h ⊢
  cases hu : cs.getLast? with
  | none => simp [hu] at h
  | some unit =>
    cases hp : spanUnit? unit with
    | none => simp [hu, hp] at h
    | some perUnit =>
      simp only [hu, hp] at h ⊢
      by_cases hd : (cs.dropLast.isEmpty || !cs.dropLast.all Text.isDecimalDigit) = true
      · simp [hd, throw, throwThe, MonadExceptOf.throw, bind, Except.bind] at h
      rw [if_neg hd] at h ⊢
      cases hr : Text.readInt? (String.ofList cs.dropLast) with
      | none => simp [hr, throw, throwThe, MonadExceptOf.throw] at h
      | some count =>
        simp only [hr] at h ⊢
        by_cases hb : count * perUnit > Seen.int64Max
        · simp [hb, throw, throwThe, MonadExceptOf.throw, bind, Except.bind] at h
        rw [if_neg hb] at h ⊢
        cases h
        have hdigits : ∀ c ∈ (String.ofList cs.dropLast).toList, Text.isDecimalDigit c = true := by
          simp only [Bool.or_eq_true, Bool.not_eq_true', not_or, Bool.not_eq_false,
            List.all_eq_true] at hd
          simpa using hd.2
        have hu : 0 ≤ perUnit := by
          unfold spanUnit? at hp
          split at hp <;> cases hp <;> decide
        exact ⟨rfl, Int.mul_nonneg (readInt?_digits_nonneg hdigits hr) hu⟩

/-! ### Rounding a count -/

theorem wrap64_of_range {n : Int} (lo : Seen.int64Min ≤ n) (hi : n ≤ Seen.int64Max) :
    wrap64 n = n := by
  simp only [Seen.int64Min, Seen.int64Max] at lo hi
  simp only [wrap64, Seen.wordRange, Seen.int64Max]
  split_ifs <;> omega

/-- The count of an instant rounded down to the span: a multiple of the span at most the count and
within a span of it. -/
theorem floor_instant {span ns : Int} (hpos : 0 < span) (lo : Seen.int64Min + span ≤ ns)
    (hi : ns ≤ Seen.int64Max) :
    countInstant (wrap64 (Int.fdiv ns span * span)) = .time (ns / span * span) ∧
      ns / span * span ≤ ns ∧ ns < ns / span * span + span := by
  have hle : ns / span * span ≤ ns := Int.ediv_mul_le ns (by omega)
  have hlt : ns < (ns / span + 1) * span := Int.lt_ediv_add_one_mul_self ns hpos
  rw [Int.add_mul, Int.one_mul] at hlt
  have hmin : Seen.int64Min < ns / span * span := by omega
  rw [Int.fdiv_eq_ediv_of_nonneg _ hpos.le, wrap64_of_range hmin.le (by omega)]
  refine ⟨?_, hle, hlt⟩
  simp only [countInstant]
  rw [if_neg (by simpa using hmin.ne')]

/-! ### Replacing a column -/

theorem Column.same_label_str (c : Column) (n : String) :
    Value.same c.label (.str n) = c.named n := by
  rcases c with ⟨label, _, _⟩
  cases label <;> simp [Value.same, Column.named, Value.num?]

/-- Putting a column under the label of the column `find?` gives replaces that column in place. -/
theorem put_found {t : Table} {n : String} {c : Column} (h : t.find? n = some c) :
    ∃ i, t.columns[i]? = some c ∧
      ∀ d : Column, d.label = c.label → t.put d = { t with columns := t.columns.set! i d } := by
  obtain ⟨hn, i, hi, hci, hfirst⟩ := Array.find?_eq_some_iff_getElem.1 h
  have hlabel : c.label = .str n := by
    rcases c with ⟨label, _, _⟩
    cases label <;> simp_all [Column.named]
  refine ⟨i, by simp [hi, hci], fun d hd => ?_⟩
  have hidx : t.columns.findIdx? (fun e => Value.same e.label d.label) = some i := by
    rw [Array.findIdx?_eq_some_iff_getElem]
    refine ⟨hi, ?_, fun j hj => ?_⟩
    · rw [hd, hlabel, Column.same_label_str, hci, hn]
    · have := hfirst j hj
      rw [hd, hlabel, Column.same_label_str]
      simpa using this
  simp only [Table.put, hidx]

/-! ### `bucket` -/

/-- `bucket` with a positive span rounds each instant of its column down to the start of its span,
`b ≤ t < b + span`, keeping the other columns and the row labels. -/
theorem bucket_floors_instants {b : Bucketing} {t : Table} {c : Column} {f : Fault} {span : Int}
    (hne : t.isEmpty = false) (hc : t.find? b.field = some c) (hdt : c.dtype = .datetime)
    (hspan : spanNanos f b.span = .ok span) (hzero : span ≠ 0) :
    ∃ i cells, t.columns[i]? = some c ∧
      Command.bucket b t = .ok { t with columns := t.columns.set! i { c with cells } } ∧
      cells.size = c.cells.size ∧
      ∀ (j : Nat) ns, c.cells[j]? = some (Value.time ns) → Seen.int64Min + span ≤ ns →
        ns ≤ Seen.int64Max → ∃ k : Int, cells[j]? = some (Value.time (k * span)) ∧
          k * span ≤ ns ∧ ns < k * span + span := by
  have hpos : 0 < span := lt_of_le_of_ne (spanNanos_ok hspan f).2 (Ne.symm hzero)
  obtain ⟨i, hi, hput⟩ := put_found hc
  refine ⟨i, c.cells.map fun v => countInstant (wrap64 (Int.fdiv (instantCount v) span * span)),
    hi, ?_, by simp, fun j ns hj lo hi' => ?_⟩
  · simp [Command.bucket, hne, hc, (spanNanos_ok hspan _).1, hdt, hzero, bind, Except.bind, pure,
      Except.pure, hput]
  · obtain ⟨hcount, hle, hlt⟩ := floor_instant hpos lo hi'
    exact ⟨ns / span, by simp [hj, instantCount, hcount], hle, hlt⟩

/-- `2024-01-01 10:30` rounded down to the hour, the hypotheses of `bucket_floors_instants` checked
on a table of one instant. -/
theorem bucket_floors_half_past_ten :
    let c : Column := ⟨.str "_time", .datetime, #[.time 1704105000000000000]⟩
    let t : Table := ⟨#[c], #[.int 0]⟩
    ∃ i cells, t.columns[i]? = some c ∧
      Command.bucket { field := "_time", span := "1h" } t =
        .ok { t with columns := t.columns.set! i { c with cells } } ∧
      cells.size = c.cells.size ∧
      ∀ (j : Nat) ns, c.cells[j]? = some (Value.time ns) → Seen.int64Min + 3600000000000 ≤ ns →
        ns ≤ Seen.int64Max → ∃ k : Int, cells[j]? = some (Value.time (k * 3600000000000)) ∧
          k * 3600000000000 ≤ ns ∧ ns < k * 3600000000000 + 3600000000000 := by
  intro c t
  -- the kernel evaluates the span only through `toOption`, which has decidable equality
  have hspan : (spanNanos (.invalid "") "1h").toOption = some 3600000000000 := by decide +kernel
  exact bucket_floors_instants (f := .invalid "") (by decide +kernel) rfl rfl
    (by revert hspan; cases spanNanos (.invalid "") "1h" <;> simp [Except.toOption]) (by decide)

/-- A span of length zero raises nothing: every instant of the column becomes "not a time". -/
theorem bucket_zero_span {b : Bucketing} {t : Table} {c : Column} {f : Fault}
    (hne : t.isEmpty = false) (hc : t.find? b.field = some c) (hdt : c.dtype = .datetime)
    (hspan : spanNanos f b.span = .ok 0) :
    ∃ i, t.columns[i]? = some c ∧ Command.bucket b t =
      .ok { t with columns := t.columns.set! i { c with cells := c.cells.map fun _ => .nat } } := by
  obtain ⟨i, hi, hput⟩ := put_found hc
  refine ⟨i, hi, ?_⟩
  simp [Command.bucket, hne, hc, (spanNanos_ok hspan _).1, hdt, bind, Except.bind, pure,
    Except.pure, hput]

/-- A missing instant rounded down to the hour wraps around the 64-bit range. -/
theorem bucket_missing_instant_wraps :
    (Command.bucket { field := "_time", span := "1h" }
        ⟨#[⟨.str "_time", .datetime, #[.nat]⟩], #[.int 0]⟩).toOption.map
      (fun out => out.columns.toList.map fun c => (c.dtype, c.cells.toList.map instantCount)) =
      some [(.datetime, [9223371273709551616])] := by
  decide +kernel

end PipeQuery
