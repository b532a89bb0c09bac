import PipeQuery.Proofs.Embedding.Query

/-!
# Queries embedded in longer texts

Lexing joined texts gives the first's tokens without their end, then the second's
(`Token.scan_append`), so a query is `Embedded` in any longer text that holds it
(`Embedded.of_append`), and a text read whole is read alike there (`command_embedded`) unless it
ends in a condition.
-/

namespace PipeQuery.Query

open Token

/-! ### Tokens of joined arrays -/

section Tokens

variable {X Y T : Array Token}

theorem tokenAt_of_lt {i : Nat} (h : i < T.size) : tokenAt T i = T[i] := by
  unfold tokenAt
  rw [Array.getElem?_eq_getElem h]
  rfl

theorem tokenAt_of_back {t : Token} (ht : T.back? = some t) {i : Nat} (hi : T.size - 1 ≤ i) :
    tokenAt T i = t := by
  have hsize : T.size ≠ 0 := fun h => by simp [Array.back?_eq_getElem?, h] at ht
  unfold tokenAt
  rw [ht]
  rcases Nat.lt_or_ge i T.size with hlt | hge
  · rw [show i = T.size - 1 by omega, ← Array.back?_eq_getElem?, ht]
    rfl
  · rw [Array.getElem?_eq_none hge]
    rfl

theorem tokenAt_append_left {i : Nat} (h : i < X.size) : tokenAt (X ++ Y) i = tokenAt X i := by
  rw [tokenAt_of_lt (by simp; omega), tokenAt_of_lt h, Array.getElem_append_left h]

theorem tokenAt_append_right (hY : Y.size ≠ 0) (i : Nat) :
    tokenAt (X ++ Y) (X.size + i) = tokenAt Y i := by
  obtain ⟨t, ht⟩ : ∃ t, Y.back? = some t :=
    ⟨Y[Y.size - 1], by rw [Array.back?_eq_getElem?, Array.getElem?_eq_getElem (by omega)]⟩
  unfold tokenAt
  rw [Array.getElem?_append_right (by omega), Nat.add_sub_cancel_left, Array.back?_append, ht]
  rfl

end Tokens

theorem scan_back {s : String} {T : Array Token} (h : scan s = .ok T) :
    ∃ t, T.back? = some t ∧ t.kind = .eof :=
  scanFrom_last h

theorem views_size {A A' : Array Token} (hv : A'.map view = A.map view) : A'.size = A.size := by
  simpa using congrArg Array.size hv

/-- A text whose tokens have the kinds and texts `vs` has tokens. -/
theorem scan_of_views {s : String} {vs : Array (TokenKind × String)}
    (h : (scan s).map (·.map view) = .ok vs) : ∃ T, scan s = .ok T ∧ T.map view = vs := by
  cases hs : scan s with
  | error e => rw [hs] at h; cases h
  | ok T => rw [hs] at h; exact ⟨T, rfl, Except.ok.inj h⟩

theorem pop_append_of_size {X Y : Array Token} (h : Y.size ≠ 0) : (X ++ Y).pop = X ++ Y.pop := by
  rw [Array.pop_append, if_neg (by simp [Array.isEmpty, h])]

/-- Before the end of a first part `X` whose kinds and texts are `vs`, a joined array has them. -/
theorem view_tokenAt_append {X Y : Array Token} {vs : Array (TokenKind × String)}
    (h : X.map view = vs) {i : Nat} (hi : i < vs.size) : (tokenAt (X ++ Y) i).view = vs[i] := by
  have hs : X.size = vs.size := by simpa using congrArg Array.size h
  rw [tokenAt_append_left (by omega), tokenAt_of_lt (by omega)]
  have := congrArg (·[i]?) h
  simpa [Array.getElem?_eq_getElem (show i < X.size by omega), Array.getElem?_eq_getElem hi]
    using this

/-- The tokens of `A` but its end, then tokens `R` beginning with a closing one, after any tokens
`X`: `A` is embedded there. -/
theorem Embedded.of_append {A A' R X : Array Token} {t : Token} (hA : A.back? = some t)
    (ht : t.kind = .eof) (hv : A'.map view = A.map view) (hR : R.size ≠ 0)
    (hclose : (tokenAt R 0).kind.closes = true) :
    Embedded A (X ++ (A'.pop ++ R)) X.size (A.size - 1) := by
  have hsize := views_size hv
  have htail : (A'.pop ++ R).size ≠ 0 := by rw [Array.size_append]; omega
  refine ⟨fun x hx => ?_, fun x hx => ?_, ?_⟩
  · rw [Nat.add_comm, tokenAt_append_right htail, tokenAt_append_left (by simp; omega),
      tokenAt_of_lt (by simp; omega), tokenAt_of_lt (by omega), Array.getElem_pop]
    have := congrArg (·[x]?) hv
    simpa [Array.getElem?_eq_getElem (show x < A'.size by omega),
      Array.getElem?_eq_getElem (show x < A.size by omega)] using this
  · rw [tokenAt_of_back hA hx]
    exact ht
  · have hpop : A'.pop.size = A.size - 1 := by simp [hsize]
    rw [Nat.add_comm, tokenAt_append_right htail, ← hpop, ← Nat.add_zero A'.pop.size,
      tokenAt_append_right hR]
    exact hclose

/-! ### Texts read whole -/

/-- The text `q` is read as the query `Q`, every one of its tokens taken. -/
def ReadsWhole (q : String) (Q : Pipeline) : Prop :=
  ∃ A, scan q = .ok A ∧ (command A (readingBudget A.size)).run 0 = .ok (Q, A.size - 1)

/-- A text that lexes is parsed by reading its tokens from the first, with the full budget. -/
theorem parse_of_scan {q : String} {T : Array Token} (h : scan q = .ok T) :
    parse q = ((command T (readingBudget T.size)).run 0).map Prod.fst := by
  rw [Query.parse, h]
  rfl

theorem ReadsWhole.parse {q : String} {Q : Pipeline} (h : ReadsWhole q Q) : parse q = .ok Q := by
  obtain ⟨A, hA, hrun⟩ := h
  rw [parse_of_scan hA, hrun]
  rfl

theorem readingBudget_lt {n m : Nat} (h : n < m) : readingBudget n < readingBudget m := by
  unfold readingBudget
  omega

end PipeQuery.Query
