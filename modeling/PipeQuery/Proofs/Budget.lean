import PipeQuery.Proofs.Embedding.Texts

/-!
# The reading budget suffices

Every reader of `Query.parse` takes fuel and throws `tooDeep` when it runs out; `parse` gives them
`readingBudget n = 16 * (n + 2)` for `n` tokens. The budget never runs out (`parse_within_budget`).
A reader started at token `i` with fuel at least `16 * (n - i)` plus an offset of its own stops at
or after `i` without running out: each call costs one unit of fuel, and every loop takes a token
other than the end before it goes round again, which brings `16 * (n - i)` down by more than any
offset.
-/

namespace PipeQuery.Query

/-- Reading with `r` from token `i` does not run out of fuel, and stops at or after token `lo`. -/
def Bounded {α : Type} (r : TokenReader α) (i lo : Nat) : Prop :=
  r.run i ≠ .error .tooDeep ∧ ∀ v j, r.run i = .ok (v, j) → lo ≤ j

namespace Bounded

variable {α β : Type} {ts : Array Token} {i lo : Nat}

theorem returns {a : α} (h : lo ≤ i) : Bounded (pure a) i lo := by
  refine ⟨by rw [run_pure]; exact nofun, fun v j hv => ?_⟩
  simp only [run_pure, Except.ok.injEq, Prod.mk.injEq] at hv
  omega

theorem fails {e : ParseError} (h : e ≠ .tooDeep) : Bounded (throw e : TokenReader α) i lo :=
  ⟨by rw [run_throw]; exact fun he => h (Except.error.inj he), fun v j hv => by
    rw [run_throw] at hv; cases hv⟩

theorem weaken {r : TokenReader α} {lo' : Nat} (h : Bounded r i lo) (hl : lo' ≤ lo) :
    Bounded r i lo' :=
  ⟨h.1, fun v j hv => le_trans hl (h.2 v j hv)⟩

/-- Bounds compose along `>>=`: the second reader starts where the first may have stopped. -/
theorem seq {m : Nat} {r : TokenReader α} {g : α → TokenReader β} (hr : Bounded r i m)
    (hg : ∀ v j, m ≤ j → Bounded (g v) j lo) : Bounded (r >>= g) i lo := by
  unfold Bounded
  rw [run_bind]
  cases h : r.run i with
  | error e =>
    refine ⟨fun he => ?_, fun v j hv => by cases hv⟩
    dsimp only at he
    exact hr.1 (by rw [h, Except.error.inj he])
  | ok p =>
    obtain ⟨v, j⟩ := p
    exact hg v j (hr.2 v j h)

theorem isAt {ks : List TokenKind} {g : Bool → TokenReader α}
    (h : Bounded (g (ks.contains (tokenAt ts i).kind)) i lo) : Bounded (isAt ts ks >>= g) i lo := h

theorem cur {g : Token → TokenReader α} (h : Bounded (g (tokenAt ts i)) i lo) :
    Bounded (cur ts >>= g) i lo := h

theorem here {g : Nat → TokenReader α} (h : Bounded (g (tokenAt ts i).pos) i lo) :
    Bounded (here ts >>= g) i lo := h

theorem peekNext {g : Token → TokenReader α} (h : Bounded (g (tokenAt ts (i + 1))) i lo) :
    Bounded (peekNext ts >>= g) i lo := h

theorem advance {g : Token → TokenReader α} (h : Bounded (g (tokenAt ts i)) (i + 1) lo) :
    Bounded (advance ts >>= g) i lo := h

theorem fails_seq {e : ParseError} (h : e ≠ .tooDeep) {g : α → TokenReader β} :
    Bounded (throw e >>= g) i lo :=
  fails h

/-- `expect` goes on past the token it expects, and fails on any other. -/
theorem expect_seq {k : TokenKind} {g : Token → TokenReader α}
    (h : (tokenAt ts i).kind = k → Bounded (g (tokenAt ts i)) (i + 1) lo) :
    Bounded (Query.expect ts k >>= g) i lo := by
  unfold Query.expect
  rw [bind_assoc]
  refine cur ?_
  split
  · exact advance (h ‹_›)
  · exact fails_seq (by nofun)

theorem valueText : Bounded (valueText ts) i (i + 1) := by
  unfold Query.valueText
  refine cur ?_
  split
  · exact advance (returns le_rfl)
  · exact fails nofun

theorem spanText : Bounded (spanText ts) i (i + 1) := by
  unfold Query.spanText
  refine advance (isAt ?_)
  split
  · refine advance ?_
    dsimp only
    split <;> exact returns (by omega)
  · exact returns le_rfl

theorem headArgs : Bounded (headArgs ts) i i := by
  unfold Query.headArgs
  refine isAt ?_
  split
  · refine advance ?_
    split
    · exact here (returns (by omega))
    · exact fails nofun
  · exact returns le_rfl

theorem aliasPart {fn : String} {args : List Expr} {p : Nat} :
    Bounded (aliasPart ts fn args p) i i := by
  unfold Query.aliasPart
  refine isAt ?_
  split
  · refine advance (isAt ?_)
    split
    · exact advance (returns (by omega))
    · exact returns (by omega)
  · exact returns le_rfl

theorem numberLit (t : Token) : Bounded (numberLit t) i i := by
  unfold Query.numberLit
  split
  · exact returns le_rfl
  · exact fails nofun

end Bounded

section Budget

variable {ts : Array Token} (hb : ∃ t, ts.back? = some t ∧ t.kind = .eof)
include hb

theorem lt_size_of_kind {i : Nat} (h : (tokenAt ts i).kind ≠ .eof) : i < ts.size := by
  obtain ⟨t, ht, hk⟩ := hb
  by_contra hi
  exact h (by rw [tokenAt_of_back ht (by omega), hk])

theorem lt_size_of_contains {ks : List TokenKind} {i : Nat}
    (h : ks.contains (tokenAt ts i).kind = true) (hks : TokenKind.eof ∉ ks) : i < ts.size :=
  lt_size_of_kind hb fun he => hks (by simpa [he] using h)

theorem lt_size_of_not {ks : List TokenKind} {i : Nat}
    (h : ¬(!ks.contains (tokenAt ts i).kind) = true) (hks : TokenKind.eof ∉ ks) : i < ts.size :=
  lt_size_of_contains hb (by simpa using h) hks

/-- One step of an operator chain takes its operator, which is not the end, before the operand. -/
theorem chainStep_bounded {ops : List TokenKind} (hops : TokenKind.eof ∉ ops)
    {opText : Token → String} {operand : TokenReader Expr} {rest : Expr → TokenReader Expr}
    {l : Expr} {i : Nat}
    (h : i < ts.size → Bounded operand (i + 1) (i + 1) ∧ ∀ l j, i < j → Bounded (rest l) j j) :
    Bounded (chainStep ts ops opText operand rest l) i i := by
  unfold chainStep
  refine Bounded.isAt ?_
  split
  · obtain ⟨ho, hr⟩ := h (lt_size_of_contains hb ‹_› hops)
    exact Bounded.advance (ho.seq fun r j hj => Bounded.here ((hr _ j (by omega)).weaken (by omega)))
  · exact Bounded.returns le_rfl

end Budget

/-- The expression readers with fuel `f` stay within the budget: from token `i`, each needs
`16 * (n - i)` plus its offset, `1` for a factor up to `7` for call arguments. -/
structure ExprFits (ts : Array Token) (f : Nat) : Prop where
  orExpr : ∀ i, 16 * (ts.size - i) + 6 ≤ f → Bounded (orExpr ts f) i i
  orTail : ∀ i l, 16 * (ts.size - i) + 5 ≤ f → Bounded (orTail ts f l) i i
  andExpr : ∀ i, 16 * (ts.size - i) + 5 ≤ f → Bounded (andExpr ts f) i i
  andTail : ∀ i l, 16 * (ts.size - i) + 4 ≤ f → Bounded (andTail ts f l) i i
  comparison : ∀ i, 16 * (ts.size - i) + 4 ≤ f → Bounded (comparison ts f) i i
  comparisonTail : ∀ i l, 16 * (ts.size - i) + 3 ≤ f → Bounded (comparisonTail ts f l) i i
  additive : ∀ i, 16 * (ts.size - i) + 3 ≤ f → Bounded (additive ts f) i i
  additiveTail : ∀ i l, 16 * (ts.size - i) + 2 ≤ f → Bounded (additiveTail ts f l) i i
  multiplicative : ∀ i, 16 * (ts.size - i) + 2 ≤ f → Bounded (multiplicative ts f) i i
  multiplicativeTail : ∀ i l, 16 * (ts.size - i) + 1 ≤ f → Bounded (multiplicativeTail ts f l) i i
  primary : ∀ i, 16 * (ts.size - i) + 1 ≤ f → Bounded (primary ts f) i i
  callArgs : ∀ i acc, 16 * (ts.size - i) + 7 ≤ f → Bounded (callArgs ts f acc) i i

/-- By induction on the fuel: a level reads its first operand with one unit less and the same
token, its chain goes on only past an operator. -/
theorem exprFits {ts : Array Token} (hb : ∃ t, ts.back? = some t ∧ t.kind = .eof) (f : Nat) :
    ExprFits ts f := by
  induction f with
  | zero => constructor <;> intros <;> omega
  | succ f ih =>
    -- a level first reads the level below, then its chain from where that stopped
    have level : ∀ {α : Type} {r : TokenReader α} {g : α → TokenReader Expr} {i : Nat},
        Bounded r i i → (∀ v j, i ≤ j → Bounded (g v) j j) → Bounded (r >>= g) i i :=
      fun hr hg => hr.seq fun v j hj => (hg v j hj).weaken hj
    refine ⟨?orExpr, ?orTail, ?andExpr, ?andTail, ?comparison, ?comparisonTail, ?additive,
      ?additiveTail, ?multiplicative, ?multiplicativeTail, ?primary, ?callArgs⟩
    case orExpr => exact fun i h => level (ih.andExpr i (by omega)) fun l j _ => ih.orTail j l (by omega)
    case andExpr => exact fun i h => level (ih.comparison i (by omega)) fun l j _ => ih.andTail j l (by omega)
    case comparison =>
      exact fun i h => level (ih.additive i (by omega)) fun l j _ => ih.comparisonTail j l (by omega)
    case additive =>
      exact fun i h => level (ih.multiplicative i (by omega)) fun l j _ => ih.additiveTail j l (by omega)
    case multiplicative =>
      exact fun i h => level (ih.primary i (by omega)) fun l j _ => ih.multiplicativeTail j l (by omega)
    case orTail =>
      intro i l h
      exact chainStep_bounded hb (by decide) fun hi =>
        ⟨ih.andExpr _ (by omega), fun l j _ => ih.orTail j l (by omega)⟩
    case andTail =>
      intro i l h
      exact chainStep_bounded hb (by decide) fun hi =>
        ⟨ih.comparison _ (by omega), fun l j _ => ih.andTail j l (by omega)⟩
    case comparisonTail =>
      intro i l h
      exact chainStep_bounded hb (by decide) fun hi =>
        ⟨ih.additive _ (by omega), fun l j _ => ih.comparisonTail j l (by omega)⟩
    case additiveTail =>
      intro i l h
      exact chainStep_bounded hb (by decide) fun hi =>
        ⟨ih.multiplicative _ (by omega), fun l j _ => ih.additiveTail j l (by omega)⟩
    case multiplicativeTail =>
      intro i l h
      exact chainStep_bounded hb (by decide) fun hi =>
        ⟨ih.primary _ (by omega), fun l j _ => ih.multiplicativeTail j l (by omega)⟩
    case primary =>
      intro i h
      refine Bounded.cur ?_
      split
      case h_1 hk =>
        have hi := lt_size_of_kind hb (by rw [hk]; decide)
        refine Bounded.advance ((ih.orExpr _ (by omega)).seq fun e j hj => ?_)
        exact Bounded.expect_seq fun _ => Bounded.returns (by omega)
      case h_2 hk =>
        exact Bounded.advance (Bounded.returns (by omega))
      case h_3 hk =>
        exact Bounded.advance ((Bounded.numberLit _).seq fun _ j hj => Bounded.returns (by omega))
      case h_4 hk =>
        have hi := lt_size_of_kind hb (by rw [hk]; decide)
        refine Bounded.advance (Bounded.isAt ?_)
        split
        · have hi' := lt_size_of_contains hb ‹_› (by decide)
          refine Bounded.advance ((ih.callArgs _ [] (by omega)).seq fun as j hj => ?_)
          exact Bounded.expect_seq fun _ => Bounded.returns (by omega)
        · exact Bounded.returns (by omega)
      case h_5 => exact Bounded.fails nofun
    case callArgs =>
      intro i acc h
      refine Bounded.isAt ?_
      split
      · exact Bounded.returns le_rfl
      refine (ih.orExpr i (by omega)).seq fun a j hj => Bounded.isAt ?_
      split
      · have hj' := lt_size_of_contains hb ‹_› (by decide)
        exact Bounded.advance ((ih.callArgs _ _ (by omega)).weaken (by omega))
      · exact Bounded.returns hj

section Arguments

variable {ts : Array Token} (hb : ∃ t, ts.back? = some t ∧ t.kind = .eof)
include hb

/-! ### The loops of stage arguments

Each loop needs `16 * (n - i) + 1`: it stops, fails, or takes a token other than the end before
it goes round again. -/

theorem byList_bounded : ∀ f i acc, 16 * (ts.size - i) + 1 ≤ f → Bounded (byList ts f acc) i i
  | 0, _, _, h => by omega
  | f + 1, i, acc, h => by
    rw [byList]
    refine Bounded.isAt ?_
    split
    · exact Bounded.returns le_rfl
    refine Bounded.isAt ?_
    split
    · have hi := lt_size_of_contains hb ‹_› (by decide)
      refine Bounded.advance (Bounded.isAt ?_)
      split
      · exact Bounded.advance ((byList_bounded f _ _ (by omega)).weaken (by omega))
      · exact (byList_bounded f _ _ (by omega)).weaken (by omega)
    · exact Bounded.returns le_rfl

theorem searchParams_bounded : ∀ f i index params, 16 * (ts.size - i) + 1 ≤ f →
    Bounded (searchParams ts f index params) i i
  | 0, _, _, _, h => by omega
  | f + 1, i, index, params, h => by
    rw [searchParams]
    refine Bounded.isAt ?_
    split
    · exact Bounded.returns le_rfl
    refine Bounded.isAt ?_
    split
    · exact Bounded.returns le_rfl
    next hk =>
    have hi := lt_size_of_not hb hk (by decide)
    have next : ∀ j index params, i < j → Bounded (searchParams ts f index params) j i :=
      fun j _ _ hj => (searchParams_bounded f _ _ _ (by omega)).weaken (by omega)
    refine Bounded.advance (Bounded.isAt ?_)
    split
    · refine Bounded.advance (Bounded.valueText.seq fun v j hj => ?_)
      split <;> exact next j _ _ (by omega)
    · split <;> exact next _ _ _ (by omega)

theorem unionParts_bounded : ∀ f i acc, 16 * (ts.size - i) + 1 ≤ f →
    Bounded (unionParts ts f acc) i i
  | 0, _, _, h => by omega
  | f + 1, i, acc, h => by
    have tail : ∀ j acc, i < j → i < ts.size → Bounded (unionTail ts f acc) j j := by
      intro j acc hj hi
      unfold unionTail
      refine Bounded.isAt ?_
      split
      · exact Bounded.advance ((unionParts_bounded f _ _ (by omega)).weaken (by omega))
      refine Bounded.isAt ?_
      split
      · exact unionParts_bounded f _ _ (by omega)
      · exact Bounded.returns le_rfl
    rw [unionParts_succ]
    refine Bounded.isAt ?_
    split
    · exact Bounded.returns le_rfl
    next hstop =>
    refine Bounded.isAt ?_
    split
    · have hi := lt_size_of_contains hb ‹_› (by decide)
      refine Bounded.advance (Bounded.isAt ?_)
      split
      · exact Bounded.advance (Bounded.valueText.seq fun v j hj =>
          Bounded.here ((tail j _ (by omega) hi).weaken (by omega)))
      · exact Bounded.here (Bounded.fails_seq (by nofun))
    · unfold unionTail
      refine Bounded.isAt ?_
      split
      · have hi := lt_size_of_contains hb ‹_› (by decide)
        exact Bounded.advance ((unionParts_bounded f _ _ (by omega)).weaken (by omega))
      refine Bounded.isAt ?_
      split
      · simp_all
      · exact Bounded.returns le_rfl

/-- An aggregation starts on its function's name, which it takes. -/
theorem aggregation_bounded (f i : Nat) (h : 16 * (ts.size - i) ≤ f) :
    Bounded (aggregation ts f) i (i + 1) := by
  rw [aggregation_eq]
  refine Bounded.here (Bounded.advance (Bounded.isAt ?_))
  split
  · have hi := lt_size_of_contains hb ‹_› (by decide)
    refine Bounded.advance (((exprFits hb f).callArgs _ [] (by omega)).seq fun as j hj => ?_)
    exact Bounded.expect_seq fun _ => Bounded.aliasPart.weaken (by omega)
  · exact Bounded.aliasPart

theorem aggregations_bounded : ∀ f i acc, 16 * (ts.size - i) + 1 ≤ f →
    Bounded (aggregations ts f acc) i i
  | 0, _, _, h => by omega
  | f + 1, i, acc, h => by
    rw [aggregations]
    refine Bounded.isAt ?_
    split
    · exact Bounded.returns le_rfl
    refine Bounded.isAt ?_
    split
    · have hi := lt_size_of_contains hb ‹_› (by decide)
      refine (aggregation_bounded hb f i (by omega)).seq fun a j hj => Bounded.isAt ?_
      split
      · exact Bounded.advance ((aggregations_bounded f _ _ (by omega)).weaken (by omega))
      · exact (aggregations_bounded f _ _ (by omega)).weaken (by omega)
    · exact Bounded.returns le_rfl

theorem assignments_bounded : ∀ f i acc, 16 * (ts.size - i) + 1 ≤ f →
    Bounded (assignments ts f acc) i i
  | 0, _, _, h => by omega
  | f + 1, i, acc, h => by
    rw [assignments]
    refine Bounded.isAt ?_
    split
    · exact Bounded.returns le_rfl
    refine Bounded.isAt ?_
    split
    · exact Bounded.returns le_rfl
    next hk =>
    have hi := lt_size_of_not hb hk (by decide)
    refine Bounded.advance (Bounded.isAt ?_)
    split
    · exact Bounded.returns (by omega)
    refine Bounded.advance (((exprFits hb f).orExpr _ (by omega)).seq fun e j hj =>
      Bounded.here (Bounded.isAt ?_))
    split
    · exact Bounded.advance ((assignments_bounded f _ _ (by omega)).weaken (by omega))
    · exact (assignments_bounded f _ _ (by omega)).weaken (by omega)

theorem sortKeys_bounded : ∀ f i acc, 16 * (ts.size - i) + 1 ≤ f →
    Bounded (sortKeys ts f acc) i i
  | 0, _, _, h => by omega
  | f + 1, i, acc, h => by
    have tail : ∀ j acc, i < j → i < ts.size → Bounded (sortTail ts f acc) j j := by
      intro j acc hj hi
      unfold sortTail
      refine Bounded.isAt ?_
      split
      · exact Bounded.advance ((sortKeys_bounded f _ _ (by omega)).weaken (by omega))
      refine Bounded.isAt ?_
      split
      · exact sortKeys_bounded f _ _ (by omega)
      refine Bounded.isAt ?_
      split
      · exact sortKeys_bounded f _ _ (by omega)
      · exact Bounded.returns le_rfl
    rw [sortKeys_succ]
    refine Bounded.isAt ?_
    split
    · exact Bounded.returns le_rfl
    next hstop =>
    refine Bounded.isAt ?_
    split
    · have hi := lt_size_of_contains hb ‹_› (by decide)
      refine Bounded.advance (Bounded.isAt ?_)
      split
      · exact Bounded.advance (Bounded.here ((tail _ _ (by omega) hi).weaken (by omega)))
      · exact (tail _ _ (by omega) hi).weaken (by omega)
    next hminus =>
    refine Bounded.isAt ?_
    split
    · have hi := lt_size_of_contains hb ‹_› (by decide)
      exact Bounded.advance (Bounded.here ((tail _ _ (by omega) hi).weaken (by omega)))
    · unfold sortTail
      refine Bounded.isAt ?_
      split
      · have hi := lt_size_of_contains hb ‹_› (by decide)
        exact Bounded.advance ((sortKeys_bounded f _ _ (by omega)).weaken (by omega))
      refine Bounded.isAt ?_
      split
      · simp_all
      refine Bounded.isAt ?_
      split
      · simp_all
      · exact Bounded.returns le_rfl

theorem restOfStage_bounded : ∀ f i acc, 16 * (ts.size - i) + 1 ≤ f →
    Bounded (restOfStage ts f acc) i i
  | 0, _, _, h => by omega
  | f + 1, i, acc, h => by
    rw [restOfStage]
    refine Bounded.isAt ?_
    split
    · exact Bounded.returns le_rfl
    next hk =>
    have hi : i < ts.size := lt_size_of_kind hb fun he => hk (by simp [he])
    exact Bounded.advance ((restOfStage_bounded f _ _ (by omega)).weaken (by omega))

theorem spanPairs_bounded (key : String) : ∀ f i acc, 16 * (ts.size - i) + 1 ≤ f →
    Bounded (spanPairs ts key f acc) i i
  | 0, _, _, h => by omega
  | f + 1, i, acc, h => by
    rw [spanPairs]
    refine Bounded.isAt ?_
    split
    · exact Bounded.returns le_rfl
    refine Bounded.isAt ?_
    split
    · exact Bounded.returns le_rfl
    next hk =>
    have hi := lt_size_of_not hb hk (by decide)
    have next : ∀ j acc, i < j → Bounded (spanPairs ts key f acc) j i :=
      fun j _ hj => (spanPairs_bounded key f _ _ (by omega)).weaken (by omega)
    refine Bounded.peekNext ?_
    split
    · exact Bounded.returns le_rfl
    refine Bounded.advance (Bounded.advance (Bounded.isAt ?_))
    split
    · exact Bounded.spanText.seq fun s j hj => Bounded.here (next j _ (by omega))
    · exact ((exprFits hb f).primary _ (by omega)).seq fun v j hj => Bounded.here (next j _ (by omega))

theorem searchArgs_bounded : ∀ f i acc, 16 * (ts.size - i) + 1 ≤ f →
    Bounded (searchArgs ts f acc) i i
  | 0, _, _, h => by omega
  | f + 1, i, acc, h => by
    rw [searchArgs]
    refine Bounded.isAt ?_
    split
    · exact Bounded.returns le_rfl
    refine Bounded.isAt ?_
    split
    · exact Bounded.returns le_rfl
    next hk =>
    have hi := lt_size_of_not hb hk (by decide)
    have next : ∀ j acc, i < j → Bounded (searchArgs ts f acc) j i :=
      fun j _ hj => (searchArgs_bounded f _ _ (by omega)).weaken (by omega)
    have byValue : ∀ key, Bounded (do
        let v ← value ts f
        searchArgs ts f (acc.push (.keyword key v (← here ts)))) (i + 2) i :=
      fun _ => ((exprFits hb f).primary _ (by omega)).seq fun v j hj => Bounded.here (next j _ (by omega))
    refine Bounded.peekNext ?_
    split
    · exact Bounded.returns le_rfl
    refine Bounded.advance (Bounded.advance ?_)
    split
    · refine Bounded.isAt ?_
      split
      · exact Bounded.spanText.seq fun s j hj => Bounded.here (next j _ (by omega))
      refine Bounded.isAt ?_
      split
      · exact Bounded.advance (Bounded.here (next _ _ (by omega)))
      · exact byValue _
    · exact byValue _

theorem wildcardRun_bounded : ∀ f i acc, 16 * (ts.size - i) + 1 ≤ f →
    Bounded (wildcardRun ts f acc) i i
  | 0, _, _, h => by omega
  | f + 1, i, acc, h => by
    simp only [wildcardRun]
    refine Bounded.isAt ?_
    split
    · exact Bounded.returns le_rfl
    have next : i < ts.size → ∀ acc, Bounded (wildcardRun ts f acc) (i + 1) i :=
      fun hi _ => (wildcardRun_bounded f _ _ (by omega)).weaken (by omega)
    refine Bounded.isAt ?_
    split
    · have hi := lt_size_of_contains hb ‹_› (by decide)
      split
      · split
        · exact Bounded.advance (next hi _)
        · exact Bounded.advance (next hi _)
      · exact Bounded.advance (next hi _)
    refine Bounded.isAt ?_
    split
    · have hi := lt_size_of_contains hb ‹_› (by decide)
      split
      · split
        · exact Bounded.advance (next hi _)
        refine Bounded.peekNext ?_
        split
        · exact Bounded.advance (next hi _)
        · exact Bounded.returns le_rfl
      · refine Bounded.peekNext ?_
        split
        · exact Bounded.advance (next hi _)
        · exact Bounded.returns le_rfl
    · exact Bounded.returns le_rfl

/-! ### The readers of a stage's arguments -/

theorem source_bounded (f i : Nat) (h : 16 * (ts.size - i) ≤ f) : Bounded (source ts f) i i := by
  unfold source
  refine Bounded.here (Bounded.isAt ?_)
  split
  · have hi := lt_size_of_contains hb ‹_› (by decide)
    refine Bounded.advance ((unionParts_bounded hb f _ _ (by omega)).seq fun parts j hj => ?_)
    refine Bounded.expect_seq fun _ => ?_
    split
    · exact Bounded.here (Bounded.fails (by nofun))
    · exact Bounded.returns (by omega)
    · exact Bounded.returns (by omega)
  refine Bounded.isAt ?_
  split
  · have hi := lt_size_of_contains hb ‹_› (by decide)
    refine Bounded.advance (Bounded.isAt ?_)
    split
    · exact Bounded.advance (Bounded.valueText.seq fun _ j hj => Bounded.returns (by omega))
    split
    · refine (searchParams_bounded hb f _ _ _ (by omega)).seq fun v j hj => ?_
      obtain ⟨_, _⟩ := v
      exact Bounded.returns (by omega)
    · exact Bounded.returns (by omega)
  · exact Bounded.here (Bounded.fails (by nofun))

theorem statsArgs_bounded (f i : Nat) (h : 16 * (ts.size - i) + 1 ≤ f) :
    Bounded (statsArgs ts f) i i := by
  unfold statsArgs
  refine (aggregations_bounded hb f i _ h).seq fun aggs j hj => Bounded.isAt ?_
  split
  · exact Bounded.advance ((byList_bounded hb f _ _ (by omega)).seq fun _ k hk =>
      Bounded.returns (by omega))
  · exact Bounded.returns hj

theorem conditionArgs_bounded (f i : Nat) (h : 16 * (ts.size - i) + 1 ≤ f) :
    Bounded (conditionArgs ts f) i i := by
  unfold conditionArgs
  refine Bounded.here ((restOfStage_bounded hb f i _ h).seq fun ps j hj => ?_)
  dsimp only
  split <;> exact Bounded.returns hj

theorem fieldAndSpans_bounded (key : String) (f i : Nat) (h : 16 * (ts.size - i) + 1 ≤ f) :
    Bounded (fieldAndSpans ts key f) i i := by
  unfold fieldAndSpans
  refine Bounded.isAt ?_
  split
  · exact Bounded.advance (Bounded.here ((spanPairs_bounded hb key f _ _ (by omega)).seq
      fun _ j hj => Bounded.returns (by omega)))
  · exact (spanPairs_bounded hb key f _ _ h).seq fun _ j hj => Bounded.returns hj

end Arguments

/-! ### Queries, stages and subqueries -/

/-- The readers of queries, stages and subqueries with fuel `f` stay within the budget; a subquery
takes at least its `[`. -/
structure CommandFits (ts : Array Token) (f : Nat) : Prop where
  command : ∀ i, 16 * (ts.size - i) + 2 ≤ f → Bounded (command ts f) i i
  stageList : ∀ i acc, 16 * (ts.size - i) + 1 ≤ f → Bounded (stageList ts f acc) i i
  subquery : ∀ i, 16 * (ts.size - i) + 1 ≤ f → Bounded (subquery ts f) i (i + 1)
  stage : ∀ i, 16 * (ts.size - i) + 1 ≤ f → Bounded (stage ts f) i i
  joinArgs : ∀ i, 16 * (ts.size - i) + 2 ≤ f → Bounded (joinArgs ts f) i i
  generalArgs : ∀ i parts, 16 * (ts.size - i) + 2 ≤ f → Bounded (generalArgs ts f parts) i i

/-- By induction on the fuel; a subquery goes back to `command` only past its `[`. -/
theorem commandFits {ts : Array Token} (hb : ∃ t, ts.back? = some t ∧ t.kind = .eof) (f : Nat) :
    CommandFits ts f := by
  induction f with
  | zero => constructor <;> intros <;> omega
  | succ f ih =>
    refine ⟨?command, ?stageList, ?subquery, ?stage, ?joinArgs, ?generalArgs⟩
    case command =>
      intro i h
      refine Bounded.here ((source_bounded hb f i (by omega)).seq fun src j hj => ?_)
      exact (ih.stageList j _ (by omega)).seq fun _ k hk => Bounded.returns (by omega)
    case stageList =>
      intro i acc h
      refine Bounded.isAt ?_
      split
      · have hi := lt_size_of_contains hb ‹_› (by decide)
        exact Bounded.advance ((ih.stage _ (by omega)).seq fun st j hj =>
          (ih.stageList j _ (by omega)).weaken (by omega))
      · exact Bounded.returns le_rfl
    case subquery =>
      intro i h
      refine Bounded.here (Bounded.expect_seq fun hk => ?_)
      have hi := lt_size_of_kind hb (by rw [hk]; decide)
      exact (ih.command _ (by omega)).seq fun q j hj =>
        Bounded.expect_seq fun _ => Bounded.returns (by omega)
    case stage =>
      intro i h
      refine Bounded.here (Bounded.isAt ?_)
      split
      · exact Bounded.fails (by nofun)
      next hk =>
      have hi := lt_size_of_not hb hk (by decide)
      refine Bounded.advance ?_
      dsimp only
      generalize Text.lower (tokenAt ts i).text = name
      split
      -- reducible unification tells the readers apart without unfolding them
      all_goals with_reducible first
        | exact (statsArgs_bounded hb f (i + 1) (by omega)).seq fun _ _ h => Bounded.returns (by omega)
        | exact (assignments_bounded hb f (i + 1) _ (by omega)).seq fun _ _ h =>
            (Bounded.returns h).seq fun _ _ h => Bounded.returns (by omega)
        | exact (sortKeys_bounded hb f (i + 1) _ (by omega)).seq fun _ _ h =>
            (Bounded.returns h).seq fun _ _ h => Bounded.returns (by omega)
        | exact (searchArgs_bounded hb f (i + 1) _ (by omega)).seq fun _ _ h =>
            (Bounded.returns h).seq fun _ _ h => Bounded.returns (by omega)
        | exact (ih.joinArgs (i + 1) (by omega)).seq fun _ _ h => Bounded.returns (by omega)
        | exact Bounded.headArgs.seq fun _ _ h => Bounded.returns (by omega)
        | exact (conditionArgs_bounded hb f (i + 1) (by omega)).seq fun _ _ h => Bounded.returns (by omega)
        | exact (fieldAndSpans_bounded hb _ f (i + 1) (by omega)).seq fun _ _ h => Bounded.returns (by omega)
        | exact (ih.generalArgs (i + 1) _ (by omega)).seq fun _ _ h => Bounded.returns (by omega)
    case joinArgs =>
      intro i h
      refine Bounded.isAt ?_
      split
      · refine Bounded.advance (Bounded.here (Bounded.isAt ?_))
        split
        · exact (ih.subquery _ (by omega)).seq fun _ j hj => Bounded.returns (by omega)
        · exact Bounded.returns (by omega)
      · refine Bounded.isAt ?_
        split
        · exact (ih.subquery _ (by omega)).seq fun _ j hj => Bounded.returns (by omega)
        · exact Bounded.returns le_rfl
    case generalArgs =>
      intro i parts h
      have next : ∀ j parts, i < j → i < ts.size → Bounded (generalArgs ts f parts) j i :=
        fun j _ hj hi => (ih.generalArgs j _ (by omega)).weaken (by omega)
      refine Bounded.isAt ?_
      split
      · exact Bounded.returns le_rfl
      refine Bounded.isAt (Bounded.peekNext ?_)
      split
      next hk =>
        have hi := lt_size_of_contains hb (Bool.and_eq_true_iff.1 hk).1 (by decide)
        exact Bounded.advance (Bounded.advance (((exprFits hb f).primary _ (by omega)).seq
          fun v j hj => Bounded.here (next j _ (by omega) hi)))
      refine Bounded.isAt ?_
      split
      · have hi := lt_size_of_contains hb ‹_› (by decide)
        exact (ih.subquery i (by omega)).seq fun q j hj => next j _ (by omega) hi
      refine Bounded.isAt ?_
      split
      · have hi := lt_size_of_contains hb ‹_› (by decide)
        exact Bounded.advance ((byList_bounded hb f _ _ (by omega)).seq fun _ j hj =>
          next j _ (by omega) hi)
      refine Bounded.isAt ?_
      split
      all_goals
        (try refine Bounded.advance ?_)
        refine Bounded.isAt ?_
        split
        · have hj := lt_size_of_contains hb ‹_› (by decide)
          refine Bounded.here (Bounded.advance ((wildcardRun_bounded hb f _ _ (by omega)).seq
            fun toks k hk => Bounded.isAt ?_))
          split
          · exact Bounded.advance (next _ _ (by omega) (by omega))
          · exact next _ _ (by omega) (by omega)
        · split
          · exact Bounded.here (Bounded.fails (by nofun))
          · exact Bounded.returns (by omega)

/-- Reading a query never runs out of its budget: whatever `parse` answers, it is not `tooDeep`,
so every loop of the reader stops on every text. -/
theorem parse_within_budget (s : String) : parse s ≠ .error .tooDeep := by
  unfold parse
  split
  · exact nofun
  next ts hs =>
    have h := (commandFits (scan_back hs) (readingBudget ts.size)).command 0
      (by unfold readingBudget; omega)
    intro he
    rw [StateT.run'_eq] at he
    cases hr : (command ts (readingBudget ts.size)).run 0 with
    | ok p => rw [hr] at he; cases he
    | error e => rw [hr] at he; exact h.1 (by rw [hr]; cases he; rfl)

end PipeQuery.Query
