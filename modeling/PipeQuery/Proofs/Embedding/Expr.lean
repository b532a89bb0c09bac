import PipeQuery.Proofs.Embedding

/-!
# Expressions of an embedded query

The twelve expression readers read an embedded query alike (`exprSim`), by one induction on their
fuel; the five operator chains are instances of `chainStep` (`chainStep_sim`). An expression cannot
start on a closing token (`orExpr_error_of_closes`), so at the end of `A` both sides fail.
-/

namespace PipeQuery.Query

/-! ### A step of an operator chain -/

/-- One step of a left-associative chain: on a token of a kind in `ops`, take it and an operand, and
go on with `rest` from the combined expression. -/
def chainStep (ts : Array Token) (ops : List TokenKind) (opText : Token → String)
    (operand : TokenReader Expr) (rest : Expr → TokenReader Expr) (l : Expr) : TokenReader Expr := do
  if ← isAt ts ops then
    let t ← advance ts
    let r ← operand
    rest (.binary l (opText t) r (← here ts))
  else pure l

section Chains

variable (ts : Array Token) (f : Nat) (l : Expr)

theorem orTail_succ :
    orTail ts (f + 1) l = chainStep ts [.orKw] (fun _ => "OR") (andExpr ts f) (orTail ts f) l := rfl

theorem andTail_succ : andTail ts (f + 1) l =
    chainStep ts [.andKw] (fun _ => "AND") (comparison ts f) (andTail ts f) l := rfl

theorem comparisonTail_succ : comparisonTail ts (f + 1) l =
    chainStep ts [.gt, .lt, .ge, .le, .eq, .ne, .assign]
      (fun t => if t.kind = .assign then "==" else t.text) (additive ts f) (comparisonTail ts f) l :=
  rfl

theorem additiveTail_succ : additiveTail ts (f + 1) l =
    chainStep ts [.plus, .minus] (·.text) (multiplicative ts f) (additiveTail ts f) l := rfl

theorem multiplicativeTail_succ : multiplicativeTail ts (f + 1) l =
    chainStep ts [.star, .slash] (·.text) (primary ts f) (multiplicativeTail ts f) l := rfl

end Chains

/-! ### Nothing starts on a closing token -/

theorem bind_error {α β : Type} {m : TokenReader α} {g : α → TokenReader β} {x : Nat}
    {err : ParseError} (h : m.run x = .error err) : (m >>= g).run x = .error err := by
  rw [run_bind, h]

theorem primary_error_of_closes (ts : Array Token) (f x : Nat)
    (h : (tokenAt ts x).kind.closes = true) : ∃ err, (primary ts f).run x = .error err := by
  cases f with
  | zero => exact ⟨_, rfl⟩
  | succ f =>
    rw [primary, run_bind, cur_run]
    dsimp only
    rcases TokenKind.eq_of_closes h with hk | hk | hk | hk | hk | hk <;> rw [hk] <;> exact ⟨_, rfl⟩

/-- An expression cannot start on a closing token: each level reads its first operand with the
level below, down to `primary`. -/
theorem orExpr_error_of_closes (ts : Array Token) (x : Nat)
    (h : (tokenAt ts x).kind.closes = true) (f : Nat) : ∃ err, (orExpr ts f).run x = .error err := by
  have hmul : ∀ f, ∃ err, (multiplicative ts f).run x = .error err := fun f => by
    cases f with
    | zero => exact ⟨_, rfl⟩
    | succ f =>
      obtain ⟨err, h'⟩ := primary_error_of_closes ts f x h
      exact ⟨err, by rw [multiplicative]; exact bind_error h'⟩
  have hadd : ∀ f, ∃ err, (additive ts f).run x = .error err := fun f => by
    cases f with
    | zero => exact ⟨_, rfl⟩
    | succ f =>
      obtain ⟨err, h'⟩ := hmul f
      exact ⟨err, by rw [additive]; exact bind_error h'⟩
  have hcmp : ∀ f, ∃ err, (comparison ts f).run x = .error err := fun f => by
    cases f with
    | zero => exact ⟨_, rfl⟩
    | succ f =>
      obtain ⟨err, h'⟩ := hadd f
      exact ⟨err, by rw [comparison]; exact bind_error h'⟩
  have hand : ∀ f, ∃ err, (andExpr ts f).run x = .error err := fun f => by
    cases f with
    | zero => exact ⟨_, rfl⟩
    | succ f =>
      obtain ⟨err, h'⟩ := hcmp f
      exact ⟨err, by rw [andExpr]; exact bind_error h'⟩
  cases f with
  | zero => exact ⟨_, rfl⟩
  | succ f =>
    obtain ⟨err, h'⟩ := hand f
    exact ⟨err, by rw [orExpr]; exact bind_error h'⟩

/-! ### Reading alike -/

section Alike

variable {A B : Array Token} {k e : Nat} {P : Nat → Prop}

theorem chainStep_sim (hm : Embedded A B k e) {ops : List TokenKind}
    (hops : ∀ c ∈ ops, c.closes = false) {opText : Token → String}
    (hop : ∀ t u : Token, u.view = t.view → opText u = opText t)
    {operandA operandB : TokenReader Expr} {restA restB : Expr → TokenReader Expr}
    (hoperand : ∀ {P : Nat → Prop}, Sim k e P operandA operandB (fun v w _ => w.erase = v.erase))
    (hrest : ∀ {P : Nat → Prop} (l l' : Expr), l'.erase = l.erase →
      Sim k e P (restA l) (restB l') (fun v w _ => w.erase = v.erase))
    {l l' : Expr} (hl : l'.erase = l.erase) :
    Sim k e P (chainStep A ops opText operandA restA l) (chainStep B ops opText operandB restB l')
      (fun v w _ => w.erase = v.erase) := by
  unfold chainStep
  refine hm.sim_isAt_if ops hops ?_ (Sim.returns fun _ _ => hl)
  refine Sim.seq (hm.sim_advance fun x h => h.2) fun t u => Sim.assume₀ fun hv => ?_
  refine Sim.seq hoperand fun r r' => Sim.assume₀ fun hr => ?_
  refine Sim.seq sim_here fun _ _ => hrest _ _ ?_
  simp [Expr.erase, hl, hr, hop t u hv]

/-- The expression readers with fuel `f` over `A` and any fuel `f' ≥ f` over `B` read alike. -/
structure ExprSim (A B : Array Token) (k e f : Nat) : Prop where
  orExpr : ∀ {P : Nat → Prop} f', f ≤ f' →
    Sim k e P (orExpr A f) (orExpr B f') (fun v w _ => w.erase = v.erase)
  orTail : ∀ {P : Nat → Prop} f' l l', f ≤ f' → l'.erase = l.erase →
    Sim k e P (orTail A f l) (orTail B f' l') (fun v w _ => w.erase = v.erase)
  andExpr : ∀ {P : Nat → Prop} f', f ≤ f' →
    Sim k e P (andExpr A f) (andExpr B f') (fun v w _ => w.erase = v.erase)
  andTail : ∀ {P : Nat → Prop} f' l l', f ≤ f' → l'.erase = l.erase →
    Sim k e P (andTail A f l) (andTail B f' l') (fun v w _ => w.erase = v.erase)
  comparison : ∀ {P : Nat → Prop} f', f ≤ f' →
    Sim k e P (comparison A f) (comparison B f') (fun v w _ => w.erase = v.erase)
  comparisonTail : ∀ {P : Nat → Prop} f' l l', f ≤ f' → l'.erase = l.erase →
    Sim k e P (comparisonTail A f l) (comparisonTail B f' l') (fun v w _ => w.erase = v.erase)
  additive : ∀ {P : Nat → Prop} f', f ≤ f' →
    Sim k e P (additive A f) (additive B f') (fun v w _ => w.erase = v.erase)
  additiveTail : ∀ {P : Nat → Prop} f' l l', f ≤ f' → l'.erase = l.erase →
    Sim k e P (additiveTail A f l) (additiveTail B f' l') (fun v w _ => w.erase = v.erase)
  multiplicative : ∀ {P : Nat → Prop} f', f ≤ f' →
    Sim k e P (multiplicative A f) (multiplicative B f') (fun v w _ => w.erase = v.erase)
  multiplicativeTail : ∀ {P : Nat → Prop} f' l l', f ≤ f' → l'.erase = l.erase →
    Sim k e P (multiplicativeTail A f l) (multiplicativeTail B f' l') (fun v w _ => w.erase = v.erase)
  primary : ∀ {P : Nat → Prop} f', f ≤ f' →
    Sim k e P (primary A f) (primary B f') (fun v w _ => w.erase = v.erase)
  callArgs : ∀ {P : Nat → Prop} f' acc acc', f ≤ f' → acc'.map Expr.erase = acc.map Expr.erase →
    Sim k e P (callArgs A f acc) (callArgs B f' acc')
      (fun v w _ => w.map Expr.erase = v.map Expr.erase)

theorem sim_numberLit {t u : Token} (h : u.text = t.text) :
    Sim k e P (numberLit t) (numberLit u) (fun a b y => b = a ∧ P y) := by
  unfold numberLit
  rw [h]
  split
  · exact Sim.returns fun _ hP => ⟨rfl, hP⟩
  · exact Sim.fails

/-- The expression readers of an embedded query read alike, by induction on the fuel of `A`'s
readers; those of `B` may have more. -/
theorem exprSim (hm : Embedded A B k e) (f : Nat) : ExprSim A B k e f := by
  induction f with
  | zero =>
    refine ⟨?_, ?_, ?_, ?_, ?_, ?_, ?_, ?_, ?_, ?_, ?_, ?_⟩ <;> intros <;> exact Sim.fails
  | succ f ih =>
    -- each reader over `B` has fuel `g + 1` with `f ≤ g`
    have fuel : ∀ f', f + 1 ≤ f' → ∃ g, f' = g + 1 ∧ f ≤ g :=
      fun f' h => ⟨f' - 1, by omega, by omega⟩
    refine ⟨?orExpr, ?orTail, ?andExpr, ?andTail, ?comparison, ?comparisonTail, ?additive,
      ?additiveTail, ?multiplicative, ?multiplicativeTail, ?primary, ?callArgs⟩
    case orExpr =>
      intro P f' hf
      obtain ⟨g, rfl, hg⟩ := fuel f' hf
      rw [orExpr, orExpr]
      exact Sim.seq (ih.andExpr g hg) fun l l' => Sim.assume₀ fun hl => ih.orTail g l l' hg hl
    case orTail =>
      intro P f' l l' hf hl
      obtain ⟨g, rfl, hg⟩ := fuel f' hf
      rw [orTail_succ, orTail_succ]
      exact chainStep_sim hm (by decide) (fun _ _ _ => rfl) (ih.andExpr g hg)
        (fun l l' h => ih.orTail g l l' hg h) hl
    case andExpr =>
      intro P f' hf
      obtain ⟨g, rfl, hg⟩ := fuel f' hf
      rw [andExpr, andExpr]
      exact Sim.seq (ih.comparison g hg) fun l l' => Sim.assume₀ fun hl => ih.andTail g l l' hg hl
    case andTail =>
      intro P f' l l' hf hl
      obtain ⟨g, rfl, hg⟩ := fuel f' hf
      rw [andTail_succ, andTail_succ]
      exact chainStep_sim hm (by decide) (fun _ _ _ => rfl) (ih.comparison g hg)
        (fun l l' h => ih.andTail g l l' hg h) hl
    case comparison =>
      intro P f' hf
      obtain ⟨g, rfl, hg⟩ := fuel f' hf
      rw [comparison, comparison]
      exact Sim.seq (ih.additive g hg) fun l l' => Sim.assume₀ fun hl =>
        ih.comparisonTail g l l' hg hl
    case comparisonTail =>
      intro P f' l l' hf hl
      obtain ⟨g, rfl, hg⟩ := fuel f' hf
      rw [comparisonTail_succ, comparisonTail_succ]
      refine chainStep_sim hm (by decide) (fun t u h => ?_) (ih.additive g hg)
        (fun l l' h => ih.comparisonTail g l l' hg h) hl
      simp only [Token.kind_eq_of_view h, Token.text_eq_of_view h]
    case additive =>
      intro P f' hf
      obtain ⟨g, rfl, hg⟩ := fuel f' hf
      rw [additive, additive]
      exact Sim.seq (ih.multiplicative g hg) fun l l' => Sim.assume₀ fun hl =>
        ih.additiveTail g l l' hg hl
    case additiveTail =>
      intro P f' l l' hf hl
      obtain ⟨g, rfl, hg⟩ := fuel f' hf
      rw [additiveTail_succ, additiveTail_succ]
      exact chainStep_sim hm (by decide) (fun _ _ => Token.text_eq_of_view) (ih.multiplicative g hg)
        (fun l l' h => ih.additiveTail g l l' hg h) hl
    case multiplicative =>
      intro P f' hf
      obtain ⟨g, rfl, hg⟩ := fuel f' hf
      rw [multiplicative, multiplicative]
      exact Sim.seq (ih.primary g hg) fun l l' => Sim.assume₀ fun hl =>
        ih.multiplicativeTail g l l' hg hl
    case multiplicativeTail =>
      intro P f' l l' hf hl
      obtain ⟨g, rfl, hg⟩ := fuel f' hf
      rw [multiplicativeTail_succ, multiplicativeTail_succ]
      exact chainStep_sim hm (by decide) (fun _ _ => Token.text_eq_of_view) (ih.primary g hg)
        (fun l l' h => ih.multiplicativeTail g l l' hg h) hl
    case primary =>
      intro P f' hf
      obtain ⟨g, rfl, hg⟩ := fuel f' hf
      refine Sim.split_end ?_ fun _ v y h => ?_
      · rw [primary, primary]
        refine Sim.seq (hm.sim_cur fun x h => h.2) fun t u => Sim.assume fun hv => ?_
        have ht := Token.text_eq_of_view hv
        rw [Token.kind_eq_of_view hv]
        cases hkd : t.kind
        case lparen =>
          refine Sim.seq (hm.sim_advance fun x h => h.2) fun _ _ => Sim.assume₀ fun _ => ?_
          refine Sim.seq (ih.orExpr g hg) fun r r' => Sim.assume₀ fun hr => ?_
          exact Sim.seq (hm.sim_expect (by decide)) fun _ _ => Sim.assume₀ fun _ =>
            Sim.returns fun _ _ => hr
        case str =>
          refine Sim.seq (hm.sim_advance fun x h => h.2) fun _ _ => Sim.assume₀ fun _ => ?_
          exact Sim.returns fun _ _ => by simp [Expr.erase, ht]
        case num =>
          refine Sim.seq (hm.sim_advance fun x h => h.2) fun _ _ => Sim.assume₀ fun _ => ?_
          refine Sim.seq (sim_numberLit ht) fun a b => Sim.assume fun hab => ?_
          subst hab
          exact Sim.returns fun _ _ => by simp [Expr.erase]
        case ident =>
          refine Sim.seq (hm.sim_advance fun x h => h.2) fun _ _ => Sim.assume₀ fun _ => ?_
          refine hm.sim_isAt_if [.lparen] (by decide) ?_
            (Sim.returns fun _ _ => by simp [Expr.erase, ht])
          refine Sim.seq (hm.sim_advance fun x h => h.2) fun _ _ => Sim.assume₀ fun _ => ?_
          refine Sim.seq (ih.callArgs g [] [] hg rfl) fun as as' => Sim.assume₀ fun has => ?_
          exact Sim.seq (hm.sim_expect (by decide)) fun _ _ => Sim.assume₀ fun _ =>
            Sim.returns fun _ _ => by simp [Expr.erase, ht, has]
        all_goals exact Sim.fails
      · obtain ⟨err, herr⟩ := primary_error_of_closes A (f + 1) e (by rw [hm.ends e le_rfl]; rfl)
        rw [herr] at h
        cases h
    case callArgs =>
      intro P f' acc acc' hf hacc
      obtain ⟨g, rfl, hg⟩ := fuel f' hf
      refine Sim.split_end ?_ fun _ v y h => ?_
      · rw [callArgs, callArgs]
        refine hm.sim_isAt_lt_if [.rparen] (fun x h => h.2)
          (Sim.returns fun _ _ => by simp [List.map_reverse, hacc]) ?_
        refine Sim.seq (ih.orExpr g hg) fun a a' => Sim.assume₀ fun ha => ?_
        refine hm.sim_isAt_if [.comma] (by decide) ?_ (Sim.returns fun _ _ => by
          simp [List.map_reverse, ha, hacc])
        exact Sim.seq (hm.sim_advance fun x h => h.2) fun _ _ =>
          ih.callArgs g _ _ hg (by simp [ha, hacc])
      · -- at the end of `A` an argument would have to start on the end token
        rw [callArgs, run_bind, isAt_run, hm.ends e le_rfl] at h
        dsimp only at h
        obtain ⟨err, herr⟩ := orExpr_error_of_closes A e (by rw [hm.ends e le_rfl]; rfl) f
        rw [if_neg (by decide), bind_error herr] at h
        cases h

end Alike

end PipeQuery.Query
