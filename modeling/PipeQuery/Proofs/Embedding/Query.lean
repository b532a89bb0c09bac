import PipeQuery.Proofs.Embedding.Args

/-!
# Whole queries standing inside longer ones

A query is read alike from `A` and from `B` unless it ends in a `where` stage, which over `B` reads
on through the closing token. `SimUnless` leaves that one outcome out; `querySim` proves the
statements of the mutually recursive readers together by induction on the fuel.
-/

namespace PipeQuery.Query

open PipeQuery.Text

/-! ### Reading alike but for one outcome -/

/-- `rA` and `rB` read alike from the starts where `P` holds, except for the runs of `rA` whose
result and stopping place are `Bad`. -/
def SimUnless {α β : Type} (k e : Nat) (P : Nat → Prop) (rA : TokenReader α) (rB : TokenReader β)
    (Bad : α → Nat → Prop) (R : α → β → Nat → Prop) : Prop :=
  ∀ x v y, P x → x ≤ e → rA.run x = .ok (v, y) → ¬ Bad v y →
    y ≤ e ∧ ∃ w, rB.run (x + k) = .ok (w, y + k) ∧ R v w y

section Unless

variable {k e : Nat} {P : Nat → Prop} {α β γ δ : Type} {rA : TokenReader α} {rB : TokenReader β}
  {Bad : α → Nat → Prop} {R : α → β → Nat → Prop}

theorem Sim.unless (h : Sim k e P rA rB R) : SimUnless k e P rA rB Bad R :=
  fun x v y hP hx hA _ => h x v y hP hx hA

theorem SimUnless.sim (h : SimUnless k e P rA rB (fun _ _ => False) R) : Sim k e P rA rB R :=
  fun x v y hP hx hA => h x v y hP hx hA not_false

/-- Along `>>=`: a bad outcome of the first readers must lead to a bad outcome of the whole. -/
theorem SimUnless.seq {mA : TokenReader α} {mB : TokenReader β} {gA : α → TokenReader γ}
    {gB : β → TokenReader δ} {Bad₁ : α → Nat → Prop} {Bad : γ → Nat → Prop}
    {S : γ → δ → Nat → Prop} (h₁ : SimUnless k e P mA mB Bad₁ R)
    (hbad : ∀ a y v z, Bad₁ a y → (gA a).run y = .ok (v, z) → Bad v z)
    (h₂ : ∀ a b, SimUnless k e (R a b) (gA a) (gB b) Bad S) :
    SimUnless k e P (mA >>= gA) (mB >>= gB) Bad S := by
  intro x v y hP hx hA hnot
  rw [run_bind] at hA
  cases hm : mA.run x with
  | error err => rw [hm] at hA; cases hA
  | ok p =>
    obtain ⟨a, y₁⟩ := p
    rw [hm] at hA
    obtain ⟨hy₁, b, hb, hR⟩ := h₁ x a y₁ hP hx hm fun hb => hnot (hbad a y₁ v y hb hA)
    obtain ⟨hy, w, hw, hS⟩ := h₂ a b y₁ v y hR hy₁ hA hnot
    exact ⟨hy, w, by rw [run_bind, hb]; exact hw, hS⟩

theorem SimUnless.bind {mA : TokenReader α} {mB : TokenReader β} {gA : α → TokenReader γ}
    {gB : β → TokenReader δ} {Bad : γ → Nat → Prop} {S : γ → δ → Nat → Prop}
    (h₁ : Sim k e P mA mB R) (h₂ : ∀ a b, SimUnless k e (R a b) (gA a) (gB b) Bad S) :
    SimUnless k e P (mA >>= gA) (mB >>= gB) Bad S :=
  SimUnless.seq h₁.unless (fun _ _ _ _ (h : False) _ => h.elim) h₂

theorem SimUnless.assume {c : Prop} (h : c → SimUnless k e P rA rB Bad R) :
    SimUnless k e (fun y => c ∧ P y) rA rB Bad R :=
  fun x v y hP hx hA => h hP.1 x v y hP.2 hx hA

theorem SimUnless.assume₀ {c : Prop} (h : c → SimUnless k e (fun _ => True) rA rB Bad R) :
    SimUnless k e (fun _ => c) rA rB Bad R :=
  fun x v y hc hx hA => h hc x v y trivial hx hA

theorem SimUnless.cond {c : Prop} [Decidable c] {m₁ m₂ : TokenReader α} {m₁' m₂' : TokenReader β}
    (h₁ : c → SimUnless k e P m₁ m₁' Bad R) (h₂ : ¬c → SimUnless k e P m₂ m₂' Bad R) :
    SimUnless k e P (if c then m₁ else m₂) (if c then m₁' else m₂') Bad R := by
  split
  · exact h₁ ‹_›
  · exact h₂ ‹_›

theorem SimUnless.split_end (hlt : SimUnless k e (fun x => P x ∧ x < e) rA rB Bad R)
    (hend : P e → ∀ v y, rA.run e = .ok (v, y) → ¬ Bad v y →
      y ≤ e ∧ ∃ w, rB.run (e + k) = .ok (w, y + k) ∧ R v w y) :
    SimUnless k e P rA rB Bad R := by
  intro x v y hP hx hA
  rcases Nat.lt_or_eq_of_le hx with hx | rfl
  · exact hlt x v y ⟨hP, hx⟩ hx.le hA
  · exact hend hP v y hA

end Unless

/-! ### Conditions -/

/-- A `where` or `filter` stage, whose condition runs to the next pipe or the end of the text. -/
def Stage.isCondition (s : Stage) : Bool :=
  lower s.name == "filter" || lower s.name == "where"

/-- The last of a list of stages is a condition. -/
def endsInCondition (stages : List Stage) : Bool :=
  match stages.getLast? with
  | some s => s.isCondition
  | none => false

@[simp] theorem endsInCondition_concat (stages : List Stage) (s : Stage) :
    endsInCondition (stages ++ [s]) = s.isCondition := by
  simp [endsInCondition]

section Conditions

variable {A B : Array Token} {k e : Nat} {P : Nat → Prop}

/-- The tokens of a condition are read alike unless they run to the end of `A`. -/
theorem restOfStage_sim (hm : Embedded A B k e) (f f' : Nat) (acc : Array Piece) (hf : f ≤ f') :
    SimUnless k e P (restOfStage A f acc) (restOfStage B f' acc) (fun _ y => y = e)
      (fun v w _ => w = v) := by
  induction f generalizing f' acc P with
  | zero => exact Sim.fails.unless
  | succ f ih =>
    obtain ⟨g, rfl⟩ : ∃ g, f' = g + 1 := ⟨f' - 1, by omega⟩
    refine SimUnless.split_end ?_ fun _ v y h hy => ?_
    · rw [restOfStage, restOfStage]
      refine SimUnless.bind (hm.sim_isAt_lt _ fun x h => h.2) fun a b => SimUnless.assume fun hab => ?_
      subst hab
      refine SimUnless.cond (fun _ => (Sim.returns fun _ _ => rfl).unless) fun _ => ?_
      refine SimUnless.bind (hm.sim_advance fun x h => h.2) fun t u => SimUnless.assume₀ fun hv => ?_
      rw [Token.kind_eq_of_view hv, Token.text_eq_of_view hv]
      exact ih g _ (by omega)
    · -- on the end of `A` the condition stops there: the one outcome left out
      rw [restOfStage, run_bind, isAt_run, hm.ends e le_rfl] at h
      simp +decide only [↓reduceIte, run_pure, Except.ok.injEq, Prod.mk.injEq] at h
      exact absurd h.2.symm hy

theorem conditionArgs_sim (hm : Embedded A B k e) (f f' : Nat) (hf : f ≤ f') :
    SimUnless k e P (conditionArgs A f) (conditionArgs B f') (fun _ y => y = e)
      (fun v w _ => w.erase = v.erase) := by
  unfold conditionArgs
  refine SimUnless.bind sim_here fun _ _ => ?_
  refine SimUnless.seq (restOfStage_sim hm f f' #[] hf) (fun _ y v z hy h => ?_) fun ps ps' =>
    SimUnless.assume₀ fun hps => ?_
  · -- after the tokens nothing more is read
    dsimp only at h
    split at h <;> simp only [run_pure, Except.ok.injEq, Prod.mk.injEq] at h <;> rw [← h.2, hy]
  · subst hps
    exact (Sim.cond (fun _ => Sim.returns fun _ _ => rfl) fun _ => Sim.returns fun _ _ => by
      simp [StageParts.erase, Arg.erase]).unless

end Conditions

/-! ### The stage reader through its dispatch -/

/-- The reader of a stage's arguments that its lowercased name picks, followed by `k`. -/
def stageThen {α : Type} (ts : Array Token) (f : Nat) (name : String)
    (k : StageParts → TokenReader α) : TokenReader α :=
  match name with
  | "stats" | "eventstats" => statsArgs ts f >>= k
  | "eval" | "calculate" | "compute" => do k { args := ← assignments ts f #[] }
  | "sort" => do k { args := ← sortKeys ts f #[] }
  | "join" => joinArgs ts f >>= k
  | "head" => headArgs ts >>= k
  | "filter" | "where" => conditionArgs ts f >>= k
  | "bucket" | "bin" => fieldAndSpans ts "span" f >>= k
  | "transaction" => fieldAndSpans ts "maxspan" f >>= k
  | "search" => do k { args := ← searchArgs ts f #[] }
  | _ => generalArgs ts f {} >>= k

theorem stage_succ (ts : Array Token) (f : Nat) : stage ts (f + 1) = (do
    let position ← here ts
    if !(← isAt ts [.ident]) then throw (.expectedCommand position)
    let name := (← advance ts).text
    stageThen ts f (lower name) fun parts => pure (.mk name parts.args.toList
      parts.byFields.toList parts.aggs.toList parts.subqueries.toList position)) := by
  rw [stage]
  rfl

/-- What general arguments read from a sign on: a positional argument, or nothing when there is
no sign. -/
def signedPositional (ts : Array Token) (f : Nat) (parts : StageParts) (sign : String) :
    TokenReader StageParts := do
  if ← isAt ts [.ident, .str, .num] then
    let start ← here ts
    let first ← advance ts
    let toks := (← wildcardRun ts f [first]).reverse
    if ← isAt ts [.comma] then let _ ← advance ts
    generalArgs ts f { parts with args := parts.args.push (.positional (positionalValue sign toks) start) }
  else if !sign.isEmpty then throw (.expectedAfterSign sign (← here ts))
  else return parts

theorem generalArgs_succ (ts : Array Token) (f : Nat) (parts : StageParts) :
    generalArgs ts (f + 1) parts = (do
      if ← isAt ts [.pipe, .eof] then return parts
      if (← isAt ts [.ident]) && (← peekNext ts).kind = .assign then
        let key := (← advance ts).text
        let _ ← advance ts
        let v ← value ts f
        return ← generalArgs ts f { parts with args := parts.args.push (.keyword key v (← here ts)) }
      if ← isAt ts [.lbracket] then
        let q ← subquery ts f
        return ← generalArgs ts f { parts with subqueries := parts.subqueries.push q }
      if ← isAt ts [.byKw] then
        let _ ← advance ts
        let fields ← byList ts f parts.byFields
        return ← generalArgs ts f { parts with byFields := fields }
      if ← isAt ts [.plus, .minus] then
        let t ← advance ts
        signedPositional ts f parts t.text
      else signedPositional ts f parts "") := by
  rw [generalArgs]
  rfl

/-! ### Loops stop on a closing token -/

section Close

variable (ts : Array Token) (f x : Nat)

theorem stageList_close (acc : Array Stage) (h : (tokenAt ts x).kind ≠ .pipe) :
    (stageList ts (f + 1) acc).run x = .ok (acc, x) := by
  rw [stageList, run_bind, isAt_run]
  simp [h]
  rfl

theorem generalArgs_close (parts : StageParts) (h : (tokenAt ts x).kind.closes = true) :
    (generalArgs ts (f + 1) parts).run x = .ok (parts, x) := by
  rw [generalArgs_succ]
  unfold signedPositional
  rcases TokenKind.eq_of_closes h with hk | hk | hk | hk | hk | hk <;>
    simp +decide only [run_bind, isAt_run, peekNext_run, hk, ↓reduceIte, Bool.and_eq_true,
      false_and] <;> rfl

end Close

/-! ### The readers of queries, stages and their arguments -/

theorem StageParts.erase_eq_iff {p p' : StageParts} :
    p'.erase = p.erase ↔ p'.args.map Arg.erase = p.args.map Arg.erase ∧ p'.byFields = p.byFields ∧
      p'.aggs.map Aggregation.erase = p.aggs.map Aggregation.erase ∧
      p'.subqueries.map Subquery.erase = p.subqueries.map Subquery.erase := by
  cases p
  cases p'
  simp [StageParts.erase]

/-- A stage built from parts that are alike is alike. -/
theorem StageParts.erase_stage {p p' : StageParts} (h : p'.erase = p.erase) (name : String)
    (pos pos' : Nat) :
    (Stage.mk name p'.args.toList p'.byFields.toList p'.aggs.toList p'.subqueries.toList pos').erase =
      (Stage.mk name p.args.toList p.byFields.toList p.aggs.toList p.subqueries.toList pos).erase := by
  obtain ⟨ha, hb, hg, hs⟩ := StageParts.erase_eq_iff.1 h
  simp only [Stage.erase, ← Array.toList_map, ha, hb, hg, hs]

/-- Each reader of queries, stages and arguments reads alike for fuel `f` over `A` and more over
`B`; those of stages, stage lists and queries unless they end in a condition run to the end of `A`.
-/
structure QuerySim (A B : Array Token) (k e f : Nat) : Prop where
  command : ∀ {P : Nat → Prop} (f' : Nat), f < f' →
    SimUnless k e P (command A f) (command B f')
      (fun q y => endsInCondition q.stages = true ∧ y = e) (fun v w _ => w.erase = v.erase)
  stageList : ∀ {P : Nat → Prop} (f' : Nat) (acc acc' : Array Stage), f < f' →
    acc'.map Stage.erase = acc.map Stage.erase →
    SimUnless k e P (stageList A f acc) (stageList B f' acc')
      (fun v y => endsInCondition v.toList = true ∧ y = e)
      (fun v w _ => w.map Stage.erase = v.map Stage.erase)
  subquery : ∀ {P : Nat → Prop} (f' : Nat), f < f' →
    Sim k e P (subquery A f) (subquery B f') (fun v w _ => w.erase = v.erase)
  stage : ∀ {P : Nat → Prop} (f' : Nat), f < f' →
    SimUnless k e P (stage A f) (stage B f') (fun s y => s.isCondition = true ∧ y = e)
      (fun v w _ => w.erase = v.erase)
  joinArgs : ∀ {P : Nat → Prop} (f' : Nat), f < f' →
    Sim k e P (joinArgs A f) (joinArgs B f') (fun v w _ => w.erase = v.erase)
  generalArgs : ∀ {P : Nat → Prop} (f' : Nat) (parts parts' : StageParts), f < f' →
    parts'.erase = parts.erase →
    Sim k e P (generalArgs A f parts) (generalArgs B f' parts') (fun v w _ => w.erase = v.erase)

section Step

variable {A B : Array Token} {k e : Nat} {P : Nat → Prop} {γ δ : Type}

/-- The dispatch of a stage reads alike, given its continuations do; only a condition can end at
the end of `A`. -/
theorem stageThen_sim (hm : Embedded A B k e) (f g : Nat) (hf : f ≤ g) (name : String)
    (hjoin : Sim k e (fun _ => True) (joinArgs A f) (joinArgs B g) (fun v w _ => w.erase = v.erase))
    (hgen : Sim k e (fun _ => True) (generalArgs A f {}) (generalArgs B g {})
      (fun v w _ => w.erase = v.erase))
    {kA : StageParts → TokenReader γ} {kB : StageParts → TokenReader δ} {Bad : γ → Nat → Prop}
    {S : γ → δ → Nat → Prop}
    (hk : ∀ p p' : StageParts, p'.erase = p.erase → SimUnless k e (fun _ => True) (kA p) (kB p') Bad S)
    (hbad : ∀ p y v z, (name = "filter" ∨ name = "where") → y = e → (kA p).run y = .ok (v, z) →
      Bad v z) :
    SimUnless k e (fun _ => True) (stageThen A f name kA) (stageThen B g name kB) Bad S := by
  have hparts : ∀ {r r' : TokenReader StageParts},
      Sim k e (fun _ => True) r r' (fun v w _ => w.erase = v.erase) →
      SimUnless k e (fun _ => True) (r >>= kA) (r' >>= kB) Bad S :=
    fun h => SimUnless.bind h fun p p' => SimUnless.assume₀ (hk p p')
  have hargs : ∀ {r r' : TokenReader (Array Arg)},
      Sim k e (fun _ => True) r r' (fun v w _ => w.map Arg.erase = v.map Arg.erase) →
      SimUnless k e (fun _ => True) (r >>= fun as => kA { args := as })
        (r' >>= fun as => kB { args := as }) Bad S :=
    fun h => SimUnless.bind h fun _ _ => SimUnless.assume₀ fun has =>
      hk _ _ (StageParts.erase_eq_iff.2 ⟨has, rfl, rfl, rfl⟩)
  have hcond : (name = "filter" ∨ name = "where") → SimUnless k e (fun _ => True)
      (conditionArgs A f >>= kA) (conditionArgs B g >>= kB) Bad S := fun hname =>
    SimUnless.seq (conditionArgs_sim hm f g hf) (fun p y v z hy h => hbad p y v z hname hy h)
      fun p p' => SimUnless.assume₀ (hk p p')
  unfold stageThen
  split
  · exact hparts (statsArgs_sim hm f g hf)
  · exact hparts (statsArgs_sim hm f g hf)
  · exact hargs (assignments_sim hm f g #[] #[] hf rfl)
  · exact hargs (assignments_sim hm f g #[] #[] hf rfl)
  · exact hargs (assignments_sim hm f g #[] #[] hf rfl)
  · exact hargs (sortKeys_sim hm f g #[] #[] hf rfl)
  · exact hparts hjoin
  · exact hparts (headArgs_sim hm)
  · exact hcond (.inl rfl)
  · exact hcond (.inr rfl)
  · exact hparts (fieldAndSpans_sim hm "span" f g hf)
  · exact hparts (fieldAndSpans_sim hm "span" f g hf)
  · exact hparts (fieldAndSpans_sim hm "maxspan" f g hf)
  · exact hargs (searchArgs_sim hm f g #[] #[] hf rfl)
  · exact hparts hgen

/-- A positional general argument after a sign, given the general arguments that follow read
alike. -/
theorem signedPositional_sim (hm : Embedded A B k e) (f g : Nat) (hf : f ≤ g)
    {parts parts' : StageParts} (hparts : parts'.erase = parts.erase) (sign : String)
    (hgen : ∀ {Q : Nat → Prop} (q q' : StageParts), q'.erase = q.erase →
      Sim k e Q (generalArgs A f q) (generalArgs B g q') (fun v w _ => w.erase = v.erase)) :
    Sim k e P (signedPositional A f parts sign) (signedPositional B g parts' sign)
      (fun v w _ => w.erase = v.erase) := by
  obtain ⟨hargs, hb, hg, hs⟩ := StageParts.erase_eq_iff.1 hparts
  unfold signedPositional
  dsimp only
  refine hm.sim_isAt_if [.ident, .str, .num] (by decide) ?_ ?_
  · refine Sim.seq sim_here fun _ _ => ?_
    refine Sim.seq (hm.sim_advance fun x h => h.2) fun t u => Sim.assume₀ fun hv => ?_
    refine Sim.seq (wildcardRun_sim hm f g [t] [u] hf (by simp [hv])) fun toks toks' =>
      Sim.assume₀ fun htoks => ?_
    have hval : positionalValue sign toks'.reverse = positionalValue sign toks.reverse :=
      positionalValue_congr sign (by rw [List.map_reverse, List.map_reverse, htoks])
    have hpush : ∀ p p' : Nat,
        ({ parts' with args := parts'.args.push (.positional (positionalValue sign toks'.reverse) p') }
          : StageParts).erase =
        ({ parts with args := parts.args.push (.positional (positionalValue sign toks.reverse) p) }
          : StageParts).erase := fun _ _ =>
      StageParts.erase_eq_iff.2 ⟨by simp [hargs, hval, Arg.erase], hb, hg, hs⟩
    exact hm.sim_isAt_if [.comma] (by decide)
      (Sim.seq (hm.sim_advance fun x h => h.2) fun _ _ => hgen _ _ (hpush _ _))
      (hgen _ _ (hpush _ _))
  · exact Sim.cond (fun _ => Sim.seq sim_here fun _ _ => Sim.fails) (fun _ => Sim.returns fun _ _ => hparts)

variable {f : Nat} (hm : Embedded A B k e) (ih : QuerySim A B k e f)
include hm ih

theorem generalArgs_step {P : Nat → Prop} (f' : Nat) (parts parts' : StageParts)
    (hf : f + 1 < f') (hparts : parts'.erase = parts.erase) :
    Sim k e P (generalArgs A (f + 1) parts) (generalArgs B f' parts')
      (fun v w _ => w.erase = v.erase) := by
  obtain ⟨g, rfl⟩ : ∃ g, f' = g + 1 := ⟨f' - 1, by omega⟩
  obtain ⟨hargs, hb, hg, hs⟩ := StageParts.erase_eq_iff.1 hparts
  have hgen : ∀ {Q : Nat → Prop} (q q' : StageParts), q'.erase = q.erase →
      Sim k e Q (generalArgs A f q) (generalArgs B g q') (fun v w _ => w.erase = v.erase) :=
    fun q q' h => ih.generalArgs g q q' (by omega) h
  refine Sim.of_close ?_ (generalArgs_close A f e parts (by rw [hm.ends e le_rfl]; rfl))
    (generalArgs_close B g _ parts' hm.closes) (fun _ => hparts)
  rw [generalArgs_succ, generalArgs_succ]
  refine hm.sim_isAt_lt_if _ (fun x h => h.2) (Sim.returns fun _ _ => hparts) ?_
  refine Sim.seq (hm.sim_isAt_lt [.ident] fun x h => h.2) fun a b => Sim.assume fun hab => ?_
  subst hab
  refine Sim.seq (hm.sim_peekNext fun x h => h.2) fun t u => Sim.assume fun hk => ?_
  simp only [hk.eq_iff (show TokenKind.assign.closes = false from rfl)]
  refine Sim.cond (fun hc => ?_) (fun _ => ?_)
  · -- `key=value`
    refine hm.sim_key (fun x h => ?_) fun t u hv => ?_
    · simp only [Bool.and_eq_true, decide_eq_true_eq] at hc
      exact ⟨h.1.2, by rw [← h.2]; exact hc.2⟩
    rw [Token.text_eq_of_view hv]
    refine Sim.seq ((exprSim hm f).primary g (by omega)) fun v v' => Sim.assume₀ fun hvv => ?_
    exact Sim.seq sim_here fun _ _ =>
      hgen _ _ (StageParts.erase_eq_iff.2 ⟨by simp [hargs, hvv, Arg.erase], hb, hg, hs⟩)
  refine Sim.seq (hm.sim_isAt_lt [.lbracket] fun x h => h.1.2) fun a b => Sim.assume fun hab => ?_
  subst hab
  refine Sim.cond (fun _ => ?_) (fun _ => ?_)
  · -- a subquery
    refine Sim.seq (ih.subquery g (by omega)) fun q q' => Sim.assume₀ fun hq => ?_
    exact hgen _ _ (StageParts.erase_eq_iff.2 ⟨hargs, hb, hg, by simp [hs, hq]⟩)
  refine Sim.seq (hm.sim_isAt_lt [.byKw] fun x h => h.1.2) fun a b => Sim.assume fun hab => ?_
  subst hab
  refine Sim.cond (fun _ => ?_) (fun _ => ?_)
  · -- `by` fields
    rw [hb]
    refine Sim.seq (hm.sim_advance fun x h => h.1.2) fun _ _ => ?_
    refine Sim.seq (byList_sim hm f g parts.byFields (by omega)) fun fs fs' => Sim.assume₀ fun hfs => ?_
    exact hgen _ _ (StageParts.erase_eq_iff.2 ⟨hargs, hfs, hg, hs⟩)
  refine Sim.seq (hm.sim_isAt_lt [.plus, .minus] fun x h => h.1.2) fun a b => Sim.assume fun hab => ?_
  subst hab
  refine Sim.cond (fun _ => ?_) (fun _ => signedPositional_sim hm f g (by omega) hparts "" hgen)
  refine Sim.seq (hm.sim_advance fun x h => h.1.2) fun t u => Sim.assume₀ fun hv => ?_
  rw [Token.text_eq_of_view hv]
  exact signedPositional_sim hm f g (by omega) hparts _ hgen

theorem joinArgs_step {P : Nat → Prop} (f' : Nat) (hf : f + 1 < f') :
    Sim k e P (joinArgs A (f + 1)) (joinArgs B f') (fun v w _ => w.erase = v.erase) := by
  obtain ⟨g, rfl⟩ : ∃ g, f' = g + 1 := ⟨f' - 1, by omega⟩
  rw [joinArgs, joinArgs]
  dsimp only
  refine hm.sim_isAt_if [.ident] (by decide) ?_ ?_
  · refine Sim.seq (hm.sim_advance fun x h => h.2) fun t u => Sim.assume₀ fun hv => ?_
    rw [Token.text_eq_of_view hv]
    refine Sim.seq sim_here fun _ _ => ?_
    refine hm.sim_isAt_if [.lbracket] (by decide) ?_
      (Sim.returns fun _ _ => by simp [StageParts.erase, Arg.erase])
    refine Sim.seq (ih.subquery g (by omega)) fun q q' => Sim.assume₀ fun hq => ?_
    exact Sim.returns fun _ _ => by simp [StageParts.erase, Arg.erase, hq]
  · refine hm.sim_isAt_if [.lbracket] (by decide) ?_ (Sim.returns fun _ _ => rfl)
    refine Sim.seq (ih.subquery g (by omega)) fun q q' => Sim.assume₀ fun hq => ?_
    exact Sim.returns fun _ _ => by simp [StageParts.erase, hq]

theorem stage_step {P : Nat → Prop} (f' : Nat) (hf : f + 1 < f') :
    SimUnless k e P (stage A (f + 1)) (stage B f') (fun s y => s.isCondition = true ∧ y = e)
      (fun v w _ => w.erase = v.erase) := by
  obtain ⟨g, rfl⟩ : ∃ g, f' = g + 1 := ⟨f' - 1, by omega⟩
  rw [stage_succ, stage_succ]
  refine SimUnless.bind sim_here fun _ _ => ?_
  refine SimUnless.bind (hm.sim_isAt [.ident] (by decide)) fun a b => SimUnless.assume fun hab => ?_
  subst hab
  dsimp only
  refine SimUnless.cond (fun _ => Sim.fails_seq.unless) fun ha => ?_
  refine SimUnless.bind (hm.sim_advance fun x h => h.2 (by simpa using ha)) fun t u =>
    SimUnless.assume₀ fun hv => ?_
  rw [Token.text_eq_of_view hv]
  refine stageThen_sim hm f g (by omega) _ (ih.joinArgs g (by omega))
    (ih.generalArgs g {} {} (by omega) rfl) (fun p p' hp => (Sim.returns fun _ _ =>
      StageParts.erase_stage hp _ _ _).unless) fun p y v z hc hy h => ?_
  simp only [run_pure, Except.ok.injEq, Prod.mk.injEq] at h
  obtain ⟨rfl, rfl⟩ := h
  refine ⟨?_, hy⟩
  rcases hc with hc | hc <;> simp [Stage.isCondition, Stage.name, hc]

theorem subquery_step {P : Nat → Prop} (f' : Nat) (hf : f + 1 < f') :
    Sim k e P (subquery A (f + 1)) (subquery B f') (fun v w _ => w.erase = v.erase) := by
  obtain ⟨g, rfl⟩ : ∃ g, f' = g + 1 := ⟨f' - 1, by omega⟩
  rw [subquery, subquery]
  refine Sim.seq sim_here fun _ _ => ?_
  refine Sim.seq (hm.sim_expect (by decide)) fun _ _ => ?_
  refine SimUnless.sim (SimUnless.seq (ih.command g (by omega)) (fun q y v z hbad h => ?_)
    fun q q' => SimUnless.assume₀ fun hq => ?_)
  · -- a query ending in a condition run to the end of `A` leaves no `]` to take
    obtain ⟨_, rfl⟩ := hbad
    obtain ⟨err, herr⟩ := hm.expect_end (show TokenKind.rbracket ≠ .eof by decide)
    rw [bind_error herr] at h
    cases h
  · exact (Sim.seq (hm.sim_expect (by decide)) fun _ _ => Sim.returns fun _ _ => by
      simp [Subquery.erase, hq]).unless

theorem stageList_step {P : Nat → Prop} (f' : Nat) (acc acc' : Array Stage)
    (hf : f + 1 < f') (hacc : acc'.map Stage.erase = acc.map Stage.erase) :
    SimUnless k e P (stageList A (f + 1) acc) (stageList B f' acc')
      (fun v y => endsInCondition v.toList = true ∧ y = e)
      (fun v w _ => w.map Stage.erase = v.map Stage.erase) := by
  obtain ⟨g, rfl⟩ : ∃ g, f' = g + 1 := ⟨f' - 1, by omega⟩
  rw [stageList, stageList]
  refine SimUnless.bind (hm.sim_isAt [.pipe] (by decide)) fun a b => SimUnless.assume fun hab => ?_
  subst hab
  refine SimUnless.cond (fun ha => ?_) (fun _ => (Sim.returns fun _ _ => hacc).unless)
  refine SimUnless.bind (hm.sim_advance fun x h => h.2 ha) fun _ _ => ?_
  refine SimUnless.seq (ih.stage g (by omega)) (fun s y v z hbad h => ?_) fun s s' =>
    SimUnless.assume₀ fun hs => ih.stageList g _ _ (by omega) (by simp [hacc, hs])
  -- a condition run to the end is the last stage: the loop stops on the end
  obtain ⟨hc, hy⟩ := hbad
  rw [hy] at h
  cases f with
  | zero => rw [stageList] at h; cases h
  | succ f =>
    rw [stageList_close A f e _ (by rw [hm.ends e le_rfl]; decide), Except.ok.injEq,
      Prod.mk.injEq] at h
    obtain ⟨rfl, rfl⟩ := h
    exact ⟨by simp [hc], rfl⟩

theorem command_step {P : Nat → Prop} (f' : Nat) (hf : f + 1 < f') :
    SimUnless k e P (command A (f + 1)) (command B f')
      (fun q y => endsInCondition q.stages = true ∧ y = e) (fun v w _ => w.erase = v.erase) := by
  obtain ⟨g, rfl⟩ : ∃ g, f' = g + 1 := ⟨f' - 1, by omega⟩
  rw [command, command]
  refine SimUnless.bind sim_here fun _ _ => ?_
  refine SimUnless.bind (source_sim hm f g (by omega)) fun src src' => SimUnless.assume₀ fun hsrc => ?_
  refine SimUnless.seq (ih.stageList g #[] #[] (by omega) rfl) (fun st y v z hbad h => ?_)
    fun st st' => SimUnless.assume₀ fun hst => (Sim.returns fun _ _ => ?_).unless
  · simp only [run_pure, Except.ok.injEq, Prod.mk.injEq] at h
    obtain ⟨rfl, rfl⟩ := h
    exact hbad
  · simp only [Pipeline.erase, hsrc, ← Array.toList_map, hst]

omit ih in
/-- All the readers of queries, stages and their arguments read an embedded query alike. -/
theorem querySim (f : Nat) : QuerySim A B k e f := by
  induction f with
  | zero =>
    exact ⟨fun _ _ => Sim.fails.unless, fun _ _ _ _ _ => Sim.fails.unless, fun _ _ => Sim.fails,
      fun _ _ => Sim.fails.unless, fun _ _ => Sim.fails, fun _ _ _ _ _ => Sim.fails⟩
  | succ f ih =>
    exact ⟨command_step hm ih, stageList_step hm ih, subquery_step hm ih, stage_step hm ih,
      joinArgs_step hm ih, generalArgs_step hm ih⟩

end Step

/-- A query read from a place before the end of `A` that does not end in a condition run to the
end is read alike, also within `B`. -/
theorem command_embedded {A B : Array Token} {k e f f' : Nat} (hm : Embedded A B k e) (hf : f < f')
    {x y : Nat} {q : Pipeline} (hx : x ≤ e) (h : (command A f).run x = .ok (q, y))
    (hnot : ¬ (endsInCondition q.stages = true ∧ y = e)) :
    y ≤ e ∧ ∃ q', (command B f').run (x + k) = .ok (q', y + k) ∧ q'.erase = q.erase :=
  ((querySim hm f).command f' hf : SimUnless k e (fun _ => True) _ _ _ _) x q y trivial hx h hnot

/-! ### A condition that reads on through a closing bracket -/

theorem run_bind_ok {α β : Type} {m : TokenReader α} {g : α → TokenReader β} {x z : Nat} {v : β}
    (h : (m >>= g).run x = .ok (v, z)) : ∃ a y, m.run x = .ok (a, y) ∧ (g a).run y = .ok (v, z) := by
  rw [run_bind] at h
  cases hm : m.run x with
  | error err => rw [hm] at h; cases h
  | ok p => rw [hm] at h; exact ⟨p.1, p.2, rfl, h⟩

theorem run_bind_of_ok {α β : Type} {m : TokenReader α} {g : α → TokenReader β} {x y : Nat} {a : α}
    (h : m.run x = .ok (a, y)) : (m >>= g).run x = (g a).run y := by
  rw [run_bind, h]

/-- Whatever reader the dispatch picks, the stage is what the continuation makes of its parts. -/
theorem stageThen_ok {α : Type} {ts : Array Token} {f : Nat} {name : String}
    {kA : StageParts → TokenReader α} {y z : Nat} {v : α}
    (h : (stageThen ts f name kA).run y = .ok (v, z)) : ∃ p y', (kA p).run y' = .ok (v, z) := by
  unfold stageThen at h
  split at h <;> obtain ⟨_, _, -, h⟩ := run_bind_ok h <;> exact ⟨_, _, h⟩

section Overrun

variable {A B : Array Token} {k e : Nat} (hm : Embedded A B k e)
  (hB : (tokenAt B (e + k)).kind = .rbracket) (hB₁ : (tokenAt B (e + k + 1)).kind = .eof)
include hm hB hB₁

/-- Over `B`, the tokens of a condition that ran to the end of `A` go on with the `]`, and stop on
the end after it. -/
theorem restOfStage_over (f f' : Nat) (acc : Array Piece) (hf : f < f') {x : Nat} {v : Array Piece}
    (hx : x ≤ e) (h : (restOfStage A f acc).run x = .ok (v, e)) :
    ∃ w, (restOfStage B f' acc).run (x + k) = .ok (w, e + k + 1) := by
  induction f generalizing f' acc x with
  | zero => cases h
  | succ f ih =>
    obtain ⟨g, rfl⟩ : ∃ g, f' = g + 1 := ⟨f' - 1, by omega⟩
    rw [restOfStage, run_bind, isAt_run] at h
    rw [restOfStage, run_bind, isAt_run]
    rcases Nat.lt_or_eq_of_le hx with hx | hx
    · -- before the end both read the same token
      rw [hm.kind_eq hx]
      dsimp only at h ⊢
      split at h
      · simp only [run_pure, Except.ok.injEq, Prod.mk.injEq] at h
        omega
      · rename_i hne
        rw [if_neg hne, run_bind, advance_run]
        rw [run_bind, advance_run] at h
        dsimp only at h ⊢
        rw [Token.kind_eq_of_view (hm.view_eq x hx), Token.text_eq_of_view (hm.view_eq x hx),
          show x + k + 1 = x + 1 + k by omega]
        exact ih g _ (by omega) (by omega) h
    · -- on the end, over `B` the `]` is taken and the end after it stops the reading
      obtain ⟨g, rfl⟩ : ∃ g', g = g' + 1 := ⟨g - 1, by omega⟩
      rw [hx, hB]
      simp +decide only [↓reduceIte, run_bind, advance_run, restOfStage, isAt_run, hB₁]
      exact ⟨_, rfl⟩

theorem conditionArgs_over (f f' : Nat) (hf : f < f') {x : Nat} {p : StageParts} (hx : x ≤ e)
    (h : (conditionArgs A f).run x = .ok (p, e)) :
    ∃ w, (conditionArgs B f').run (x + k) = .ok (w, e + k + 1) := by
  unfold conditionArgs at h ⊢
  rw [run_bind, here_run] at h ⊢
  obtain ⟨ps, y, hps, h⟩ := run_bind_ok h
  have hy : y = e := by
    dsimp only at h
    split at h <;> simp only [run_pure, Except.ok.injEq, Prod.mk.injEq] at h <;> exact h.2
  rw [hy] at hps
  obtain ⟨w, hw⟩ := restOfStage_over hm hB hB₁ f f' #[] hf hx hps
  dsimp only
  rw [run_bind_of_ok hw]
  split <;> exact ⟨_, rfl⟩

/-- A condition stage run to the end of `A` runs over `B` to the end after the `]`. -/
theorem stage_over (f f' : Nat) (hf : f < f') {x : Nat} {s : Stage}
    (h : (stage A f).run x = .ok (s, e)) (hc : s.isCondition = true) :
    ∃ w, (stage B f').run (x + k) = .ok (w, e + k + 1) := by
  cases f with
  | zero => cases h
  | succ f =>
    obtain ⟨g, rfl⟩ : ∃ g, f' = g + 1 := ⟨f' - 1, by omega⟩
    rw [stage_succ, run_bind, here_run] at h
    dsimp only at h
    rw [run_bind, isAt_run] at h
    dsimp only at h
    split at h
    · obtain ⟨_, _, h, -⟩ := run_bind_ok h
      cases h
    rename_i hid
    have hxe : x < e := hm.lt_of_closes (by rw [show (tokenAt A x).kind = .ident by simpa using hid]; rfl)
    rw [run_bind, advance_run] at h
    dsimp only at h
    obtain ⟨p, y, hk⟩ := stageThen_ok h
    simp only [run_pure, Except.ok.injEq, Prod.mk.injEq] at hk
    obtain ⟨rfl, -⟩ := hk
    have hname : lower (tokenAt A x).text = "filter" ∨ lower (tokenAt A x).text = "where" := by
      simpa [Stage.isCondition, Stage.name] using hc
    have hview := hm.view_eq x hxe
    rw [stage_succ, run_bind, here_run]
    dsimp only
    rw [run_bind, isAt_run, hm.kind_eq hxe]
    dsimp only
    rw [if_neg hid, run_bind, advance_run]
    dsimp only
    rw [Token.text_eq_of_view hview]
    rcases hname with hn | hn <;> rw [hn] at h ⊢ <;>
    · obtain ⟨p, y, hp, hk⟩ := run_bind_ok h
      simp only [run_pure, Except.ok.injEq, Prod.mk.injEq] at hk
      rw [hk.2] at hp
      obtain ⟨w, hw⟩ := conditionArgs_over hm hB hB₁ f g (by omega) (by omega) hp
      rw [show x + k + 1 = x + 1 + k by omega]
      exact ⟨_, by rw [stageThen, run_bind_of_ok hw]; rfl⟩

/-- Stages whose last is a condition run to the end of `A` run over `B` to the end after the `]`;
the stages before it are read alike. -/
theorem stageList_over (f f' : Nat) (acc acc' : Array Stage) (hf : f < f') {x : Nat}
    {v : Array Stage} (hx : x < e) (h : (stageList A f acc).run x = .ok (v, e))
    (hc : endsInCondition v.toList = true) :
    ∃ w, (stageList B f' acc').run (x + k) = .ok (w, e + k + 1) := by
  induction f generalizing f' acc acc' x with
  | zero => cases h
  | succ f ih =>
    obtain ⟨g, rfl⟩ : ∃ g, f' = g + 1 := ⟨f' - 1, by omega⟩
    rw [stageList, run_bind, isAt_run] at h
    rw [stageList, run_bind, isAt_run, hm.kind_eq hx]
    dsimp only at h ⊢
    split at h
    · rename_i hpipe
      rw [if_pos hpipe, run_bind, advance_run]
      rw [run_bind, advance_run] at h
      dsimp only at h ⊢
      obtain ⟨s, y, hs, h⟩ := run_bind_ok h
      by_cases hy : y = e
      · -- the stage ran to the end: it is the last one, and a condition
        rw [hy] at hs h
        cases f with
        | zero => rw [stageList] at h; cases h
        | succ f =>
          rw [stageList_close A f e _ (by rw [hm.ends e le_rfl]; decide), Except.ok.injEq,
            Prod.mk.injEq] at h
          obtain ⟨rfl, -⟩ := h
          obtain ⟨w, hw⟩ := stage_over hm hB hB₁ (f + 1) g (by omega)
            (show (stage A (f + 1)).run (x + 1) = _ from hs) (by simpa using hc)
          rw [show x + k + 1 = x + 1 + k by omega, run_bind_of_ok hw]
          obtain ⟨g', rfl⟩ : ∃ g', g = g' + 1 := ⟨g - 1, by omega⟩
          exact ⟨_, stageList_close B g' _ _ (by rw [hB₁]; decide)⟩
      · -- a stage before the last is read alike
        obtain ⟨hye, s', hs', -⟩ := ((querySim hm f).stage g (by omega) :
          SimUnless k e (fun _ => True) _ _ _ _) (x + 1) s y trivial (by omega) hs (fun hb => hy hb.2)
        rw [show x + k + 1 = x + 1 + k by omega, run_bind_of_ok hs']
        exact ih g _ _ (by omega) (by omega) h
    · simp only [run_pure, Except.ok.injEq, Prod.mk.injEq] at h
      omega

/-- A query ending in a condition run to the end of `A` runs over `B` to the end after the `]`. -/
theorem command_over (f f' : Nat) (hf : f < f') {x : Nat} {q : Pipeline} (hx : x ≤ e)
    (h : (command A f).run x = .ok (q, e)) (hc : endsInCondition q.stages = true) :
    ∃ w, (command B f').run (x + k) = .ok (w, e + k + 1) := by
  cases f with
  | zero => cases h
  | succ f =>
    obtain ⟨g, rfl⟩ : ∃ g, f' = g + 1 := ⟨f' - 1, by omega⟩
    rw [command, run_bind, here_run] at h
    dsimp only at h
    obtain ⟨src, y, hsrc, h⟩ := run_bind_ok h
    obtain ⟨st, z, hst, h⟩ := run_bind_ok h
    simp only [run_pure, Except.ok.injEq, Prod.mk.injEq] at h
    obtain ⟨rfl, hz⟩ := h
    rw [hz] at hst
    obtain ⟨hye, src', hsrc', -⟩ := (source_sim hm f g (by omega) :
      Sim k e (fun _ => True) _ _ _) x src y trivial hx hsrc
    have hy : y < e := by
      refine lt_of_le_of_ne hye fun hy => ?_
      rw [hy] at hst
      cases f with
      | zero => rw [stageList] at hst; cases hst
      | succ f =>
        rw [stageList_close A f e _ (by rw [hm.ends e le_rfl]; decide), Except.ok.injEq,
          Prod.mk.injEq] at hst
        obtain ⟨rfl, -⟩ := hst
        simp [Pipeline.stages, endsInCondition] at hc
    obtain ⟨w, hw⟩ := stageList_over hm hB hB₁ f g #[] #[] (by omega) hy hst hc
    rw [command, run_bind, here_run]
    dsimp only
    rw [run_bind_of_ok hsrc', run_bind_of_ok hw]
    exact ⟨_, rfl⟩

end Overrun

end PipeQuery.Query
