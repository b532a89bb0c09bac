import PipeQuery.Proofs.Embedding.Expr

/-!
# Sources and stage arguments of an embedded query

The readers of sources and stage arguments read an embedded query as they read it alone. Each loop
stops at once on a closing token (`byList_close`, …), which `Sim.of_close` joins to the steps
before. A union of sources may go round once more over `B`, so its statement gives `B` more fuel
(`f < f'`).
-/

namespace PipeQuery.Query

/-! ### What follows a part of a union -/

/-- What a union reads after one of its parts: on `OR` or `)` it goes round again, else it is done. -/
def unionTail (ts : Array Token) (f : Nat) (acc : List SourceRef) : TokenReader (List SourceRef) := do
  if ← isAt ts [.orKw] then
    let _ ← advance ts
    unionParts ts f acc
  else if ← isAt ts [.rparen] then unionParts ts f acc
  else pure acc.reverse

theorem unionParts_succ (ts : Array Token) (f : Nat) (acc : List SourceRef) :
    unionParts ts (f + 1) acc = (do
      if ← isAt ts [.rparen, .eof] then return acc.reverse
      if ← isAt ts [.ident] then
        let kind := Text.lower (← advance ts).text
        if ← isAt ts [.assign] then
          let _ ← advance ts
          let name ← valueText ts
          unionTail ts f ({ kind, name, pos := ← here ts } :: acc)
        else
          let p ← here ts
          let _ ← (throw (.expectedAssign kind p) : TokenReader Unit)
          unionTail ts f acc
      else unionTail ts f acc) := rfl

/-! ### Shared continuations of other readers -/

/-- What an aggregation reads after its function and arguments: `as` and the new name. -/
def aliasPart (ts : Array Token) (fn : String) (args : List Expr) (position : Nat) :
    TokenReader Aggregation := do
  if ← isAt ts [.asKw] then
    let _ ← advance ts
    if ← isAt ts [.ident] then
      let t ← advance ts
      return { fn, asName := some t.text, args, pos := position }
  return { fn, asName := none, args, pos := position }

theorem aggregation_eq (ts : Array Token) (f : Nat) : aggregation ts f = (do
    let position ← here ts
    let t ← advance ts
    if ← isAt ts [.lparen] then
      let _ ← advance ts
      let args ← callArgs ts f []
      let _ ← expect ts .rparen
      aliasPart ts t.text args position
    else aliasPart ts t.text [] position) := rfl

/-- What `sort` reads after a key: a comma, another key or the end of the stage go round again. -/
def sortTail (ts : Array Token) (f : Nat) (acc : Array Arg) : TokenReader (Array Arg) := do
  if ← isAt ts [.comma] then
    let _ ← advance ts
    sortKeys ts f acc
  else if ← isAt ts [.pipe, .eof] then sortKeys ts f acc
  else if ← isAt ts [.minus, .ident] then sortKeys ts f acc
  else pure acc

theorem sortKeys_succ (ts : Array Token) (f : Nat) (acc : Array Arg) :
    sortKeys ts (f + 1) acc = (do
      if ← isAt ts [.pipe, .eof] then return acc
      if ← isAt ts [.minus] then
        let _ ← advance ts
        if ← isAt ts [.ident] then
          let t ← advance ts
          sortTail ts f (acc.push (.positional (.lit (.text ("-" ++ t.text)) .string 0) (← here ts)))
        else sortTail ts f acc
      else if ← isAt ts [.ident] then
        let t ← advance ts
        sortTail ts f (acc.push (.positional (.lit (.text t.text) .string 0) (← here ts)))
      else sortTail ts f acc) := rfl

/-! ### Loops stop on a closing token -/

section Close

variable (ts : Array Token) (f x : Nat)

theorem byList_close (acc : Array String) (h : (tokenAt ts x).kind.closes = true) :
    (byList ts (f + 1) acc).run x = .ok (acc, x) := by
  rw [byList]
  rcases TokenKind.eq_of_closes h with hk | hk | hk | hk | hk | hk <;>
    simp +decide only [run_bind, isAt_run, hk, ↓reduceIte] <;> rfl

theorem searchParams_close (index : String) (params : List (String × ParamValue))
    (h : (tokenAt ts x).kind.closes = true) :
    (searchParams ts (f + 1) index params).run x = .ok ((index, params), x) := by
  rw [searchParams]
  rcases TokenKind.eq_of_closes h with hk | hk | hk | hk | hk | hk <;>
    simp +decide only [run_bind, isAt_run, hk, ↓reduceIte] <;> rfl

/-- A union stops on `)` or the end; on another closing token it finds nothing to go on with. -/
theorem unionParts_close (acc : List SourceRef) (h : (tokenAt ts x).kind.closes = true) :
    (unionParts ts (f + 1) acc).run x = .ok (acc.reverse, x) := by
  rw [unionParts]
  rcases TokenKind.eq_of_closes h with hk | hk | hk | hk | hk | hk <;>
    simp +decide only [run_bind, isAt_run, hk, ↓reduceIte] <;> rfl

theorem aggregations_close (acc : Array Aggregation) (h : (tokenAt ts x).kind.closes = true) :
    (aggregations ts (f + 1) acc).run x = .ok (acc, x) := by
  rw [aggregations]
  rcases TokenKind.eq_of_closes h with hk | hk | hk | hk | hk | hk <;>
    simp +decide only [run_bind, isAt_run, hk, ↓reduceIte] <;> rfl

theorem assignments_close (acc : Array Arg) (h : (tokenAt ts x).kind.closes = true) :
    (assignments ts (f + 1) acc).run x = .ok (acc, x) := by
  rw [assignments]
  rcases TokenKind.eq_of_closes h with hk | hk | hk | hk | hk | hk <;>
    simp +decide only [run_bind, isAt_run, hk, ↓reduceIte] <;> rfl

theorem sortKeys_close (acc : Array Arg) (h : (tokenAt ts x).kind.closes = true) :
    (sortKeys ts (f + 1) acc).run x = .ok (acc, x) := by
  rw [sortKeys_succ]
  rcases TokenKind.eq_of_closes h with hk | hk | hk | hk | hk | hk <;>
    simp +decide only [run_bind, isAt_run, hk, ↓reduceIte, sortTail] <;> rfl

/-- After a key, on the end `sort` goes round once more and stops; on another closing token it
stops at once. -/
theorem sortTail_close (acc : Array Arg) (h : (tokenAt ts x).kind.closes = true) :
    (sortTail ts (f + 1) acc).run x = .ok (acc, x) := by
  have hstop := sortKeys_close ts f x acc h
  unfold sortTail
  rcases TokenKind.eq_of_closes h with hk | hk | hk | hk | hk | hk <;>
    simp +decide only [run_bind, isAt_run, hk, ↓reduceIte, hstop] <;> rfl

theorem spanPairs_close (spanKey : String) (acc : Array Arg)
    (h : (tokenAt ts x).kind.closes = true) :
    (spanPairs ts spanKey (f + 1) acc).run x = .ok (acc, x) := by
  rw [spanPairs]
  rcases TokenKind.eq_of_closes h with hk | hk | hk | hk | hk | hk <;>
    simp +decide only [run_bind, isAt_run, hk, ↓reduceIte] <;> rfl

theorem searchArgs_close (acc : Array Arg) (h : (tokenAt ts x).kind.closes = true) :
    (searchArgs ts (f + 1) acc).run x = .ok (acc, x) := by
  rw [searchArgs]
  rcases TokenKind.eq_of_closes h with hk | hk | hk | hk | hk | hk <;>
    simp +decide only [run_bind, isAt_run, hk, ↓reduceIte] <;> rfl

theorem wildcardRun_close (acc : List Token) (h : (tokenAt ts x).kind.closes = true) :
    (wildcardRun ts (f + 1) acc).run x = .ok (acc, x) := by
  rw [wildcardRun.eq_def]
  dsimp only
  rcases TokenKind.eq_of_closes h with hk | hk | hk | hk | hk | hk <;>
    simp +decide only [run_bind, isAt_run, hk, ↓reduceIte] <;> rfl

end Close

/-! ### Reading alike -/

section Alike

variable {A B : Array Token} {k e : Nat} {P : Nat → Prop}

theorem valueText_sim (hm : Embedded A B k e) :
    Sim k e P (valueText A) (valueText B) (fun v w _ => w = v) := by
  refine Sim.split_end ?_ fun _ v y h => ?_
  · rw [valueText, valueText]
    refine Sim.seq (hm.sim_cur fun x h => h.2) fun t u => Sim.assume fun hv => ?_
    rw [Token.kind_eq_of_view hv, Token.text_eq_of_view hv]
    refine Sim.cond (fun _ => ?_) (fun _ => Sim.fails)
    exact Sim.seq (hm.sim_advance fun x h => h.2) fun _ _ => Sim.returns fun _ _ => rfl
  · rw [valueText, run_bind, cur_run] at h
    dsimp only at h
    rw [hm.ends e le_rfl] at h
    cases h

theorem byList_sim (hm : Embedded A B k e) (f f' : Nat) (acc : Array String) (hf : f ≤ f') :
    Sim k e P (byList A f acc) (byList B f' acc) (fun v w _ => w = v) := by
  induction f generalizing f' acc P with
  | zero => exact Sim.fails
  | succ f ih =>
    obtain ⟨g, rfl⟩ : ∃ g, f' = g + 1 := ⟨f' - 1, by omega⟩
    refine Sim.of_close ?_ (byList_close A f e acc (by rw [hm.ends e le_rfl]; rfl))
      (byList_close B g _ acc hm.closes) (fun _ => rfl)
    rw [byList, byList]
    refine hm.sim_isAt_lt_if _ (fun x h => h.2) (Sim.returns fun _ _ => rfl) ?_
    refine hm.sim_isAt_if _ (by decide) ?_ (Sim.returns fun _ _ => rfl)
    refine Sim.seq (hm.sim_advance fun x h => h.2) fun t u => Sim.assume₀ fun hv => ?_
    rw [Token.text_eq_of_view hv]
    refine hm.sim_isAt_if _ (by decide) ?_ (ih g _ (by omega))
    exact Sim.seq (hm.sim_advance fun x h => h.2) fun _ _ => ih g _ (by omega)

theorem searchParams_sim (hm : Embedded A B k e) (f f' : Nat) (index : String)
    (params : List (String × ParamValue)) (hf : f ≤ f') :
    Sim k e P (searchParams A f index params) (searchParams B f' index params) (fun v w _ => w = v) := by
  induction f generalizing f' index params P with
  | zero => exact Sim.fails
  | succ f ih =>
    obtain ⟨g, rfl⟩ : ∃ g, f' = g + 1 := ⟨f' - 1, by omega⟩
    refine Sim.of_close ?_ (searchParams_close A f e index params (by rw [hm.ends e le_rfl]; rfl))
      (searchParams_close B g _ index params hm.closes) (fun _ => rfl)
    rw [searchParams, searchParams]
    refine hm.sim_isAt_lt_if _ (fun x h => h.2) (Sim.returns fun _ _ => rfl) ?_
    refine Sim.seq (hm.sim_isAt _ (by decide)) fun a b => Sim.assume fun hab => ?_
    subst hab
    refine Sim.cond (fun _ => Sim.returns fun _ _ => rfl) fun ha => ?_
    refine Sim.seq (hm.sim_advance fun x h => h.2 (by simpa using ha)) fun t u => Sim.assume₀ fun hv => ?_
    dsimp only
    rw [Token.text_eq_of_view hv]
    refine hm.sim_isAt_if _ (by decide) ?_ ?_
    · refine Sim.seq (hm.sim_advance fun x h => h.2) fun _ _ => ?_
      refine Sim.seq (valueText_sim hm) fun v w => Sim.assume₀ fun hvw => ?_
      subst hvw
      exact Sim.cond (fun _ => ih g _ _ (by omega)) (fun _ => ih g _ _ (by omega))
    · exact Sim.cond (fun _ => ih g _ _ (by omega)) (fun _ => ih g _ _ (by omega))

theorem unionParts_sim (hm : Embedded A B k e) (f f' : Nat) (acc acc' : List SourceRef)
    (hf : f < f') (hacc : acc'.map SourceRef.erase = acc.map SourceRef.erase) :
    Sim k e P (unionParts A f acc) (unionParts B f' acc')
      (fun v w _ => w.map SourceRef.erase = v.map SourceRef.erase) := by
  induction f generalizing f' acc acc' P with
  | zero => exact Sim.fails
  | succ f ih =>
    obtain ⟨g, rfl⟩ : ∃ g, f' = g + 1 := ⟨f' - 1, by omega⟩
    have hrev : ∀ acc acc' : List SourceRef, acc'.map SourceRef.erase = acc.map SourceRef.erase →
        acc'.reverse.map SourceRef.erase = acc.reverse.map SourceRef.erase := fun _ _ h => by
      rw [List.map_reverse, List.map_reverse, h]
    -- after a part: over `B` a `)` at the end of `A` means one more round, which stops at once
    have tail : ∀ {Q : Nat → Prop} (acc acc' : List SourceRef),
        acc'.map SourceRef.erase = acc.map SourceRef.erase →
        Sim k e Q (unionTail A f acc) (unionTail B g acc')
          (fun v w _ => w.map SourceRef.erase = v.map SourceRef.erase) := by
      intro Q acc acc' hacc
      unfold unionTail
      refine hm.sim_isAt_if [.orKw] (by decide) ?_ ?_
      · exact Sim.seq (hm.sim_advance fun x h => h.2) fun _ _ => ih g _ _ (by omega) hacc
      · refine Sim.split_end ?_ fun _ v y h => ?_
        · exact hm.sim_isAt_lt_if [.rparen] (fun x h => h.2) (ih g _ _ (by omega) hacc)
            (Sim.returns fun _ _ => hrev _ _ hacc)
        · rw [run_bind, isAt_run, hm.ends e le_rfl] at h
          dsimp only at h
          rw [if_neg (by decide)] at h
          simp only [run_pure, Except.ok.injEq, Prod.mk.injEq] at h
          obtain ⟨rfl, rfl⟩ := h
          obtain ⟨g', rfl⟩ : ∃ g', g = g' + 1 := ⟨g - 1, by omega⟩
          refine ⟨le_rfl, acc'.reverse, ?_, hrev _ _ hacc⟩
          rw [run_bind, isAt_run]
          dsimp only
          split
          · exact unionParts_close B g' _ acc' hm.closes
          · rfl
    refine Sim.of_close ?_ (unionParts_close A f e acc (by rw [hm.ends e le_rfl]; rfl))
      (unionParts_close B g _ acc' hm.closes) (fun _ => hrev _ _ hacc)
    rw [unionParts_succ, unionParts_succ]
    refine hm.sim_isAt_lt_if _ (fun x h => h.2) (Sim.returns fun _ _ => hrev _ _ hacc) ?_
    refine hm.sim_isAt_if [.ident] (by decide) ?_ (tail _ _ hacc)
    refine Sim.seq (hm.sim_advance fun x h => h.2) fun t u => Sim.assume₀ fun hv => ?_
    rw [Token.text_eq_of_view hv]
    refine hm.sim_isAt_if [.assign] (by decide) ?_ (Sim.seq sim_here fun _ _ => Sim.fails_seq)
    refine Sim.seq (hm.sim_advance fun x h => h.2) fun _ _ => ?_
    refine Sim.seq (valueText_sim hm) fun v w => Sim.assume₀ fun hvw => ?_
    subst hvw
    exact Sim.seq sim_here fun _ _ => tail _ _ (by simp [SourceRef.erase, hacc])

theorem source_sim (hm : Embedded A B k e) (f f' : Nat) (hf : f < f') :
    Sim k e P (source A f) (source B f') (fun v w _ => w.erase = v.erase) := by
  rw [source, source]
  dsimp only
  refine Sim.seq sim_here fun _ _ => ?_
  refine hm.sim_isAt_if [.lparen] (by decide) ?_ ?_
  · refine Sim.seq (hm.sim_advance fun x h => h.2) fun _ _ => ?_
    refine Sim.seq (unionParts_sim hm f f' [] [] hf rfl) fun ps ps' => Sim.assume₀ fun hps => ?_
    refine Sim.seq (hm.sim_expect (by decide)) fun _ _ => ?_
    rcases ps with _ | ⟨p, _ | ⟨q, rest⟩⟩ <;> rcases ps' with _ | ⟨p', _ | ⟨q', rest'⟩⟩ <;>
      simp only [List.map_cons, List.map_nil, List.cons.injEq, reduceCtorEq, and_false] at hps
    · exact Sim.seq sim_here fun _ _ => Sim.fails_seq
    · exact Sim.returns fun _ _ => by simp [Source.erase, hps.1]
    · exact Sim.returns fun _ _ => by simp [Source.erase, hps.1, hps.2.1, hps.2.2]
  · refine hm.sim_isAt_if [.ident] (by decide) ?_ (Sim.seq sim_here fun _ _ => Sim.fails)
    refine Sim.seq (hm.sim_advance fun x h => h.2) fun t u => Sim.assume₀ fun hv => ?_
    rw [Token.text_eq_of_view hv]
    refine hm.sim_isAt_if [.assign] (by decide) ?_ ?_
    · refine Sim.seq (hm.sim_advance fun x h => h.2) fun _ _ => ?_
      refine Sim.seq (valueText_sim hm) fun v w => Sim.assume₀ fun hvw => ?_
      subst hvw
      exact Sim.returns fun _ _ => by simp [Source.erase, SourceRef.erase]
    · refine Sim.cond (fun _ => ?_) (fun _ => Sim.returns fun _ _ => by
        simp [Source.erase, SourceRef.erase])
      refine Sim.seq (searchParams_sim hm f f' "" [] hf.le) fun v w => Sim.assume₀ fun hvw => ?_
      subst hvw
      exact Sim.returns fun _ _ => by simp [Source.erase, SourceRef.erase]

theorem aliasPart_sim (hm : Embedded A B k e) (fn : String) {args args' : List Expr}
    (hargs : args'.map Expr.erase = args.map Expr.erase) (pos pos' : Nat) :
    Sim k e P (aliasPart A fn args pos) (aliasPart B fn args' pos') (fun v w _ => w.erase = v.erase) := by
  unfold aliasPart
  dsimp only
  refine hm.sim_isAt_if [.asKw] (by decide) ?_
    (Sim.returns fun _ _ => by simp [Aggregation.erase, hargs])
  refine Sim.seq (hm.sim_advance fun x h => h.2) fun _ _ => ?_
  refine hm.sim_isAt_if [.ident] (by decide) ?_
    (Sim.returns fun _ _ => by simp [Aggregation.erase, hargs])
  refine Sim.seq (hm.sim_advance fun x h => h.2) fun t u => Sim.assume₀ fun hv => ?_
  exact Sim.returns fun _ _ => by simp [Aggregation.erase, hargs, Token.text_eq_of_view hv]

/-- An aggregation starts on its function's name, so before the end. -/
theorem aggregation_sim (hm : Embedded A B k e) (f f' : Nat) (hf : f ≤ f') (hP : ∀ x, P x → x < e) :
    Sim k e P (aggregation A f) (aggregation B f') (fun v w _ => w.erase = v.erase) := by
  rw [aggregation_eq, aggregation_eq]
  refine Sim.seq sim_here fun _ _ => ?_
  refine Sim.seq (hm.sim_advance hP) fun t u => Sim.assume₀ fun hv => ?_
  rw [Token.text_eq_of_view hv]
  refine hm.sim_isAt_if [.lparen] (by decide) ?_ (aliasPart_sim hm _ rfl _ _)
  refine Sim.seq (hm.sim_advance fun x h => h.2) fun _ _ => ?_
  refine Sim.seq ((exprSim hm f).callArgs f' [] [] hf rfl) fun as as' => Sim.assume₀ fun has => ?_
  exact Sim.seq (hm.sim_expect (by decide)) fun _ _ => aliasPart_sim hm _ has _ _

theorem aggregations_sim (hm : Embedded A B k e) (f f' : Nat) (acc acc' : Array Aggregation)
    (hf : f ≤ f') (hacc : acc'.map Aggregation.erase = acc.map Aggregation.erase) :
    Sim k e P (aggregations A f acc) (aggregations B f' acc')
      (fun v w _ => w.map Aggregation.erase = v.map Aggregation.erase) := by
  induction f generalizing f' acc acc' P with
  | zero => exact Sim.fails
  | succ f ih =>
    obtain ⟨g, rfl⟩ : ∃ g, f' = g + 1 := ⟨f' - 1, by omega⟩
    refine Sim.of_close ?_ (aggregations_close A f e acc (by rw [hm.ends e le_rfl]; rfl))
      (aggregations_close B g _ acc' hm.closes) (fun _ => hacc)
    rw [aggregations, aggregations]
    refine hm.sim_isAt_lt_if _ (fun x h => h.2) (Sim.returns fun _ _ => hacc) ?_
    refine hm.sim_isAt_if [.ident] (by decide) ?_ (Sim.returns fun _ _ => hacc)
    refine Sim.seq (aggregation_sim hm f g (by omega) fun x h => h.2) fun a a' =>
      Sim.assume₀ fun haa => ?_
    have hpush : (acc'.push a').map Aggregation.erase = (acc.push a).map Aggregation.erase := by
      simp [hacc, haa]
    refine hm.sim_isAt_if [.comma] (by decide) ?_ (ih g _ _ (by omega) hpush)
    exact Sim.seq (hm.sim_advance fun x h => h.2) fun _ _ => ih g _ _ (by omega) hpush

theorem statsArgs_sim (hm : Embedded A B k e) (f f' : Nat) (hf : f ≤ f') :
    Sim k e P (statsArgs A f) (statsArgs B f') (fun v w _ => w.erase = v.erase) := by
  rw [statsArgs, statsArgs]
  dsimp only
  refine Sim.seq (aggregations_sim hm f f' #[] #[] hf rfl) fun as as' => Sim.assume₀ fun has => ?_
  refine hm.sim_isAt_if [.byKw] (by decide) ?_
    (Sim.returns fun _ _ => by simp [StageParts.erase, has])
  refine Sim.seq (hm.sim_advance fun x h => h.2) fun _ _ => ?_
  refine Sim.seq (byList_sim hm f f' #[] hf) fun bs bs' => Sim.assume₀ fun hbs => ?_
  exact Sim.returns fun _ _ => by simp [StageParts.erase, has, hbs]

theorem assignments_sim (hm : Embedded A B k e) (f f' : Nat) (acc acc' : Array Arg) (hf : f ≤ f')
    (hacc : acc'.map Arg.erase = acc.map Arg.erase) :
    Sim k e P (assignments A f acc) (assignments B f' acc')
      (fun v w _ => w.map Arg.erase = v.map Arg.erase) := by
  induction f generalizing f' acc acc' P with
  | zero => exact Sim.fails
  | succ f ih =>
    obtain ⟨g, rfl⟩ : ∃ g, f' = g + 1 := ⟨f' - 1, by omega⟩
    refine Sim.of_close ?_ (assignments_close A f e acc (by rw [hm.ends e le_rfl]; rfl))
      (assignments_close B g _ acc' hm.closes) (fun _ => hacc)
    rw [assignments, assignments]
    refine hm.sim_isAt_lt_if _ (fun x h => h.2) (Sim.returns fun _ _ => hacc) ?_
    refine Sim.seq (hm.sim_isAt [.ident] (by decide)) fun a b => Sim.assume fun hab => ?_
    subst hab
    refine Sim.cond (fun _ => Sim.returns fun _ _ => hacc) fun ha => ?_
    refine Sim.seq (hm.sim_advance fun x h => h.2 (by simpa using ha)) fun t u =>
      Sim.assume₀ fun hv => ?_
    dsimp only
    rw [Token.text_eq_of_view hv]
    refine Sim.seq (hm.sim_isAt [.assign] (by decide)) fun a b => Sim.assume fun hab => ?_
    subst hab
    refine Sim.cond (fun _ => Sim.returns fun _ _ => hacc) fun ha => ?_
    refine Sim.seq (hm.sim_advance fun x h => h.2 (by simpa using ha)) fun _ _ => ?_
    refine Sim.seq ((exprSim hm f).orExpr g (by omega)) fun v v' => Sim.assume₀ fun hvv => ?_
    refine Sim.seq sim_here fun _ _ => ?_
    have hpush : ∀ p p' : Nat, (acc'.push (.keyword t.text v' p')).map Arg.erase =
        (acc.push (.keyword t.text v p)).map Arg.erase := fun _ _ => by simp [hacc, hvv, Arg.erase]
    refine hm.sim_isAt_if [.comma] (by decide) ?_ (ih g _ _ (by omega) (hpush _ _))
    exact Sim.seq (hm.sim_advance fun x h => h.2) fun _ _ => ih g _ _ (by omega) (hpush _ _)

theorem sortKeys_sim (hm : Embedded A B k e) (f f' : Nat) (acc acc' : Array Arg) (hf : f ≤ f')
    (hacc : acc'.map Arg.erase = acc.map Arg.erase) :
    Sim k e P (sortKeys A f acc) (sortKeys B f' acc')
      (fun v w _ => w.map Arg.erase = v.map Arg.erase) := by
  induction f generalizing f' acc acc' P with
  | zero => exact Sim.fails
  | succ f ih =>
    obtain ⟨g, rfl⟩ : ∃ g, f' = g + 1 := ⟨f' - 1, by omega⟩
    -- after a key: on the end of `A` the loop goes round once more, which needs fuel left
    have tail : ∀ {Q : Nat → Prop} (acc acc' : Array Arg), acc'.map Arg.erase = acc.map Arg.erase →
        Sim k e Q (sortTail A f acc) (sortTail B g acc')
          (fun v w _ => w.map Arg.erase = v.map Arg.erase) := by
      intro Q acc acc' hacc
      refine Sim.split_end ?_ fun _ v y h => ?_
      · unfold sortTail
        refine Sim.seq (hm.sim_isAt_lt [.comma] fun x h => h.2) fun a b => Sim.assume fun hab => ?_
        subst hab
        refine Sim.cond (fun _ => Sim.seq (hm.sim_advance fun x h => h.2) fun _ _ =>
          ih g _ _ (by omega) hacc) fun _ => ?_
        refine hm.sim_isAt_lt_if _ (fun x h => h.2) (ih g _ _ (by omega) hacc) ?_
        exact hm.sim_isAt_lt_if _ (fun x h => h.2) (ih g _ _ (by omega) hacc)
          (Sim.returns fun _ _ => hacc)
      · have hend : (tokenAt A e).kind.closes = true := by rw [hm.ends e le_rfl]; rfl
        cases f with
        | zero =>
          unfold sortTail at h
          simp +decide only [run_bind, isAt_run, hm.ends e le_rfl, ↓reduceIte, sortKeys,
            run_throw, reduceCtorEq] at h
        | succ f =>
          rw [sortTail_close A f e acc hend, Except.ok.injEq, Prod.mk.injEq] at h
          obtain ⟨rfl, rfl⟩ := h
          obtain ⟨g', rfl⟩ : ∃ g', g = g' + 1 := ⟨g - 1, by omega⟩
          exact ⟨le_rfl, acc', sortTail_close B g' _ acc' hm.closes, hacc⟩
    refine Sim.of_close ?_ (sortKeys_close A f e acc (by rw [hm.ends e le_rfl]; rfl))
      (sortKeys_close B g _ acc' hm.closes) (fun _ => hacc)
    rw [sortKeys_succ, sortKeys_succ]
    have hpush : ∀ (t u : Token) (p p' : Nat) (sign : String), u.text = t.text →
        (acc'.push (.positional (.lit (.text (sign ++ u.text)) .string 0) p')).map Arg.erase =
          (acc.push (.positional (.lit (.text (sign ++ t.text)) .string 0) p)).map Arg.erase :=
      fun _ _ _ _ _ ht => by simp [hacc, ht, Arg.erase, Expr.erase]
    refine hm.sim_isAt_lt_if _ (fun x h => h.2) (Sim.returns fun _ _ => hacc) ?_
    refine hm.sim_isAt_if [.minus] (by decide) ?_ ?_
    · refine Sim.seq (hm.sim_advance fun x h => h.2) fun _ _ => ?_
      refine hm.sim_isAt_if [.ident] (by decide) ?_ (tail _ _ hacc)
      refine Sim.seq (hm.sim_advance fun x h => h.2) fun t u => Sim.assume₀ fun hv => ?_
      exact Sim.seq sim_here fun _ _ => tail _ _ (hpush t u _ _ "-" (Token.text_eq_of_view hv))
    · refine hm.sim_isAt_if [.ident] (by decide) ?_ (tail _ _ hacc)
      refine Sim.seq (hm.sim_advance fun x h => h.2) fun t u => Sim.assume₀ fun hv => ?_
      exact Sim.seq sim_here fun _ _ => tail _ _ (hpush t u _ _ "" (Token.text_eq_of_view hv))

theorem headArgs_sim (hm : Embedded A B k e) :
    Sim k e P (headArgs A) (headArgs B) (fun v w _ => w.erase = v.erase) := by
  unfold headArgs
  refine hm.sim_isAt_if [.num] (by decide) ?_ (Sim.returns fun _ _ => rfl)
  refine Sim.seq (hm.sim_advance fun x h => h.2) fun t u => Sim.assume₀ fun hv => ?_
  rw [Token.text_eq_of_view hv]
  cases Text.readInt? t.text with
  | none => exact Sim.fails
  | some n =>
    refine Sim.seq sim_here fun _ _ => Sim.returns fun _ _ => ?_
    simp [StageParts.erase, Arg.erase]

/-- A span is read from its number on, before the end. -/
theorem spanText_sim (hm : Embedded A B k e) (hP : ∀ x, P x → x < e) :
    Sim k e P (spanText A) (spanText B) (fun v w _ => w = v) := by
  unfold spanText
  refine Sim.seq (hm.sim_advance hP) fun t u => Sim.assume₀ fun hv => ?_
  rw [Token.text_eq_of_view hv]
  refine hm.sim_isAt_if [.ident] (by decide) ?_ (Sim.returns fun _ _ => rfl)
  refine Sim.seq (hm.sim_advance fun x h => h.2) fun t' u' => Sim.assume₀ fun hv' => ?_
  rw [Token.text_eq_of_view hv']
  exact Sim.cond (fun _ => Sim.returns fun _ _ => rfl) (fun _ => Sim.returns fun _ _ => rfl)

theorem spanPairs_sim (hm : Embedded A B k e) (spanKey : String) (f f' : Nat)
    (acc acc' : Array Arg) (hf : f ≤ f') (hacc : acc'.map Arg.erase = acc.map Arg.erase) :
    Sim k e P (spanPairs A spanKey f acc) (spanPairs B spanKey f' acc')
      (fun v w _ => w.map Arg.erase = v.map Arg.erase) := by
  induction f generalizing f' acc acc' P with
  | zero => exact Sim.fails
  | succ f ih =>
    obtain ⟨g, rfl⟩ : ∃ g, f' = g + 1 := ⟨f' - 1, by omega⟩
    refine Sim.of_close ?_ (spanPairs_close A f e spanKey acc (by rw [hm.ends e le_rfl]; rfl))
      (spanPairs_close B g _ spanKey acc' hm.closes) (fun _ => hacc)
    rw [spanPairs, spanPairs]
    refine hm.sim_isAt_lt_if _ (fun x h => h.2) (Sim.returns fun _ _ => hacc) ?_
    refine hm.sim_isAt_lt_if [.ident] (fun x h => h.2) (Sim.returns fun _ _ => hacc) ?_
    refine Sim.seq (hm.sim_peekNext fun x h => h.2) fun t u => Sim.assume fun hk => ?_
    simp only [ne_eq, hk.eq_iff (show TokenKind.assign.closes = false from rfl)]
    refine Sim.cond (fun _ => Sim.returns fun _ _ => hacc) fun hne => ?_
    refine hm.sim_key (fun x h => ?_) fun t u hv => ?_
    · exact ⟨h.1.2, by rw [← h.2]; simpa using hne⟩
    rw [Token.text_eq_of_view hv]
    refine Sim.seq (hm.sim_isAt [.num] (by decide)) fun a b => Sim.assume fun hab => ?_
    subst hab
    refine Sim.cond (fun hc => ?_) (fun _ => ?_)
    · refine Sim.seq (spanText_sim hm fun x h => h.2 (by simp_all)) fun s s' =>
        Sim.assume₀ fun hs => ?_
      subst hs
      exact Sim.seq sim_here fun _ _ => ih g _ _ (by omega) (by simp [hacc, Arg.erase, Expr.erase])
    · refine Sim.seq ((exprSim hm f).primary g (by omega)) fun v v' => Sim.assume₀ fun hvv => ?_
      exact Sim.seq sim_here fun _ _ => ih g _ _ (by omega) (by simp [hacc, hvv, Arg.erase])

theorem fieldAndSpans_sim (hm : Embedded A B k e) (spanKey : String) (f f' : Nat) (hf : f ≤ f') :
    Sim k e P (fieldAndSpans A spanKey f) (fieldAndSpans B spanKey f')
      (fun v w _ => w.erase = v.erase) := by
  unfold fieldAndSpans
  dsimp only
  refine hm.sim_isAt_if [.ident] (by decide) ?_ ?_
  · refine Sim.seq (hm.sim_advance fun x h => h.2) fun t u => Sim.assume₀ fun hv => ?_
    rw [Token.text_eq_of_view hv]
    refine Sim.seq sim_here fun _ _ => ?_
    refine Sim.seq (spanPairs_sim hm spanKey f f' _ _ hf (by simp [Arg.erase, Expr.erase]))
      fun as as' => Sim.assume₀ fun has => ?_
    exact Sim.returns fun _ _ => by simp [StageParts.erase, has]
  · refine Sim.seq (spanPairs_sim hm spanKey f f' #[] #[] hf rfl) fun as as' =>
      Sim.assume₀ fun has => ?_
    exact Sim.returns fun _ _ => by simp [StageParts.erase, has]

theorem searchArgs_sim (hm : Embedded A B k e) (f f' : Nat) (acc acc' : Array Arg) (hf : f ≤ f')
    (hacc : acc'.map Arg.erase = acc.map Arg.erase) :
    Sim k e P (searchArgs A f acc) (searchArgs B f' acc')
      (fun v w _ => w.map Arg.erase = v.map Arg.erase) := by
  induction f generalizing f' acc acc' P with
  | zero => exact Sim.fails
  | succ f ih =>
    obtain ⟨g, rfl⟩ : ∃ g, f' = g + 1 := ⟨f' - 1, by omega⟩
    refine Sim.of_close ?_ (searchArgs_close A f e acc (by rw [hm.ends e le_rfl]; rfl))
      (searchArgs_close B g _ acc' hm.closes) (fun _ => hacc)
    rw [searchArgs, searchArgs]
    refine hm.sim_isAt_lt_if _ (fun x h => h.2) (Sim.returns fun _ _ => hacc) ?_
    refine hm.sim_isAt_lt_if [.ident] (fun x h => h.2) (Sim.returns fun _ _ => hacc) ?_
    refine Sim.seq (hm.sim_peekNext fun x h => h.2) fun t u => Sim.assume fun hk => ?_
    simp only [ne_eq, hk.eq_iff (show TokenKind.assign.closes = false from rfl)]
    refine Sim.cond (fun _ => Sim.returns fun _ _ => hacc) fun hne => ?_
    refine hm.sim_key (fun x h => ?_) fun t u hv => ?_
    · exact ⟨h.1.2, by rw [← h.2]; simpa using hne⟩
    rw [Token.text_eq_of_view hv]
    have hvalue : Sim k e (fun _ => True) (value A f >>= fun v => here A >>= fun p =>
        searchArgs A f (acc.push (.keyword t.text v p))) (value B g >>= fun v => here B >>= fun p =>
        searchArgs B g (acc'.push (.keyword t.text v p)))
        (fun v w _ => w.map Arg.erase = v.map Arg.erase) := by
      refine Sim.seq ((exprSim hm f).primary g (by omega)) fun v v' => Sim.assume₀ fun hvv => ?_
      exact Sim.seq sim_here fun _ _ => ih g _ _ (by omega) (by simp [hacc, hvv, Arg.erase])
    refine Sim.cond (fun _ => ?_) (fun _ => hvalue)
    refine hm.sim_isAt_if [.num] (by decide) ?_ ?_
    · refine Sim.seq (spanText_sim hm fun x h => h.2) fun s s' => Sim.assume₀ fun hs => ?_
      subst hs
      exact Sim.seq sim_here fun _ _ => ih g _ _ (by omega) (by simp [hacc, Arg.erase, Expr.erase])
    refine hm.sim_isAt_if [.str] (by decide) ?_
      (Sim.weaken hvalue (fun _ _ => trivial) fun _ _ _ h => h)
    refine Sim.seq (hm.sim_advance fun x h => h.2) fun t' u' => Sim.assume₀ fun hv' => ?_
    rw [Token.text_eq_of_view hv']
    exact Sim.seq sim_here fun _ _ => ih g _ _ (by omega) (by simp [hacc, Arg.erase, Expr.erase])

theorem wildcardRun_sim (hm : Embedded A B k e) (f f' : Nat) (acc acc' : List Token) (hf : f ≤ f')
    (hacc : acc'.map Token.view = acc.map Token.view) :
    Sim k e P (wildcardRun A f acc) (wildcardRun B f' acc')
      (fun v w _ => w.map Token.view = v.map Token.view) := by
  induction f generalizing f' acc acc' P with
  | zero => exact Sim.fails
  | succ f ih =>
    obtain ⟨g, rfl⟩ : ∃ g, f' = g + 1 := ⟨f' - 1, by omega⟩
    refine Sim.of_close ?_ (wildcardRun_close A f e acc (by rw [hm.ends e le_rfl]; rfl))
      (wildcardRun_close B g _ acc' hm.closes) (fun _ => hacc)
    rw [wildcardRun.eq_def, wildcardRun.eq_def]
    dsimp only
    have hcons : ∀ t u : Token, u.view = t.view → (u :: acc').map Token.view = (t :: acc).map Token.view :=
      fun _ _ h => by simp [h, hacc]
    have htake : ∀ {Q : Nat → Prop}, (∀ x, Q x → x < e) →
        Sim k e Q (advance A >>= fun t => wildcardRun A f (t :: acc))
          (advance B >>= fun u => wildcardRun B g (u :: acc'))
          (fun v w _ => w.map Token.view = v.map Token.view) := fun hQ =>
      Sim.seq (hm.sim_advance hQ) fun t u => Sim.assume₀ fun hv => ih g _ _ (by omega) (hcons t u hv)
    have hpeek : ∀ {Q : Nat → Prop}, (∀ x, Q x → x < e) →
        Sim k e Q (peekNext A >>= fun n => if n.kind = .star then
            advance A >>= fun t => wildcardRun A f (t :: acc) else pure acc)
          (peekNext B >>= fun n => if n.kind = .star then
            advance B >>= fun u => wildcardRun B g (u :: acc') else pure acc')
          (fun v w _ => w.map Token.view = v.map Token.view) := fun hQ => by
      refine Sim.seq (hm.sim_peekNext hQ) fun t u => Sim.assume fun hk => ?_
      simp only [hk.eq_iff (show TokenKind.star.closes = false from rfl)]
      exact Sim.cond (fun _ => htake fun x h => hQ x h.1) (fun _ => Sim.returns fun _ _ => hacc)
    refine hm.sim_isAt_lt_if _ (fun x h => h.2) (Sim.returns fun _ _ => hacc) ?_
    refine Sim.seq (hm.sim_isAt_lt [.star] fun x h => h.2) fun a b => Sim.assume fun hab => ?_
    subst hab
    rcases acc with _ | ⟨p, rest⟩ <;> rcases acc' with _ | ⟨p', rest'⟩ <;>
      simp only [List.map_cons, List.map_nil, List.cons.injEq, reduceCtorEq] at hacc <;>
      dsimp only
    · refine Sim.cond (fun _ => htake fun x h => h.2) fun _ => ?_
      exact hm.sim_isAt_lt_if [.ident] (fun x h => h.2) (hpeek fun x h => h.2)
        (Sim.returns fun _ _ => rfl)
    · obtain ⟨hp, hrest⟩ := hacc
      rw [Token.kind_eq_of_view hp]
      refine Sim.cond (fun _ => Sim.cond (fun _ => ?_) (fun _ => htake fun x h => h.2)) fun _ => ?_
      · refine Sim.seq (hm.sim_advance fun x h => h.2) fun _ _ => ih g _ _ (by omega) ?_
        simp [Token.view, Token.text_eq_of_view hp, hrest]
      refine Sim.seq (hm.sim_isAt_lt [.ident] fun x h => h.2) fun a b => Sim.assume fun hab => ?_
      subst hab
      refine Sim.cond (fun _ => Sim.cond (fun _ => ?_) (fun _ => hpeek fun x h => h.2))
        (fun _ => Sim.returns fun _ _ => by simp [hp, hrest])
      refine Sim.seq (hm.sim_advance fun x h => h.2) fun n n' => Sim.assume₀ fun hn => ?_
      refine ih g _ _ (by omega) ?_
      simp [Token.view, Token.text_eq_of_view hp, Token.text_eq_of_view hn, hrest]

/-- A general positional argument depends on the kinds and texts of its tokens only. -/
theorem positionalValue_congr (sign : String) {toks toks' : List Token}
    (h : toks'.map Token.view = toks.map Token.view) :
    positionalValue sign toks' = positionalValue sign toks := by
  have htext : toks'.map Token.text = toks.map Token.text := by
    simpa [Function.comp_def, Token.view] using congrArg (List.map Prod.snd) h
  rcases toks with _ | ⟨t, _ | ⟨t₂, rest⟩⟩ <;> rcases toks' with _ | ⟨t', _ | ⟨t₂', rest'⟩⟩ <;>
    simp only [List.map_cons, List.map_nil, List.cons.injEq, reduceCtorEq, and_false] at h
  · rfl
  · simp [positionalValue, Token.kind_eq_of_view h.1, Token.text_eq_of_view h.1]
  · simp only [positionalValue]
    rw [htext]

end Alike

end PipeQuery.Query
