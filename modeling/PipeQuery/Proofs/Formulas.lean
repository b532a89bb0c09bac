import PipeQuery.Query.Formula
import PipeQuery.Proofs.Embedding.Texts
import PipeQuery.Proofs.Segmentation

/-!
# Formulas read as query expressions

Formulas and the expressions of queries climb the same precedence ladder, but a formula may have
unary minus, has at most one comparison and no `=` among them, may leave out the commas between
call arguments, and keeps its connectives as written. Where both readers take a lexed text from its
first token to its end they build one tree, up to offsets and the case of operator spellings
(`formula_agrees_with_query`). The readers run side by side (`ReadsAs`, by induction on the fuel
of the query readers): each pair stops at the same token with trees of one normal form, or the
formula reader stops at a comparison that the query reader goes on with.
-/

namespace PipeQuery.Query

open Token

/-- The tree with its offsets set to zero and its binary operators spelled in upper case. -/
def Expr.norm : Expr → Expr
  | .lit v kind _ => .lit v kind 0
  | .ident name _ => .ident name 0
  | .call name args _ => .call name (args.map Expr.norm) 0
  | .binary l op r _ => .binary l.norm (op.map Char.toUpper) r.norm 0
  | .unary op e _ => .unary op e.norm 0

/-! ### The connectives as the lexer spells them -/

/-- A word whose lower case is `w` has the upper case of `w` as its upper case. -/
theorem upper_of_lower {body : List Char} {w : String} (h : String.ofList (body.map Char.toLower) = w) :
    (String.ofList body).map Char.toUpper = w.map Char.toUpper := by
  rw [← String.toList_inj, String.toList_map, String.toList_map, ← h, String.toList_ofList,
    String.toList_ofList, List.map_map]
  simp only [Function.comp_def, Char.toUpper_toLower_eq_toUpper]

/-- The connectives `and` and `or` are written as such, in some case. -/
def Token.Connective (t : Token) : Prop :=
  (t.kind = .andKw → t.text.map Char.toUpper = "AND") ∧ (t.kind = .orKw → t.text.map Char.toUpper = "OR")

theorem Token.connective_of_kind {t : Token} (h₁ : t.kind ≠ .andKw) (h₂ : t.kind ≠ .orKw) :
    t.Connective :=
  ⟨fun h => absurd h h₁, fun h => absurd h h₂⟩

theorem nameKind_connective (body : List Char) (start stop : Cursor) :
    (ofSpan (nameKind body) body start stop).Connective := by
  unfold nameKind
  cases h : TokenKind.keyword? (String.ofList (body.map Char.toLower)) with
  | none => exact Token.connective_of_kind (by simp [ofSpan]) (by simp [ofSpan])
  | some k =>
    unfold TokenKind.keyword? at h
    split at h <;> cases h <;> simp [Token.Connective, ofSpan, upper_of_lower ‹_›] <;> cbv

theorem single?_connective {c : Char} {k : TokenKind} (h : TokenKind.single? c = some k)
    (body : List Char) (start stop : Cursor) : (ofSpan k body start stop).Connective := by
  unfold TokenKind.single? at h
  split at h <;> cases h <;> exact Token.connective_of_kind nofun nofun

theorem operator_connective {c : Char} {k1 k2 : TokenKind}
    (h : TokenKind.comparison? c = some (k1, k2)) (r : List Char) (start stop : Cursor) :
    (ofSpan (operator c r k1 k2).1 (operator c r k1 k2).2.1 start stop).Connective := by
  have hk := operator_kind c r k1 k2
  unfold TokenKind.comparison? at h
  split at h <;> cases h <;> rcases hk with hk | hk <;>
    exact Token.connective_of_kind (by simp [ofSpan, hk]) (by simp [ofSpan, hk])

/-- Every token the lexer adds spells its connective. -/
theorem scanFrom_connective {cs : List Char} {cur : Cursor} {acc out : Array Token}
    (h : scanFrom cs cur acc = .ok out) (hacc : ∀ t ∈ acc, t.Connective) : ∀ t ∈ out, t.Connective := by
  fun_induction scanFrom cs cur acc with
  | case1 cur acc =>
    cases h
    exact Array.forall_mem_push.2 ⟨Token.connective_of_kind (by simp) (by simp), hacc⟩
  | case2 cur acc c r hsp ih => exact ih h hacc
  | case3 | case10 | case12 => cases h
  | case6 =>
    rename_i ih
    exact ih h (Array.forall_mem_push.2 ⟨nameKind_connective _ _ _, hacc⟩)
  | case7 cur acc c r hsp hq hnum hlet k hk ih =>
    exact ih h (Array.forall_mem_push.2 ⟨single?_connective hk _ _ _, hacc⟩)
  | case8 cur acc c r hsp hq hnum hlet hs k1 k2 hk _ op stop =>
    rename_i ih
    exact ih h (Array.forall_mem_push.2 ⟨operator_connective hk _ _ _, hacc⟩)
  | case4 | case5 | case9 | case11 =>
    rename_i ih
    exact ih h (Array.forall_mem_push.2
      ⟨Token.connective_of_kind (by simp [ofSpan]) (by simp [ofSpan]), hacc⟩)

/-- What the expression readers need of a lexed text: it ends with its end token and spells its
connectives. -/
structure Lexed (ts : Array Token) : Prop where
  back : ∃ t, ts.back? = some t ∧ t.kind = .eof
  connective : ∀ t ∈ ts, t.Connective

theorem scan_lexed {s : String} {ts : Array Token} (h : scan s = .ok ts) : Lexed ts :=
  ⟨scan_back h, scanFrom_connective h (by simp)⟩

/-! ### Running the formula readers -/

namespace Formula

section Running

variable (ts : Array Token)

/-- The token the formula readers see at `x`: past the end, an end token. -/
def current (x : Nat) : Token :=
  ts[x]?.getD { kind := .eof, text := "", pos := ts.size, line := 1, column := 0 }

@[simp] theorem cur_bind {α : Type} (g : Token → FormulaReader α) (x : Nat) :
    (cur ts >>= g).run x = (g (current ts x)).run x := rfl

@[simp] theorem advance_bind {α : Type} (g : Token → FormulaReader α) (x : Nat) :
    (advance ts >>= g).run x = (g (current ts x)).run (x + 1) := rfl

@[simp] theorem isAt_bind {α : Type} (ks : List TokenKind) (g : Bool → FormulaReader α) (x : Nat) :
    (isAt ts ks >>= g).run x = (g (ks.contains (current ts x).kind)).run x := rfl

end Running

theorem run_bind_ok {α β : Type} {m : FormulaReader α} {g : α → FormulaReader β} {x z : Nat} {v : β}
    (h : (m >>= g).run x = .ok (v, z)) : ∃ a y, m.run x = .ok (a, y) ∧ (g a).run y = .ok (v, z) := by
  rw [StateT.run_bind] at h
  cases hm : m.run x with
  | error err => rw [hm] at h; cases h
  | ok p => rw [hm] at h; exact ⟨p.1, p.2, rfl, h⟩

theorem bind_error {α β : Type} {m : FormulaReader α} {g : α → FormulaReader β} {x : Nat}
    {err : FormulaError} (h : m.run x = .error err) : (m >>= g).run x = .error err := by
  rw [StateT.run_bind, h]
  rfl

theorem expect_ok {ts : Array Token} {k : TokenKind} {x y : Nat} {t : Token}
    (h : (expect ts k).run x = .ok (t, y)) : (current ts x).kind = k ∧ y = x + 1 := by
  unfold expect at h
  rw [cur_bind] at h
  split at h
  · cases h
    exact ⟨‹_›, rfl⟩
  · cases h

/-- One chain step as the formula readers take it: the operator keeps its token's text, the node
offset 0. -/
def chainStep (ts : Array Token) (ops : List TokenKind) (operand : FormulaReader Expr)
    (rest : Expr → FormulaReader Expr) (l : Expr) : FormulaReader Expr := do
  if ← isAt ts ops then
    let op := (← advance ts).text
    rest (.binary l op (← operand) 0)
  else pure l

/-- What may follow the first sum of a comparison: one comparison operator and a second sum. -/
def comparisonRest (ts : Array Token) (f : Nat) (l : Expr) : FormulaReader Expr := do
  if ← isAt ts [.gt, .lt, .ge, .le, .eq, .ne] then
    let op := (← advance ts).text
    return .binary l op (← additive ts f) 0
  else return l

section Chains

variable (ts : Array Token) (f : Nat) (l : Expr)

theorem orTail_succ : orTail ts (f + 1) l = chainStep ts [.orKw] (andExpr ts f) (orTail ts f) l :=
  rfl

theorem andTail_succ :
    andTail ts (f + 1) l = chainStep ts [.andKw] (comparison ts f) (andTail ts f) l := rfl

theorem additiveTail_succ : additiveTail ts (f + 1) l =
    chainStep ts [.plus, .minus] (multiplicative ts f) (additiveTail ts f) l := rfl

theorem multiplicativeTail_succ : multiplicativeTail ts (f + 1) l =
    chainStep ts [.star, .slash] (unary ts f) (multiplicativeTail ts f) l := rfl

theorem comparison_succ : comparison ts (f + 1) = additive ts f >>= comparisonRest ts f := rfl

end Chains

theorem chainStep_stop {ts : Array Token} {ops : List TokenKind} {operand : FormulaReader Expr}
    {rest : Expr → FormulaReader Expr} {l : Expr} {x : Nat}
    (hx : ops.contains (current ts x).kind = false) : (chainStep ts ops operand rest l).run x = .ok (l, x) := by
  simp only [chainStep, isAt_bind, hx]
  rfl

end Formula

/-! ### Running the query readers -/

section Running

variable (ts : Array Token)

@[simp] theorem cur_bind {α : Type} (g : Token → TokenReader α) (x : Nat) :
    (cur ts >>= g).run x = (g (tokenAt ts x)).run x := rfl

@[simp] theorem advance_bind {α : Type} (g : Token → TokenReader α) (x : Nat) :
    (advance ts >>= g).run x = (g (tokenAt ts x)).run (x + 1) := rfl

@[simp] theorem isAt_bind {α : Type} (ks : List TokenKind) (g : Bool → TokenReader α) (x : Nat) :
    (isAt ts ks >>= g).run x = (g (ks.contains (tokenAt ts x).kind)).run x := rfl

@[simp] theorem here_bind {α : Type} (g : Nat → TokenReader α) (x : Nat) :
    (here ts >>= g).run x = (g (tokenAt ts x).pos).run x := rfl

end Running

theorem expect_ok {ts : Array Token} {k : TokenKind} {x y : Nat} {t : Token}
    (h : (expect ts k).run x = .ok (t, y)) : (tokenAt ts x).kind = k ∧ y = x + 1 := by
  unfold expect at h
  rw [cur_bind] at h
  split at h
  · cases h
    exact ⟨‹_›, rfl⟩
  · cases h

theorem chainStep_stop {ts : Array Token} {ops : List TokenKind} {opText : Token → String}
    {operand : TokenReader Expr} {rest : Expr → TokenReader Expr} {l : Expr} {x : Nat}
    (hx : ops.contains (tokenAt ts x).kind = false) :
    (chainStep ts ops opText operand rest l).run x = .ok (l, x) := by
  simp only [chainStep, isAt_bind, hx]
  rfl

/-! ### The two views of a lexed text -/

namespace Lexed

variable {ts : Array Token} (hl : Lexed ts)
include hl

/-- Before the end both readers see the same token; from the end on, both see an end token. -/
theorem current_or (x : Nat) : Formula.current ts x = tokenAt ts x ∨
    (Formula.current ts x).kind = .eof ∧ (tokenAt ts x).kind = .eof := by
  obtain ⟨t, hb, ht⟩ := hl.back
  rcases Nat.lt_or_ge x ts.size with hx | hx
  · left
    rw [tokenAt_of_lt hx, Formula.current, Array.getElem?_eq_getElem hx]
    rfl
  · right
    rw [tokenAt_of_back hb (by omega), ht, Formula.current, Array.getElem?_eq_none hx]
    exact ⟨rfl, rfl⟩

theorem current_kind (x : Nat) : (Formula.current ts x).kind = (tokenAt ts x).kind := by
  rcases hl.current_or x with h | ⟨h₁, h₂⟩
  · rw [h]
  · rw [h₁, h₂]

theorem current_eq {x : Nat} (hx : (tokenAt ts x).kind ≠ .eof) : Formula.current ts x = tokenAt ts x :=
  (hl.current_or x).resolve_right fun h => hx h.2

theorem connective_at (x : Nat) : (tokenAt ts x).Connective := by
  obtain ⟨t, hb, ht⟩ := hl.back
  rcases Nat.lt_or_ge x ts.size with hx | hx
  · rw [tokenAt_of_lt hx]
    exact hl.connective _ (Array.getElem_mem hx)
  · rw [tokenAt_of_back hb (by omega)]
    exact Token.connective_of_kind (by simp [ht]) (by simp [ht])

end Lexed

/-! ### Reading side by side -/

/-- The comparison kinds, which the query readers chain and the formula readers do not. -/
def comparisonKinds : List TokenKind := [.gt, .lt, .ge, .le, .eq, .ne, .assign]

/-- The token at `y` is a comparison. -/
def Stuck (ts : Array Token) (y : Nat) : Prop := (tokenAt ts y).kind ∈ comparisonKinds

theorem contains_of_stuck {ts : Array Token} {y : Nat} (hy : Stuck ts y) (ops : List TokenKind)
    (hops : ∀ k ∈ ops, k ∉ comparisonKinds) : ops.contains (tokenAt ts y).kind = false := by
  simpa using fun h => hops _ h hy

/-- From one token, the formula reader `rE` and the query reader `rC` stop at one token with trees
of one normal form, or `rE` stops where `esc` holds. -/
def Reads (esc : Nat → Prop) (rE : FormulaReader Expr) (rC : TokenReader Expr) : Prop :=
  ∀ x v y w z, rE.run x = .ok (v, y) → rC.run x = .ok (w, z) → (y = z ∧ v.norm = w.norm) ∨ esc y

/-- From one token, the argument readers stop at one token with arguments of one normal form, if the
query reader stops at `)`. -/
def ArgsRead (ts : Array Token) (rE : FormulaReader (List Expr)) (rC : TokenReader (List Expr)) :
    Prop :=
  ∀ x v y w z, rE.run x = .ok (v, y) → rC.run x = .ok (w, z) → (tokenAt ts z).kind = .rparen →
    y = z ∧ v.map Expr.norm = w.map Expr.norm

namespace Reads

variable {esc : Nat → Prop}

theorem formula_throws {err : FormulaError} {rC : TokenReader Expr} : Reads esc (throw err) rC :=
  fun _ _ _ _ _ h => by cases h

theorem query_throws {rE : FormulaReader Expr} : Reads esc rE (throw .tooDeep) :=
  fun _ _ _ _ _ _ h => by cases h

/-- Reading an operand and then what follows it: where the operand of the formula stops early,
what follows must stop there too. -/
theorem seq {esc₀ : Nat → Prop} {oE : FormulaReader Expr} {oC : TokenReader Expr}
    {tE : Expr → FormulaReader Expr} {tC : Expr → TokenReader Expr} (ho : Reads esc₀ oE oC)
    (ht : ∀ l l', l.norm = l'.norm → Reads esc (tE l) (tC l'))
    (hs : ∀ l y v z, esc₀ y → (tE l).run y = .ok (v, z) → esc z) :
    Reads esc (oE >>= tE) (oC >>= tC) := by
  intro x v y w z hE hC
  obtain ⟨l, y₁, hl, hE⟩ := Formula.run_bind_ok hE
  obtain ⟨l', z₁, hl', hC⟩ := run_bind_ok hC
  rcases ho x l y₁ l' z₁ hl hl' with ⟨rfl, hn⟩ | hy
  · exact ht l l' hn y₁ v y w z hE hC
  · exact .inr (hs l y₁ v y hy hE)

/-- One chain step on both sides: the same operator token, operands read alike, and the rest of the
chain from the combined trees. -/
theorem chainStep {ts : Array Token} (hl : Lexed ts) {ops : List TokenKind} (hops : .eof ∉ ops)
    {opText : Token → String}
    (hop : ∀ x, (tokenAt ts x).kind ∈ ops →
      (tokenAt ts x).text.map Char.toUpper = (opText (tokenAt ts x)).map Char.toUpper)
    {oE : FormulaReader Expr} {oC : TokenReader Expr} {rE : Expr → FormulaReader Expr}
    {rC : Expr → TokenReader Expr} (ho : Reads esc oE oC)
    (hr : ∀ l l', l.norm = l'.norm → Reads esc (rE l) (rC l'))
    (hs : ∀ l y v z, esc y → (rE l).run y = .ok (v, z) → esc z) {l l' : Expr}
    (hll : l.norm = l'.norm) :
    Reads esc (Formula.chainStep ts ops oE rE l) (Query.chainStep ts ops opText oC rC l') := by
  intro x v y w z hE hC
  simp only [Formula.chainStep, Query.chainStep, Formula.isAt_bind, isAt_bind,
    hl.current_kind] at hE hC
  by_cases hk : ops.contains (tokenAt ts x).kind
  · have hmem : (tokenAt ts x).kind ∈ ops := by simpa using hk
    have hx : (tokenAt ts x).kind ≠ .eof := fun h => hops (h ▸ hmem)
    simp only [hk, if_true, Formula.advance_bind, advance_bind, hl.current_eq hx] at hE hC
    refine seq ho (fun r r' hrr => ?_) (fun r => hs _) (x + 1) v y w z hE hC
    intro y₁ v y w z hE hC
    simp only [here_bind] at hC
    refine hr _ _ ?_ y₁ v y w z hE hC
    simp [Expr.norm, hll, hrr, hop x hmem]
  · simp only [hk, Bool.false_eq_true, if_false] at hE hC
    cases hE
    cases hC
    exact .inl ⟨rfl, hll⟩

end Reads

/-! ### Where the formula readers stop -/

namespace Formula

variable {ts : Array Token} (hl : Lexed ts)
include hl

/-- A chain of the formula readers stops at a comparison. -/
theorem tail_stuck {ops : List TokenKind} (hops : ∀ k ∈ ops, k ∉ comparisonKinds)
    {tail : Nat → Expr → FormulaReader Expr} {operand : Nat → FormulaReader Expr}
    (h0 : ∀ l, tail 0 l = throw .tooDeep)
    (hsucc : ∀ f l, tail (f + 1) l = chainStep ts ops (operand f) (tail f) l)
    (f : Nat) (l : Expr) {y z : Nat} {v : Expr} (hy : Stuck ts y)
    (h : (tail f l).run y = .ok (v, z)) : Stuck ts z := by
  cases f with
  | zero =>
    rw [h0] at h
    cases h
  | succ f =>
    rw [hsucc, chainStep_stop (by rw [hl.current_kind]; exact contains_of_stuck hy ops hops)] at h
    cases h
    exact hy

omit hl in
/-- A level that reads its first operand with the level below fails where that level fails. -/
theorem fails_of_bind {α β : Type} {A : Nat → FormulaReader α} {B : Nat → FormulaReader β} {y : Nat}
    (h0 : ∃ err, (B 0).run y = .error err) (hsucc : ∀ f, ∃ g, B (f + 1) = A f >>= g)
    (hA : ∀ f, ∃ err, (A f).run y = .error err) (f : Nat) : ∃ err, (B f).run y = .error err := by
  cases f with
  | zero => exact h0
  | succ f =>
    obtain ⟨g, hg⟩ := hsucc f
    obtain ⟨err, he⟩ := hA f
    exact ⟨err, by rw [hg]; exact bind_error he⟩

/-- No formula starts on a comparison: every level reads its first operand with the level below,
down to a factor. -/
theorem orExpr_stuck {y : Nat} (hy : Stuck ts y) (f : Nat) : ∃ err, (orExpr ts f).run y = .error err := by
  have hprim : ∀ f, ∃ err, (primary ts f).run y = .error err := by
    rintro (_ | f)
    · exact ⟨_, rfl⟩
    · have hk := hy
      simp only [Stuck, comparisonKinds, List.mem_cons, List.not_mem_nil, or_false] at hk
      simp only [primary, cur_bind, hl.current_kind]
      rcases hk with h | h | h | h | h | h | h <;> rw [h] <;> exact ⟨_, rfl⟩
  have hunary : ∀ f, ∃ err, (unary ts f).run y = .error err := by
    rintro (_ | f)
    · exact ⟨_, rfl⟩
    · simp only [unary, isAt_bind, hl.current_kind, contains_of_stuck hy [.minus] (by decide)]
      exact hprim f
  have hmul : ∀ f, ∃ err, (multiplicative ts f).run y = .error err :=
    fails_of_bind ⟨_, rfl⟩ (fun _ => ⟨_, rfl⟩) hunary
  have hadd : ∀ f, ∃ err, (additive ts f).run y = .error err :=
    fails_of_bind ⟨_, rfl⟩ (fun _ => ⟨_, rfl⟩) hmul
  have hcmp : ∀ f, ∃ err, (comparison ts f).run y = .error err :=
    fails_of_bind ⟨_, rfl⟩ (fun _ => ⟨_, rfl⟩) hadd
  have hand : ∀ f, ∃ err, (andExpr ts f).run y = .error err :=
    fails_of_bind ⟨_, rfl⟩ (fun _ => ⟨_, rfl⟩) hcmp
  exact fails_of_bind ⟨_, rfl⟩ (fun _ => ⟨_, rfl⟩) hand f

theorem callArgs_stuck {y : Nat} (hy : Stuck ts y) (f : Nat) (as : List Expr) :
    ∃ err, (callArgs ts f as).run y = .error err := by
  cases f with
  | zero => exact ⟨_, rfl⟩
  | succ f =>
    simp only [callArgs, isAt_bind, hl.current_kind, contains_of_stuck hy [.rparen] (by decide)]
    obtain ⟨err, herr⟩ := orExpr_stuck hl hy f
    exact ⟨err, bind_error herr⟩

theorem callArgs_close {x : Nat} (hx : (tokenAt ts x).kind = .rparen) {f : Nat} {as v : List Expr}
    {y : Nat} (h : (callArgs ts f as).run x = .ok (v, y)) : v = as.reverse ∧ y = x := by
  cases f with
  | zero => cases h
  | succ f =>
    simp only [callArgs, isAt_bind, hl.current_kind, hx] at h
    cases h
    exact ⟨rfl, rfl⟩

end Formula

/-- Off a comparison the query readers' comparison chain takes nothing. -/
theorem comparisonTail_stop {ts : Array Token} {g : Nat} {l w : Expr} {x z : Nat} (hx : ¬Stuck ts x)
    (h : (comparisonTail ts g l).run x = .ok (w, z)) : w = l ∧ z = x := by
  cases g with
  | zero => cases h
  | succ g =>
    rw [comparisonTail_succ, chainStep_stop (by simpa [Stuck, comparisonKinds] using hx)] at h
    cases h
    exact ⟨rfl, rfl⟩

/-! ### The levels that differ -/

section Levels

variable {ts : Array Token} (hl : Lexed ts) {g : Nat}
include hl

/-- The formula takes at most one comparison, and not `=`; the query chains them. -/
theorem Reads.comparisonRest
    (hadd : ∀ f, Reads (fun _ => False) (Formula.additive ts f) (additive ts g))
    (f : Nat) {l l' : Expr} (hll : l.norm = l'.norm) :
    Reads (Stuck ts) (Formula.comparisonRest ts f l) (comparisonTail ts (g + 1) l') := by
  intro x v y w z hE hC
  simp only [Formula.comparisonRest, Formula.isAt_bind, hl.current_kind] at hE
  by_cases hk : [TokenKind.gt, .lt, .ge, .le, .eq, .ne].contains (tokenAt ts x).kind
  · -- a comparison of both grammars: the second sums are read alike
    have hmem : (tokenAt ts x).kind ∈ [TokenKind.gt, .lt, .ge, .le, .eq, .ne] := by simpa using hk
    have hx : (tokenAt ts x).kind ≠ .eof := by intro h; simp [h] at hmem
    have ha : (tokenAt ts x).kind ≠ .assign := by intro h; simp [h] at hmem
    have hc : [TokenKind.gt, .lt, .ge, .le, .eq, .ne, .assign].contains (tokenAt ts x).kind := by
      simp only [List.mem_cons, List.not_mem_nil, or_false] at hmem
      simp only [List.contains_cons, List.contains_nil, Bool.or_false]
      rcases hmem with h | h | h | h | h | h <;> simp [h]
    simp only [hk, if_true, Formula.advance_bind, hl.current_eq hx] at hE
    rw [comparisonTail_succ] at hC
    simp only [Query.chainStep, isAt_bind, hc, if_true, advance_bind] at hC
    obtain ⟨r, y₁, hr, hE⟩ := Formula.run_bind_ok hE
    obtain ⟨r', z₁, hr', hC⟩ := run_bind_ok hC
    obtain ⟨rfl, rfl⟩ := Prod.mk.inj (Except.ok.inj hE)
    simp only [here_bind] at hC
    rcases hadd f (x + 1) r y₁ r' z₁ hr hr' with ⟨rfl, hrr⟩ | hf
    · by_cases hs : Stuck ts y₁
      · exact .inr hs
      · obtain ⟨rfl, rfl⟩ := comparisonTail_stop hs hC
        exact .inl ⟨rfl, by simp [Expr.norm, hll, hrr, ha]⟩
    · exact hf.elim
  · simp only [hk, Bool.false_eq_true, if_false] at hE
    cases hE
    by_cases hs : Stuck ts x
    · exact .inr hs
    · obtain ⟨rfl, rfl⟩ := comparisonTail_stop hs hC
      exact .inl ⟨rfl, hll⟩

/-- A factor: the query reader takes no sign, and on the kinds it reads the formula reader reads
the same factor. -/
theorem Reads.unary (hor : ∀ f, Reads (Stuck ts) (Formula.orExpr ts f) (orExpr ts g))
    (hargs : ∀ f as as', as.map Expr.norm = as'.map Expr.norm →
      ArgsRead ts (Formula.callArgs ts f as) (callArgs ts g as'))
    (f : Nat) : Reads (fun _ => False) (Formula.unary ts f) (primary ts (g + 1)) := by
  intro x v y w z hE hC
  simp only [primary, cur_bind] at hC
  have hx : (tokenAt ts x).kind ≠ .minus ∧ (tokenAt ts x).kind ≠ .eof := by
    constructor <;> intro h <;> rw [h] at hC <;> cases hC
  obtain ⟨f, hE⟩ : ∃ f', (Formula.primary ts (f' + 1)).run x = .ok (v, y) := by
    have hm : [TokenKind.minus].contains (tokenAt ts x).kind = false := by simpa using hx.1
    rcases f with _ | _ | f
    · cases hE
    · simp only [Formula.unary, Formula.isAt_bind, hl.current_kind, hm] at hE
      cases hE
    · simp only [Formula.unary, Formula.isAt_bind, hl.current_kind, hm] at hE
      exact ⟨f, hE⟩
  simp only [Formula.primary, Formula.cur_bind, hl.current_eq hx.2] at hE
  cases hkd : (tokenAt ts x).kind <;> simp only [hkd, run_throw, reduceCtorEq] at hE hC
  case lparen =>
    simp only [Formula.advance_bind, advance_bind] at hE hC
    obtain ⟨e, y₁, he, hE⟩ := Formula.run_bind_ok hE
    obtain ⟨e', z₁, he', hC⟩ := run_bind_ok hC
    obtain ⟨t, y₂, ht, hE⟩ := Formula.run_bind_ok hE
    obtain ⟨t', z₂, ht', hC⟩ := run_bind_ok hC
    obtain ⟨rfl, rfl⟩ := Prod.mk.inj (Except.ok.inj hE)
    obtain ⟨rfl, rfl⟩ := Prod.mk.inj (Except.ok.inj hC)
    obtain ⟨hk, rfl⟩ := Formula.expect_ok ht
    obtain ⟨-, rfl⟩ := expect_ok ht'
    rcases hor f (x + 1) e y₁ e' z₁ he he' with ⟨rfl, hn⟩ | hs
    · exact .inl ⟨rfl, hn⟩
    · rw [hl.current_kind] at hk
      simp [Stuck, hk, comparisonKinds] at hs
  case str =>
    simp only [Formula.advance_bind, advance_bind] at hE hC
    cases hE
    cases hC
    exact .inl ⟨rfl, rfl⟩
  case num =>
    simp only [Formula.advance_bind, advance_bind, numberLit] at hE hC
    cases hn : numberValue (tokenAt ts x).text <;> simp only [hn] at hE hC
    · cases hE
    · cases hE
      cases hC
      exact .inl ⟨rfl, rfl⟩
  case ident =>
    simp only [Formula.advance_bind, advance_bind, Formula.isAt_bind, isAt_bind,
      hl.current_kind] at hE hC
    by_cases hp : [TokenKind.lparen].contains (tokenAt ts (x + 1)).kind
    · simp only [hp, if_true, Formula.advance_bind, advance_bind] at hE hC
      obtain ⟨as, y₁, has, hE⟩ := Formula.run_bind_ok hE
      obtain ⟨as', z₁, has', hC⟩ := run_bind_ok hC
      obtain ⟨t, y₂, ht, hE⟩ := Formula.run_bind_ok hE
      obtain ⟨t', z₂, ht', hC⟩ := run_bind_ok hC
      obtain ⟨rfl, rfl⟩ := Prod.mk.inj (Except.ok.inj hE)
      obtain ⟨rfl, rfl⟩ := Prod.mk.inj (Except.ok.inj hC)
      obtain ⟨hk, rfl⟩ := expect_ok ht'
      obtain ⟨rfl, hn⟩ := hargs f [] [] rfl _ as y₁ as' z₁ has has' hk
      obtain ⟨-, rfl⟩ := Formula.expect_ok ht
      exact .inl ⟨rfl, by simp [Expr.norm, hn]⟩
    · simp only [hp, Bool.false_eq_true, if_false] at hE hC
      cases hE
      cases hC
      exact .inl ⟨rfl, rfl⟩

/-- Call arguments: the formula may leave out a comma, where the query reader stops short of `)`. -/
theorem ArgsRead.succ (hor : ∀ f, Reads (Stuck ts) (Formula.orExpr ts f) (orExpr ts g))
    (hargs : ∀ f as as', as.map Expr.norm = as'.map Expr.norm →
      ArgsRead ts (Formula.callArgs ts f as) (callArgs ts g as'))
    (f : Nat) {as as' : List Expr} (has : as.map Expr.norm = as'.map Expr.norm) :
    ArgsRead ts (Formula.callArgs ts f as) (callArgs ts (g + 1) as') := by
  intro x v y w z hE hC hz
  rcases f with _ | f
  · cases hE
  simp only [Formula.callArgs, Formula.isAt_bind, hl.current_kind] at hE
  simp only [callArgs, isAt_bind] at hC
  by_cases hr : [TokenKind.rparen].contains (tokenAt ts x).kind
  · simp only [hr, if_true] at hE hC
    cases hE
    cases hC
    exact ⟨rfl, by simp [List.map_reverse, has]⟩
  · simp only [hr, Bool.false_eq_true, if_false] at hE hC
    obtain ⟨a, y₁, ha, hE⟩ := Formula.run_bind_ok hE
    obtain ⟨a', z₁, ha', hC⟩ := run_bind_ok hC
    simp only [Formula.isAt_bind, isAt_bind, hl.current_kind] at hE hC
    rcases hor f x a y₁ a' z₁ ha ha' with ⟨rfl, hn⟩ | hs
    · have has' : (a :: as).map Expr.norm = (a' :: as').map Expr.norm := by simp [hn, has]
      by_cases hc : [TokenKind.comma].contains (tokenAt ts y₁).kind
      · simp only [hc, if_true, Formula.advance_bind, advance_bind] at hE hC
        exact hargs f _ _ has' _ _ _ _ _ hE hC hz
      · simp only [hc, Bool.false_eq_true, if_false] at hE hC
        cases hC
        obtain ⟨rfl, rfl⟩ := Formula.callArgs_close hl hz hE
        exact ⟨rfl, by simp [List.map_reverse, hn, has]⟩
    · -- the formula reader goes on with an argument on a comparison, where none starts
      simp only [contains_of_stuck hs [.comma] (by decide), Bool.false_eq_true, if_false] at hE
      obtain ⟨err, herr⟩ := Formula.callArgs_stuck hl hs f (a :: as)
      rw [herr] at hE
      cases hE

end Levels

/-! ### The whole ladder -/

/-- The formula readers, with any fuel, read as the query readers with fuel `g`. -/
structure ReadsAs (ts : Array Token) (g : Nat) : Prop where
  orExpr : ∀ f, Reads (Stuck ts) (Formula.orExpr ts f) (orExpr ts g)
  orTail : ∀ f l l', l.norm = l'.norm → Reads (Stuck ts) (Formula.orTail ts f l) (orTail ts g l')
  andExpr : ∀ f, Reads (Stuck ts) (Formula.andExpr ts f) (andExpr ts g)
  andTail : ∀ f l l', l.norm = l'.norm → Reads (Stuck ts) (Formula.andTail ts f l) (andTail ts g l')
  comparison : ∀ f, Reads (Stuck ts) (Formula.comparison ts f) (comparison ts g)
  comparisonTail : ∀ f l l', l.norm = l'.norm →
    Reads (Stuck ts) (Formula.comparisonRest ts f l) (comparisonTail ts g l')
  additive : ∀ f, Reads (fun _ => False) (Formula.additive ts f) (additive ts g)
  additiveTail : ∀ f l l', l.norm = l'.norm →
    Reads (fun _ => False) (Formula.additiveTail ts f l) (additiveTail ts g l')
  multiplicative : ∀ f, Reads (fun _ => False) (Formula.multiplicative ts f) (multiplicative ts g)
  multiplicativeTail : ∀ f l l', l.norm = l'.norm →
    Reads (fun _ => False) (Formula.multiplicativeTail ts f l) (multiplicativeTail ts g l')
  primary : ∀ f, Reads (fun _ => False) (Formula.unary ts f) (primary ts g)
  callArgs : ∀ f as as', as.map Expr.norm = as'.map Expr.norm →
    ArgsRead ts (Formula.callArgs ts f as) (callArgs ts g as')

/-- Over a lexed text the two ladders read alike, by induction on the query readers' fuel. -/
theorem readsAs {ts : Array Token} (hl : Lexed ts) (g : Nat) : ReadsAs ts g := by
  have hor : ∀ x, (tokenAt ts x).kind ∈ [TokenKind.orKw] →
      (tokenAt ts x).text.map Char.toUpper = "OR".map Char.toUpper := fun x hx => by
    rw [(hl.connective_at x).2 (by simpa using hx)]
    cbv
  have hand : ∀ x, (tokenAt ts x).kind ∈ [TokenKind.andKw] →
      (tokenAt ts x).text.map Char.toUpper = "AND".map Char.toUpper := fun x hx => by
    rw [(hl.connective_at x).1 (by simpa using hx)]
    cbv
  induction g with
  | zero =>
    exact ⟨fun _ => .query_throws, fun _ _ _ _ => .query_throws, fun _ => .query_throws,
      fun _ _ _ _ => .query_throws, fun _ => .query_throws, fun _ _ _ _ => .query_throws,
      fun _ => .query_throws, fun _ _ _ _ => .query_throws, fun _ => .query_throws,
      fun _ _ _ _ => .query_throws, fun _ => .query_throws,
      fun _ _ _ _ _ _ _ _ _ _ h => by cases h⟩
  | succ g ih =>
    refine ⟨?orExpr, ?orTail, ?andExpr, ?andTail, ?comparison, ?comparisonTail, ?additive,
      ?additiveTail, ?multiplicative, ?multiplicativeTail, ?primary, ?callArgs⟩
    case orExpr =>
      rintro (_ | f)
      · exact .formula_throws
      rw [Formula.orExpr, orExpr]
      exact .seq (ih.andExpr f) (ih.orTail f) fun l _ _ _ hy h =>
        Formula.tail_stuck hl (by decide) (fun _ => rfl) (Formula.orTail_succ ts) f l hy h
    case orTail =>
      rintro (_ | f) l l' hll
      · exact .formula_throws
      rw [Formula.orTail_succ, orTail_succ]
      exact .chainStep hl (by decide) hor (ih.andExpr f) (ih.orTail f) (fun l _ _ _ hy h =>
        Formula.tail_stuck hl (by decide) (fun _ => rfl) (Formula.orTail_succ ts) f l hy h) hll
    case andExpr =>
      rintro (_ | f)
      · exact .formula_throws
      rw [Formula.andExpr, andExpr]
      exact .seq (ih.comparison f) (ih.andTail f) fun l _ _ _ hy h =>
        Formula.tail_stuck hl (by decide) (fun _ => rfl) (Formula.andTail_succ ts) f l hy h
    case andTail =>
      rintro (_ | f) l l' hll
      · exact .formula_throws
      rw [Formula.andTail_succ, andTail_succ]
      exact .chainStep hl (by decide) hand (ih.comparison f) (ih.andTail f) (fun l _ _ _ hy h =>
        Formula.tail_stuck hl (by decide) (fun _ => rfl) (Formula.andTail_succ ts) f l hy h) hll
    case comparison =>
      rintro (_ | f)
      · exact .formula_throws
      rw [Formula.comparison_succ, comparison]
      exact .seq (ih.additive f) (ih.comparisonTail f) fun _ _ _ _ h => h.elim
    case comparisonTail => exact fun f _ _ hll => .comparisonRest hl ih.additive f hll
    case additive =>
      rintro (_ | f)
      · exact .formula_throws
      rw [Formula.additive, additive]
      exact .seq (ih.multiplicative f) (ih.additiveTail f) fun _ _ _ _ h => h.elim
    case additiveTail =>
      rintro (_ | f) l l' hll
      · exact .formula_throws
      rw [Formula.additiveTail_succ, additiveTail_succ]
      exact .chainStep hl (by decide) (fun _ _ => rfl) (ih.multiplicative f) (ih.additiveTail f)
        (fun _ _ _ _ h => h.elim) hll
    case multiplicative =>
      rintro (_ | f)
      · exact .formula_throws
      rw [Formula.multiplicative, multiplicative]
      exact .seq (ih.primary f) (ih.multiplicativeTail f) fun _ _ _ _ h => h.elim
    case multiplicativeTail =>
      rintro (_ | f) l l' hll
      · exact .formula_throws
      rw [Formula.multiplicativeTail_succ, multiplicativeTail_succ]
      exact .chainStep hl (by decide) (fun _ _ => rfl) (ih.primary f) (ih.multiplicativeTail f)
        (fun _ _ _ _ h => h.elim) hll
    case primary => exact Reads.unary hl ih.orExpr ih.callArgs
    case callArgs => exact fun f _ _ has => ArgsRead.succ hl ih.orExpr ih.callArgs f has

/-- Where the formula reader reads a lexed text to its end and the query reader reads an expression
from the same token, both stop there with the same tree, offsets erased and operators upper-cased.
-/
theorem formula_agrees_with_query {s : String} {toks : Array Token} (hs : scan s = .ok toks)
    {f g i j : Nat} {e₁ e₂ : Expr} (hE : (Formula.orExpr toks f).run 0 = .ok (e₁, i))
    (hi : (tokenAt toks i).kind = .eof) (hC : (orExpr toks g).run 0 = .ok (e₂, j)) :
    i = j ∧ e₁.norm = e₂.norm := by
  rcases (readsAs (scan_lexed hs) g).orExpr f 0 e₁ i e₂ j hE hC with h | h
  · exact h
  · simp [Stuck, hi, comparisonKinds] at h

set_option maxRecDepth 10000 in
/-- `x > 1 and f(y, z)` is read to its end by both readers, into one tree. -/
theorem formula_and_query_read_call_alike :
    let s := "x > 1 and f(y, z)"
    let toks := (scan s).toOption.getD #[]
    let r₁ := ((Formula.orExpr toks 100).run 0).toOption.getD (default, 0)
    let r₂ := ((orExpr toks 100).run 0).toOption.getD (default, 0)
    scan s = .ok toks ∧ (Formula.orExpr toks 100).run 0 = .ok (r₁.1, r₁.2) ∧
      (tokenAt toks r₁.2).kind = .eof ∧ (orExpr toks 100).run 0 = .ok (r₂.1, r₂.2) ∧
      (r₁.2 = r₂.2 ∧ r₁.1.norm = r₂.1.norm) := by
  dsimp only
  refine ⟨?hs, ?hE, ?hi, ?hC, formula_agrees_with_query ?hs ?hE ?hi ?hC⟩
  all_goals cbv

end PipeQuery.Query
