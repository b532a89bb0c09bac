import PipeQuery.Query.Parser
import PipeQuery.Proofs.Lexing
import Mathlib

/-!
# Reading a query that stands inside a longer one

`Embedded A B k e` says that the tokens of a query (`A`, its end at `e`) stand in `B` from index
`k` on, followed by a closing token. The readers look at a closing token only to stop or fail, so
a reader reads `B` from `x + k` as it reads `A` from `x`: `Sim` states this for a pair of readers,
`Sim.seq` composes it along a `do` block and each primitive reader has its own rule. Results are
compared with their offsets erased (`Expr.erase`, …).
-/

namespace PipeQuery.Query

/-! ### Offsets erased -/

/-- The expression with its offsets set to zero. -/
def Expr.erase : Expr → Expr
  | .lit v kind _ => .lit v kind 0
  | .ident name _ => .ident name 0
  | .call name args _ => .call name (args.map Expr.erase) 0
  | .binary l op r _ => .binary l.erase op r.erase 0
  | .unary op e _ => .unary op e.erase 0

def Arg.erase : Arg → Arg
  | .positional v _ => .positional v.erase 0
  | .keyword key v _ => .keyword key v.erase 0

def Aggregation.erase (a : Aggregation) : Aggregation :=
  { a with args := a.args.map Expr.erase, pos := 0 }

def SourceRef.erase (r : SourceRef) : SourceRef :=
  { r with pos := 0 }

def Source.erase : Source → Source
  | .one r => .one r.erase
  | .union parts _ => .union (parts.map SourceRef.erase) 0

mutual

def Pipeline.erase : Pipeline → Pipeline
  | .mk src stages _ => .mk src.erase (stages.map Stage.erase) 0

def Stage.erase : Stage → Stage
  | .mk name args fields aggs subs _ =>
    .mk name (args.map Arg.erase) fields (aggs.map Aggregation.erase) (subs.map Subquery.erase) 0

def Subquery.erase : Subquery → Subquery
  | .mk q _ => .mk q.erase 0

end

def StageParts.erase (p : StageParts) : StageParts :=
  { args := p.args.map Arg.erase, byFields := p.byFields, aggs := p.aggs.map Aggregation.erase,
    subqueries := p.subqueries.map Subquery.erase }

/-! ### Running the primitive readers -/

section Running

variable (ts : Array Token)

@[simp] theorem cur_run (x : Nat) : (cur ts).run x = .ok (tokenAt ts x, x) := rfl

@[simp] theorem peekNext_run (x : Nat) : (peekNext ts).run x = .ok (tokenAt ts (x + 1), x) := rfl

@[simp] theorem advance_run (x : Nat) : (advance ts).run x = .ok (tokenAt ts x, x + 1) := rfl

@[simp] theorem isAt_run (ks : List TokenKind) (x : Nat) :
    (isAt ts ks).run x = .ok (ks.contains (tokenAt ts x).kind, x) := rfl

@[simp] theorem here_run (x : Nat) : (here ts).run x = .ok ((tokenAt ts x).pos, x) := rfl

end Running

@[simp] theorem run_pure {α : Type} (a : α) (x : Nat) :
    (pure a : TokenReader α).run x = .ok (a, x) := rfl

@[simp] theorem run_throw {α : Type} (err : ParseError) (x : Nat) :
    (throw err : TokenReader α).run x = .error err := rfl

theorem run_bind {α β : Type} (m : TokenReader α) (g : α → TokenReader β) (x : Nat) :
    (m >>= g).run x = match m.run x with
      | .ok (a, y) => (g a).run y
      | .error err => .error err := by
  simp only [StateT.run_bind]
  cases m.run x with
  | error err => rfl
  | ok p => rfl

theorem Token.kind_eq_of_view {t u : Token} (h : u.view = t.view) : u.kind = t.kind :=
  congrArg Prod.fst h

theorem Token.text_eq_of_view {t u : Token} (h : u.view = t.view) : u.text = t.text :=
  congrArg Prod.snd h

/-! ### Closing tokens and embedded queries -/

/-- The kinds that may follow a query standing inside a longer text: the end, `)`, `]`, `.`,
`with` and `in`. -/
def TokenKind.closes : TokenKind → Bool
  | .eof | .rparen | .rbracket | .dot | .withKw | .inKw => true
  | _ => false

theorem TokenKind.eq_of_closes {k : TokenKind} (h : k.closes = true) :
    k = .eof ∨ k = .rparen ∨ k = .rbracket ∨ k = .dot ∨ k = .withKw ∨ k = .inKw := by
  cases k <;> simp_all [TokenKind.closes]

/-- The tokens of `A` before its end `e` stand in `B` from index `k` on, kind and text alike, a
closing token after them. -/
structure Embedded (A B : Array Token) (k e : Nat) : Prop where
  view_eq : ∀ x < e, (tokenAt B (x + k)).view = (tokenAt A x).view
  ends : ∀ x, e ≤ x → (tokenAt A x).kind = .eof
  closes : (tokenAt B (e + k)).kind.closes = true

/-- A kind of `A` and the kind at the same place of `B`: equal, or the end of `A` facing a closing
token of `B`. -/
def KindsMatch (a b : TokenKind) : Prop :=
  b = a ∨ (a = .eof ∧ b.closes = true)

theorem KindsMatch.eq_iff {a b c : TokenKind} (h : KindsMatch a b) (hc : c.closes = false) :
    b = c ↔ a = c := by
  rcases h with rfl | ⟨rfl, hb⟩
  · rfl
  · constructor
    · rintro rfl; rw [hb] at hc; cases hc
    · rintro rfl; cases hc

/-- A list of kinds none of which closes holds a kind of `A` when it holds the kind at the same
place of `B`. -/
theorem KindsMatch.contains_eq {a b : TokenKind} {ks : List TokenKind} (h : KindsMatch a b)
    (hks : ∀ c ∈ ks, c.closes = false) : ks.contains b = ks.contains a := by
  rcases h with rfl | ⟨rfl, hb⟩
  · rfl
  · have hb' : b ∉ ks := fun hm => by rw [hks b hm] at hb; cases hb
    have he : TokenKind.eof ∉ ks := fun hm => by cases hks _ hm
    simp [hb', he]

section Embedded

variable {A B : Array Token} {k e : Nat}

theorem Embedded.kind_eq (hm : Embedded A B k e) {x : Nat} (hx : x < e) :
    (tokenAt B (x + k)).kind = (tokenAt A x).kind :=
  Token.kind_eq_of_view (hm.view_eq x hx)

theorem Embedded.kindsMatch (hm : Embedded A B k e) {x : Nat} (hx : x ≤ e) :
    KindsMatch (tokenAt A x).kind (tokenAt B (x + k)).kind := by
  rcases Nat.lt_or_eq_of_le hx with hx | rfl
  · exact .inl (hm.kind_eq hx)
  · exact .inr ⟨hm.ends x le_rfl, hm.closes⟩

theorem Embedded.lt_of_closes (hm : Embedded A B k e) {x : Nat}
    (h : (tokenAt A x).kind.closes = false) : x < e := by
  by_contra hx
  rw [hm.ends x (by omega)] at h
  cases h

end Embedded

/-! ### Reading alike -/

/-- `rA` over `A` and `rB` over `B` read alike from every start `x ≤ e` where `P` holds: when `rA`
succeeds from `x` and stops at `y`, `rB` succeeds from `x + k`, stops at `y + k`, with results
related by `R` (which may speak of `y`). -/
def Sim {α β : Type} (k e : Nat) (P : Nat → Prop) (rA : TokenReader α) (rB : TokenReader β)
    (R : α → β → Nat → Prop) : Prop :=
  ∀ x v y, P x → x ≤ e → rA.run x = .ok (v, y) →
    y ≤ e ∧ ∃ w, rB.run (x + k) = .ok (w, y + k) ∧ R v w y

namespace Sim

variable {k e : Nat} {P P' : Nat → Prop} {α β γ δ : Type}

theorem returns {a : α} {b : β} {R : α → β → Nat → Prop} (h : ∀ y, P y → R a b y) :
    Sim k e P (pure a) (pure b) R := by
  intro x v y hP hx hA
  simp only [run_pure, Except.ok.injEq, Prod.mk.injEq] at hA
  obtain ⟨rfl, rfl⟩ := hA
  exact ⟨hx, b, rfl, h x hP⟩

theorem fails {err : ParseError} {rB : TokenReader β} {R : α → β → Nat → Prop} :
    Sim k e P (throw err) rB R := by
  intro x v y _ _ hA
  cases hA

theorem fails_seq {err : ParseError} {g : α → TokenReader γ} {rB : TokenReader δ}
    {R : γ → δ → Nat → Prop} : Sim k e P (throw err >>= g) rB R := by
  intro x v y _ _ hA
  rw [run_bind] at hA
  cases hA

/-- Reading alike composes along `>>=`: the relation between the first results is what the
second readers may assume of their start. -/
theorem seq {mA : TokenReader α} {mB : TokenReader β} {gA : α → TokenReader γ}
    {gB : β → TokenReader δ} {R : α → β → Nat → Prop} {S : γ → δ → Nat → Prop}
    (h₁ : Sim k e P mA mB R) (h₂ : ∀ a b, Sim k e (R a b) (gA a) (gB b) S) :
    Sim k e P (mA >>= gA) (mB >>= gB) S := by
  intro x v y hP hx hA
  rw [run_bind] at hA
  cases hm : mA.run x with
  | error err => rw [hm] at hA; cases hA
  | ok p =>
    obtain ⟨a, y₁⟩ := p
    rw [hm] at hA
    obtain ⟨hy₁, b, hb, hR⟩ := h₁ x a y₁ hP hx hm
    obtain ⟨hy, w, hw, hS⟩ := h₂ a b y₁ v y hR hy₁ hA
    exact ⟨hy, w, by rw [run_bind, hb]; exact hw, hS⟩

/-- A fact the start condition holds apart from the place can be taken out of it. -/
theorem assume {c : Prop} {rA : TokenReader α} {rB : TokenReader β} {R : α → β → Nat → Prop}
    (h : c → Sim k e P rA rB R) : Sim k e (fun y => c ∧ P y) rA rB R :=
  fun x v y hP hx hA => h hP.1 x v y hP.2 hx hA

theorem assume₀ {c : Prop} {rA : TokenReader α} {rB : TokenReader β} {R : α → β → Nat → Prop}
    (h : c → Sim k e (fun _ => True) rA rB R) : Sim k e (fun _ => c) rA rB R :=
  fun x v y hc hx hA => h hc x v y trivial hx hA

theorem weaken {rA : TokenReader α} {rB : TokenReader β} {R R' : α → β → Nat → Prop}
    (h : Sim k e P rA rB R) (hP : ∀ x, P' x → P x) (hR : ∀ v w y, R v w y → R' v w y) :
    Sim k e P' rA rB R' := by
  intro x v y hP' hx hA
  obtain ⟨hy, w, hw, hr⟩ := h x v y (hP x hP') hx hA
  exact ⟨hy, w, hw, hR v w y hr⟩

theorem cond {c : Prop} [Decidable c] {m₁ m₂ : TokenReader α} {m₁' m₂' : TokenReader β}
    {R : α → β → Nat → Prop} (h₁ : c → Sim k e P m₁ m₁' R) (h₂ : ¬c → Sim k e P m₂ m₂' R) :
    Sim k e P (if c then m₁ else m₂) (if c then m₁' else m₂') R := by
  split
  · exact h₁ ‹_›
  · exact h₂ ‹_›

/-- A statement for the starts before the end and one for the end make one for all starts. -/
theorem split_end {rA : TokenReader α} {rB : TokenReader β} {R : α → β → Nat → Prop}
    (hlt : Sim k e (fun x => P x ∧ x < e) rA rB R)
    (hend : P e → ∀ v y, rA.run e = .ok (v, y) →
      y ≤ e ∧ ∃ w, rB.run (e + k) = .ok (w, y + k) ∧ R v w y) :
    Sim k e P rA rB R := by
  intro x v y hP hx hA
  rcases Nat.lt_or_eq_of_le hx with hx | rfl
  · exact hlt x v y ⟨hP, hx⟩ hx.le hA
  · exact hend hP v y hA

/-- A loop that stops at once on a closing token: both runs stop at the end of `A`. -/
theorem of_close {rA : TokenReader α} {rB : TokenReader β} {R : α → β → Nat → Prop} {a : α} {b : β}
    (hlt : Sim k e (fun x => P x ∧ x < e) rA rB R) (hA : rA.run e = .ok (a, e))
    (hB : rB.run (e + k) = .ok (b, e + k)) (hR : P e → R a b e) : Sim k e P rA rB R := by
  refine split_end hlt fun hP v y h => ?_
  rw [hA, Except.ok.injEq, Prod.mk.injEq] at h
  obtain ⟨rfl, rfl⟩ := h
  exact ⟨le_rfl, b, hB, hR hP⟩

end Sim

/-! ### The primitive readers -/

section Primitive

variable {A B : Array Token} {k e : Nat} {P : Nat → Prop}

theorem sim_here : Sim k e P (here A) (here B) (fun _ _ y => P y) := by
  intro x v y hP hx hA
  simp only [here_run, Except.ok.injEq, Prod.mk.injEq] at hA
  obtain ⟨rfl, rfl⟩ := hA
  exact ⟨hx, _, rfl, hP⟩

/-- A test for kinds none of which closes gives the same answer over both arrays, also at the end;
the kind it finds is then no end. -/
theorem Embedded.sim_isAt (hm : Embedded A B k e) (ks : List TokenKind)
    (hks : ∀ c ∈ ks, c.closes = false) :
    Sim k e P (isAt A ks) (isAt B ks) (fun a b y => b = a ∧ (P y ∧ (a = true → y < e))) := by
  intro x v y hP hx hA
  simp only [isAt_run, Except.ok.injEq, Prod.mk.injEq] at hA
  obtain ⟨rfl, rfl⟩ := hA
  refine ⟨hx, ks.contains (tokenAt B (x + k)).kind, rfl, (hm.kindsMatch hx).contains_eq hks, hP,
    fun h => ?_⟩
  obtain ⟨c, hc, hkc⟩ := List.contains_iff_exists_mem_beq.1 h
  rw [beq_iff_eq] at hkc
  exact hm.lt_of_closes (by rw [hkc]; exact hks c hc)

/-- Before the end, any test of kinds gives the same answer over both arrays. -/
theorem Embedded.sim_isAt_lt (hm : Embedded A B k e) (ks : List TokenKind) (hP : ∀ x, P x → x < e) :
    Sim k e P (isAt A ks) (isAt B ks) (fun a b y => b = a ∧ P y) := by
  intro x v y hPx hx hA
  simp only [isAt_run, Except.ok.injEq, Prod.mk.injEq] at hA
  obtain ⟨rfl, rfl⟩ := hA
  exact ⟨hx, ks.contains (tokenAt B (x + k)).kind, rfl, by rw [hm.kind_eq (hP x hPx)], hPx⟩

/-- A branch on a test of kinds none of which closes takes the same side over both arrays; the
side taken on a match starts before the end. -/
theorem Embedded.sim_isAt_if {α β : Type} (hm : Embedded A B k e) (ks : List TokenKind)
    (hks : ∀ c ∈ ks, c.closes = false) {m₁ m₂ : TokenReader α} {m₁' m₂' : TokenReader β}
    {R : α → β → Nat → Prop} (h₁ : Sim k e (fun y => P y ∧ y < e) m₁ m₁' R)
    (h₂ : Sim k e P m₂ m₂' R) :
    Sim k e P (isAt A ks >>= fun b => if b = true then m₁ else m₂)
      (isAt B ks >>= fun b => if b = true then m₁' else m₂') R :=
  Sim.seq (hm.sim_isAt ks hks) fun a _ => Sim.assume fun hab => by
    subst hab
    exact Sim.cond (fun ha => h₁.weaken (fun _ h => ⟨h.1, h.2 ha⟩) fun _ _ _ h => h)
      fun _ => h₂.weaken (fun _ h => h.1) fun _ _ _ h => h

/-- Before the end, a branch on any test of kinds, or on a condition `c` of its answer, takes the
same side over both arrays. -/
theorem Embedded.sim_isAt_lt_if {α β : Type} (hm : Embedded A B k e) (ks : List TokenKind)
    (hP : ∀ x, P x → x < e) {c : Bool → Bool} {m₁ m₂ : TokenReader α} {m₁' m₂' : TokenReader β}
    {R : α → β → Nat → Prop} (h₁ : Sim k e P m₁ m₁' R) (h₂ : Sim k e P m₂ m₂' R) :
    Sim k e P (isAt A ks >>= fun b => if c b = true then m₁ else m₂)
      (isAt B ks >>= fun b => if c b = true then m₁' else m₂') R :=
  Sim.seq (hm.sim_isAt_lt ks hP) fun a _ => Sim.assume fun hab => by
    subst hab
    exact Sim.cond (fun _ => h₁) fun _ => h₂

theorem Embedded.sim_advance (hm : Embedded A B k e) (hP : ∀ x, P x → x < e) :
    Sim k e P (advance A) (advance B) (fun t u _ => u.view = t.view) := by
  intro x v y hPx hx hA
  simp only [advance_run, Except.ok.injEq, Prod.mk.injEq] at hA
  obtain ⟨rfl, rfl⟩ := hA
  exact ⟨hP x hPx, _, by simp [Nat.add_right_comm], hm.view_eq x (hP x hPx)⟩

theorem Embedded.sim_cur (hm : Embedded A B k e) (hP : ∀ x, P x → x < e) :
    Sim k e P (cur A) (cur B) (fun t u y => u.view = t.view ∧ P y) := by
  intro x v y hPx hx hA
  simp only [cur_run, Except.ok.injEq, Prod.mk.injEq] at hA
  obtain ⟨rfl, rfl⟩ := hA
  exact ⟨hx, _, rfl, hm.view_eq x (hP x hPx), hPx⟩

/-- Looking one token ahead: the kinds seen match, and the token seen over `A` is the next one. -/
theorem Embedded.sim_peekNext (hm : Embedded A B k e) (hP : ∀ x, P x → x < e) :
    Sim k e P (peekNext A) (peekNext B)
      (fun t u y => KindsMatch t.kind u.kind ∧ P y ∧ t = tokenAt A (y + 1)) := by
  intro x v y hPx hx hA
  simp only [peekNext_run, Except.ok.injEq, Prod.mk.injEq] at hA
  obtain ⟨rfl, rfl⟩ := hA
  refine ⟨hx, tokenAt B (x + k + 1), rfl, ?_, hPx, rfl⟩
  rw [Nat.add_right_comm]
  exact hm.kindsMatch (hP x hPx)

/-- A key and the `=` after it, then what follows, read from a start where a `=` is next. -/
theorem Embedded.sim_key {γ δ : Type} (hm : Embedded A B k e) {gA : Token → TokenReader γ}
    {gB : Token → TokenReader δ} {S : γ → δ → Nat → Prop}
    (hP : ∀ x, P x → x < e ∧ (tokenAt A (x + 1)).kind = .assign)
    (h : ∀ t u, u.view = t.view → Sim k e (fun _ => True) (gA t) (gB u) S) :
    Sim k e P (advance A >>= fun t => advance A >>= fun _ => gA t)
      (advance B >>= fun u => advance B >>= fun _ => gB u) S := by
  intro x v y hPx hx hA
  obtain ⟨hxe, hkd⟩ := hP x hPx
  have hx1 : x + 1 < e := hm.lt_of_closes (by rw [hkd]; rfl)
  simp only [run_bind, advance_run] at hA ⊢
  obtain ⟨hy, w, hw, hS⟩ := h _ _ (hm.view_eq x hxe) _ _ _ trivial hx1 hA
  refine ⟨hy, w, ?_, hS⟩
  rw [show x + k + 1 + 1 = x + 1 + 1 + k by omega]
  exact hw

theorem Embedded.expect_end (hm : Embedded A B k e) {kd : TokenKind} (hk : kd ≠ .eof) :
    ∃ err, (expect A kd).run e = .error err := by
  rw [Query.expect, run_bind, cur_run]
  dsimp only
  rw [hm.ends e le_rfl, if_neg (Ne.symm hk)]
  exact ⟨_, rfl⟩

theorem Embedded.sim_expect (hm : Embedded A B k e) {kd : TokenKind} (hk : kd ≠ .eof) :
    Sim k e P (expect A kd) (expect B kd) (fun t u _ => u.view = t.view) := by
  refine Sim.split_end ?_ fun _ v y h => ?_
  · unfold Query.expect
    refine Sim.seq (hm.sim_cur fun x h => h.2) fun t u => Sim.assume fun hv => ?_
    rw [Token.kind_eq_of_view hv]
    exact Sim.cond (fun _ => hm.sim_advance fun x h => h.2) (fun _ => Sim.fails)
  · obtain ⟨err, herr⟩ := hm.expect_end hk
    rw [herr] at h
    cases h

end Primitive

end PipeQuery.Query
