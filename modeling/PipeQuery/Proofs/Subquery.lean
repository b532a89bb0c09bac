import PipeQuery.Proofs.Embedding.Texts

/-!
# What the parser leaves unread, and subqueries

The parser stops at the first token that continues no query: a text put after a query read whole
is dropped, and a bracketed subquery stops at its `]`.
-/

/-!
## What the parser leaves unread

The parser stops at the first token that does not continue a query, and a closing token (`)`,
`]`, `.`, `with`, `in`) continues none. So a text beginning with one, put after a query read
whole, is dropped without an error, unless the query ends in a condition.
-/

namespace PipeQuery.Query

open Token

/-- Appending to a query read whole a text that begins with a closing token leaves its parse as it
was: the appended text, later pipes included, is not read. -/
theorem parse_append_closing {q rest : String} {Q : Pipeline} {R : Array Token}
    (hq : ReadsWhole q Q) (hlast : endsInCondition Q.stages = false) (hr : scan rest = .ok R)
    (hcl : (tokenAt R 0).kind.closes = true) (hne : (tokenAt R 0).kind ≠ .eof)
    (hseam : Seam q.toList rest.toList) :
    ∃ Q', parse (q ++ rest) = .ok Q' ∧ Q'.erase = Q.erase := by
  obtain ⟨A, hA, hrun⟩ := hq
  obtain ⟨R', hB, hv⟩ := scan_append hA hr (.inr hseam)
  obtain ⟨t, hback, ht⟩ := scan_back hA
  obtain ⟨u, hRback, hu⟩ := scan_back hr
  have hsize := views_size hv
  have hR : 2 ≤ R.size := by
    by_contra hlt
    exact hne (by rw [tokenAt_of_back hRback (by omega), hu])
  have hclose : (tokenAt R' 0).kind.closes = true := by
    rw [tokenAt_of_lt (by omega), ← hcl, tokenAt_of_lt (by omega)]
    have := congrArg (·[0]?) hv
    simp only [Array.getElem?_map, Array.getElem?_eq_getElem (show 0 < R'.size by omega),
      Array.getElem?_eq_getElem (show 0 < R.size by omega), Option.map_some, Option.some.injEq]
      at this
    rw [Token.kind_eq_of_view this]
  have hm : Embedded A (#[] ++ (A.pop ++ R')) (#[] : Array Token).size (A.size - 1) :=
    Embedded.of_append hback ht rfl (by omega) hclose
  rw [Array.empty_append, Array.size_empty] at hm
  have hfuel : readingBudget A.size < readingBudget (A.pop ++ R').size :=
    readingBudget_lt (by simp; omega)
  obtain ⟨-, Q', hQ', herase⟩ := command_embedded hm hfuel (Nat.zero_le _) hrun (by simp [hlast])
  refine ⟨Q', ?_, herase⟩
  rw [parse_of_scan hB, hQ']
  rfl

set_option maxRecDepth 10000 in
/-- `cache=t | head 2 ) | head 1` parses as `cache=t | head 2`: the second `head` is dropped. -/
theorem parse_head_rparen_drops_tail :
    ReadsWhole "cache=t | head 2" (.mk (.one { kind := "cache", name := "t", pos := 0 })
      [.mk "head" [.positional (.lit (.int 2) .number 0) 16] [] [] [] 10] 0) ∧
    ∃ Q', parse ("cache=t | head 2" ++ " ) | head 1") = .ok Q' ∧
      Q'.erase = (Pipeline.mk (.one { kind := "cache", name := "t", pos := 0 })
        [.mk "head" [.positional (.lit (.int 2) .number 0) 16] [] [] [] 10] 0).erase := by
  have hq : ReadsWhole "cache=t | head 2" (.mk (.one { kind := "cache", name := "t", pos := 0 })
      [.mk "head" [.positional (.lit (.int 2) .number 0) 16] [] [] [] 10] 0) := by
    refine ⟨(scan "cache=t | head 2").toOption.getD #[], ?_, ?_⟩ <;> cbv
  refine ⟨hq, parse_append_closing hq (by cbv)
    (show scan " ) | head 1" = .ok ((scan " ) | head 1").toOption.getD #[]) by cbv) (by cbv)
    (by cbv; decide) (.inl fun c hc => ?_)⟩
  cbv at hc
  cases hc
  decide

/-!
## Subqueries

A bracketed subquery is read by the reader of whole queries, which stops on the `]`, so a text
read whole reads the same inside `join f [q]` and `append [q]`, up to positions
(`parse_bracketed_subquery`), unless its last stage is a condition, which takes the `]` with it.
The proof reads the text around the subquery step by step and takes the subquery from the
embedding of its tokens (`command_embedded`).
-/

open Token Text

/-! ### The readers around a subquery -/

section Steps

variable (ts : Array Token) (f x : Nat)

theorem source_one_run (h0 : (tokenAt ts x).kind = .ident)
    (h1 : (tokenAt ts (x + 1)).kind = .assign) (h2 : (tokenAt ts (x + 2)).kind = .ident) :
    (source ts f).run x = .ok (.one
      { kind := (tokenAt ts x).text, name := (tokenAt ts (x + 2)).text, pos := (tokenAt ts x).pos },
      x + 3) := by
  simp +decide only [source, valueText, run_bind, here_run, isAt_run, advance_run, cur_run, h0, h1,
    h2, ↓reduceIte]
  rfl

/-- A stage on a name goes on with the reader its lowercased name picks. -/
theorem stage_run_ident (h : (tokenAt ts x).kind = .ident) :
    (stage ts (f + 1)).run x = (stageThen ts f (lower (tokenAt ts x).text) fun parts =>
      pure (.mk (tokenAt ts x).text parts.args.toList parts.byFields.toList parts.aggs.toList
        parts.subqueries.toList (tokenAt ts x).pos)).run (x + 1) := by
  simp +decide only [stage_succ, run_bind, here_run, isAt_run, advance_run, h, ↓reduceIte]

theorem expect_run (kd : TokenKind) : (expect ts kd).run x =
    if (tokenAt ts x).kind = kd then .ok (tokenAt ts x, x + 1)
    else .error (.expected kd (tokenAt ts x).kind (tokenAt ts x).pos) := by
  simp only [expect, run_bind, cur_run]
  split <;> rfl

theorem subquery_run {q : Pipeline} {z : Nat} (hl : (tokenAt ts x).kind = .lbracket)
    (hq : (command ts f).run (x + 1) = .ok (q, z)) :
    (subquery ts (f + 1)).run x =
      ((expect ts .rbracket).run z).map fun p => (Subquery.mk q (tokenAt ts x).pos, p.2) := by
  simp +decide only [subquery, run_bind, here_run, expect, cur_run, advance_run, hl, ↓reduceIte, hq]
  split <;> rename_i h <;> rw [h] <;> rfl

theorem joinArgs_run (h0 : (tokenAt ts x).kind = .ident)
    (h1 : (tokenAt ts (x + 1)).kind = .lbracket) :
    (joinArgs ts (f + 1)).run x = (subquery ts f >>= fun q => pure
      ({ args := #[.positional (.ident (tokenAt ts x).text 0) (tokenAt ts (x + 1)).pos],
         subqueries := #[q] } : StageParts)).run (x + 1) := by
  simp +decide only [joinArgs, run_bind, here_run, isAt_run, advance_run, h0, h1, ↓reduceIte]

theorem generalArgs_run_bracket (h : (tokenAt ts x).kind = .lbracket) (parts : StageParts) :
    (generalArgs ts (f + 1) parts).run x = (subquery ts f >>= fun q =>
      generalArgs ts f { parts with subqueries := parts.subqueries.push q }).run x := by
  rw [generalArgs_succ]
  simp +decide only [run_bind, isAt_run, peekNext_run, h, ↓reduceIte, Bool.and_eq_true, false_and]

/-- `kind=name | stage`: the source, then the stage after the pipe, then whatever stages follow. -/
theorem command_run_one_stage (h0 : (tokenAt ts 0).kind = .ident)
    (h1 : (tokenAt ts 1).kind = .assign) (h2 : (tokenAt ts 2).kind = .ident)
    (h3 : (tokenAt ts 3).kind = .pipe) :
    (command ts (f + 2)).run 0 = match (stage ts f).run 4 with
      | .ok (s, y) => ((stageList ts f #[s]).run y).map fun p =>
        (.mk (.one { kind := (tokenAt ts 0).text, name := (tokenAt ts 2).text,
                     pos := (tokenAt ts 0).pos }) p.1.toList (tokenAt ts 0).pos, p.2)
      | .error err => .error err := by
  rw [command, run_bind, here_run]
  dsimp only
  rw [run_bind_of_ok (source_one_run ts (f + 1) 0 h0 h1 h2), run_bind, stageList, run_bind]
  simp +decide only [isAt_run, h3, ↓reduceIte, run_bind, advance_run]
  cases (stage ts f).run 4 with
  | error err => rfl
  | ok p =>
    obtain ⟨s, y⟩ := p
    dsimp only
    rw [show (#[] : Array Stage).push s = #[s] from rfl]
    cases (stageList ts f #[s]).run y <;> rfl

/-- `join f [q]`, with the query `q` read from after the `[` to `z`. -/
theorem join_stage_run {q : Pipeline} {z : Nat} (h0 : (tokenAt ts x).kind = .ident)
    (ht : (tokenAt ts x).text = "join") (h1 : (tokenAt ts (x + 1)).kind = .ident)
    (h2 : (tokenAt ts (x + 2)).kind = .lbracket) (hq : (command ts f).run (x + 3) = .ok (q, z)) :
    (stage ts (f + 3)).run x = ((expect ts .rbracket).run z).map fun p =>
      (.mk "join" [.positional (.ident (tokenAt ts (x + 1)).text 0) (tokenAt ts (x + 2)).pos] [] []
        [.mk q (tokenAt ts (x + 2)).pos] (tokenAt ts x).pos, p.2) := by
  rw [stage_run_ident ts (f + 2) x h0, ht, show lower "join" = "join" by decide]
  show (joinArgs ts (f + 2) >>= _).run (x + 1) = _
  rw [run_bind, joinArgs_run ts (f + 1) (x + 1) h1 h2, run_bind, subquery_run ts f (x + 2) h2 hq]
  cases (expect ts .rbracket).run z <;> rfl

/-- `append [q]`, with the query `q` read from after the `[` to `z`; a closing token after the
`]` ends the stage. -/
theorem append_stage_run {q : Pipeline} {z : Nat} (h0 : (tokenAt ts x).kind = .ident)
    (ht : (tokenAt ts x).text = "append") (h1 : (tokenAt ts (x + 1)).kind = .lbracket)
    (hq : (command ts (f + 1)).run (x + 2) = .ok (q, z))
    (hz : (tokenAt ts (z + 1)).kind.closes = true) :
    (stage ts (f + 4)).run x = ((expect ts .rbracket).run z).map fun p =>
      (.mk "append" [] [] [] [.mk q (tokenAt ts (x + 1)).pos] (tokenAt ts x).pos, p.2) := by
  rw [stage_run_ident ts (f + 3) x h0, ht, show lower "append" = "append" by decide]
  show (generalArgs ts (f + 3) {} >>= _).run (x + 1) = _
  rw [run_bind, generalArgs_run_bracket ts (f + 2) (x + 1) h1, run_bind,
    subquery_run ts (f + 1) (x + 1) h1 hq, expect_run]
  by_cases hk : (tokenAt ts z).kind = .rbracket
  · rw [if_pos hk]
    simp only [Except.map]
    rw [generalArgs_close ts (f + 1) (z + 1) _ hz]
    rfl
  · rw [if_neg hk]
    rfl

end Steps

/-! ### The tokens of a bracketed query -/

set_option maxRecDepth 10000 in
theorem scan_bracket_close : (scan "]").map (·.map view) = .ok #[(.rbracket, "]"), (.eof, "")] := by
  cbv

theorem seam_bracket_close (cs : List Char) : Seam cs "]".toList :=
  .inl fun c hc => by
    cbv at hc
    cases hc
    decide

/-- The tokens of `pre ++ q ++ "]"`: those of `pre` but its end, those of `q` but its end, then
`]` and the end. -/
theorem scan_bracketed {pre q : String} {P A : Array Token} (hp : scan pre = .ok P)
    (hq : scan q = .ok A) (hseam : Seam pre.toList q.toList) :
    ∃ A' R' : Array Token, scan (pre ++ q ++ "]") = .ok (P.pop ++ (A'.pop ++ R')) ∧
      A'.map view = A.map view ∧ R'.map view = #[(.rbracket, "]"), (.eof, "")] := by
  obtain ⟨A', h₁, hv⟩ := scan_append hp hq (.inr hseam)
  obtain ⟨R, hR, hRv⟩ := scan_of_views scan_bracket_close
  obtain ⟨R', h₂, hv₂⟩ := scan_append h₁ hR (.inr (seam_bracket_close _))
  obtain ⟨t, hback, -⟩ := scan_back hq
  have hsize : A'.size ≠ 0 := by
    rw [views_size hv]
    intro h
    simp [Array.back?_eq_getElem?, h] at hback
  rw [pop_append_of_size hsize, Array.append_assoc] at h₂
  exact ⟨A', R', h₂, hv, by rw [hv₂, hRv]⟩

set_option maxRecDepth 10000 in
theorem scan_join_prefix {fname : String}
    (hf : (scan fname).map (·.map view) = .ok #[(.ident, fname), (.eof, "")]) :
    ∃ P : Array Token, scan ("cache=t | join " ++ fname ++ " [") = .ok P ∧
      P.pop.map view = #[(.ident, "cache"), (.assign, "="), (.ident, "t"), (.pipe, "|"),
        (.ident, "join"), (.ident, fname), (.lbracket, "[")] := by
  obtain ⟨F, hF, hFv⟩ := scan_of_views hf
  obtain ⟨P₀, hP₀, hP₀v⟩ : ∃ P₀, scan "cache=t | join " = .ok P₀ ∧ P₀.map view =
      #[(.ident, "cache"), (.assign, "="), (.ident, "t"), (.pipe, "|"), (.ident, "join"),
        (.eof, "")] := scan_of_views (by cbv)
  obtain ⟨L, hL, hLv⟩ : ∃ L, scan " [" = .ok L ∧ L.map view = #[(.lbracket, "["), (.eof, "")] :=
    scan_of_views (by cbv)
  obtain ⟨F', h₁, hv₁⟩ := scan_append hP₀ hF (.inr (.inr ⟨' ', by cbv, by decide⟩))
  obtain ⟨L', h₂, hv₂⟩ := scan_append h₁ hL (.inr (.inl fun c hc => by cbv at hc; cases hc; decide))
  refine ⟨_, h₂, ?_⟩
  have hF' : F'.size = 2 := by rw [views_size hv₁]; simpa using congrArg Array.size hFv
  have hL' : L'.size = 2 := by rw [views_size hv₂]; simpa using congrArg Array.size hLv
  rw [pop_append_of_size (by omega), pop_append_of_size (by omega)]
  simp [Array.map_append, Array.map_pop, hv₁, hv₂, hP₀v, hFv, hLv]

/-! ### A bracketed query read inside the longer text -/

section Bracketed

variable {X A A' R' : Array Token} (hv : A'.map view = A.map view)
  (hR : R'.map view = #[(.rbracket, "]"), (.eof, "")])
include hv hR

/-- What follows the tokens of the query: the tokens of `]` and of the end. -/
theorem tokenAt_bracketed (i : Nat) :
    tokenAt (X ++ (A'.pop ++ R')) (A.size - 1 + X.size + i) = tokenAt R' i := by
  have hR2 : R'.size = 2 := by simpa using congrArg Array.size hR
  have hpop : A'.pop.size = A.size - 1 := by simp [views_size hv]
  rw [show A.size - 1 + X.size + i = X.size + (A'.pop.size + i) by omega,
    tokenAt_append_right (by rw [Array.size_append]; omega), tokenAt_append_right (by omega)]

omit hv in
theorem bracketed_first : (tokenAt R' 0).kind = .rbracket := by
  have hR2 : R'.size = 2 := by simpa using congrArg Array.size hR
  have h0 := congrArg (·[0]?) hR
  simp only [Array.getElem?_map, Array.getElem?_eq_getElem (show 0 < R'.size by omega)] at h0
  rw [tokenAt_of_lt (by omega)]
  exact congrArg Prod.fst (Option.some.inj h0)

theorem bracketed_close :
    (tokenAt (X ++ (A'.pop ++ R')) (A.size - 1 + X.size)).kind = .rbracket := by
  rw [← Nat.add_zero (A.size - 1 + X.size), tokenAt_bracketed hv hR]
  exact bracketed_first hR

theorem bracketed_end (j : Nat) :
    (tokenAt (X ++ (A'.pop ++ R')) (A.size - 1 + X.size + 1 + j)).kind = .eof := by
  have hR2 : R'.size = 2 := by simpa using congrArg Array.size hR
  have h1 := congrArg (·[1]?) hR
  simp only [Array.getElem?_map, Array.getElem?_eq_getElem (show 1 < R'.size by omega)] at h1
  have hlast : R'.back? = some R'[1] := by simp [Array.back?_eq_getElem?, hR2]
  rw [Nat.add_assoc, tokenAt_bracketed hv hR, tokenAt_of_back hlast (by omega)]
  exact congrArg Prod.fst (Option.some.inj h1)

theorem embedded_bracketed {t : Token} (hback : A.back? = some t) (ht : t.kind = .eof) :
    Embedded A (X ++ (A'.pop ++ R')) X.size (A.size - 1) := by
  have hR2 : R'.size = 2 := by simpa using congrArg Array.size hR
  refine Embedded.of_append hback ht hv (by omega) ?_
  rw [bracketed_first hR]
  rfl

/-- After a nonempty prefix, the budget of the whole text leaves the subquery more than its own. -/
theorem readingBudget_bracketed (hX : X.size ≠ 0) :
    ∃ g, readingBudget (X ++ (A'.pop ++ R')).size = g + 3 + 2 ∧ readingBudget A.size < g := by
  have hA := views_size hv
  have hR2 : R'.size = 2 := by simpa using congrArg Array.size hR
  have hsize : A.size + 2 ≤ (X ++ (A'.pop ++ R')).size := by
    simp only [Array.size_append, Array.size_pop]
    omega
  refine ⟨readingBudget (X ++ (A'.pop ++ R')).size - 5, ?_, ?_⟩ <;> unfold readingBudget <;> omega

/-- A query read whole that does not end in a condition is read alike before the `]`. -/
theorem bracketed_command_ok {t : Token} (hback : A.back? = some t) (ht : t.kind = .eof)
    {Q : Pipeline} {f g : Nat} (hrun : (command A f).run 0 = .ok (Q, A.size - 1)) (hfg : f < g) (hlast : endsInCondition Q.stages = false) :
    ∃ Q', (command (X ++ (A'.pop ++ R')) g).run X.size = .ok (Q', A.size - 1 + X.size) ∧
      Q'.erase = Q.erase := by
  obtain ⟨-, Q', h, he⟩ := command_embedded (embedded_bracketed hv hR hback ht) hfg
    (Nat.zero_le _) hrun (by simp [hlast])
  exact ⟨Q', by simpa using h, he⟩

/-- A query read whole that ends in a condition reads on over the `]`, to the end after it. -/
theorem bracketed_command_over {t : Token} (hback : A.back? = some t) (ht : t.kind = .eof)
    {Q : Pipeline} {f g : Nat} (hrun : (command A f).run 0 = .ok (Q, A.size - 1)) (hfg : f < g)
    (hc : endsInCondition Q.stages = true) :
    ∃ w, (command (X ++ (A'.pop ++ R')) g).run X.size = .ok (w, A.size - 1 + X.size + 1) := by
  obtain ⟨w, h⟩ := command_over (embedded_bracketed hv hR hback ht)
    (bracketed_close hv hR) (bracketed_end hv hR 0) f g hfg (Nat.zero_le _) hrun hc
  exact ⟨w, by simpa using h⟩

end Bracketed

/-! ### Join and append over a bracketed query -/

/-- `cache=t | join f [q]`, with its offsets erased. -/
def joinedQuery (fname : String) (q : Pipeline) : Pipeline :=
  .mk (.one { kind := "cache", name := "t", pos := 0 })
    [.mk "join" [.positional (.ident fname 0) 0] [] [] [.mk q.erase 0] 0] 0

/-- `cache=t | append [q]`, with its offsets erased. -/
def appendedQuery (q : Pipeline) : Pipeline :=
  .mk (.one { kind := "cache", name := "t", pos := 0 }) [.mk "append" [] [] [] [.mk q.erase 0] 0] 0

theorem parse_join_bracketed {q fname : String} {Q : Pipeline} (hq : ReadsWhole q Q)
    (hf : (scan fname).map (·.map view) = .ok #[(.ident, fname), (.eof, "")]) :
    (endsInCondition Q.stages = false →
      (parse ("cache=t | join " ++ fname ++ " [" ++ q ++ "]")).map Pipeline.erase =
        .ok (joinedQuery fname Q)) ∧
    (endsInCondition Q.stages = true →
      ∃ p, parse ("cache=t | join " ++ fname ++ " [" ++ q ++ "]") =
        .error (.expected .rbracket .eof p)) := by
  obtain ⟨A, hA, hrun⟩ := hq
  obtain ⟨P, hP, hPv⟩ := scan_join_prefix hf
  obtain ⟨A', R', hB, hv, hR⟩ := scan_bracketed hP hA
    (.inr ⟨'[', by simp [List.getLast?_cons, List.getLast?_append], by decide⟩)
  obtain ⟨t, hback, ht⟩ := scan_back hA
  have hX : P.pop.size = 7 := by simpa using congrArg Array.size hPv
  have v (i) (hi : i < 7) := view_tokenAt_append (Y := A'.pop ++ R') hPv hi
  have v0 := v 0 (by decide)
  have v1 := v 1 (by decide)
  have v2 := v 2 (by decide)
  have v3 := v 3 (by decide)
  have v4 := v 4 (by decide)
  have v5 := v 5 (by decide)
  have v6 := v 6 (by decide)
  simp only [view, Prod.mk.injEq, List.getElem_toArray, List.getElem_cons_succ,
    List.getElem_cons_zero] at v0 v1 v2 v3 v4 v5 v6
  obtain ⟨g, hg, hfg⟩ := readingBudget_bracketed hv hR (show P.pop.size ≠ 0 by omega)
  rw [parse_of_scan hB, hg, command_run_one_stage _ (g + 3) v0.1 v1.1 v2.1 v3.1]
  have hclose := bracketed_close (X := P.pop) hv hR
  have hend := bracketed_end (X := P.pop) hv hR
  rw [hX] at hclose hend
  constructor
  · intro hlast
    obtain ⟨Q', hQ', he⟩ := bracketed_command_ok hv hR hback ht hrun hfg hlast
    rw [hX] at hQ'
    rw [join_stage_run _ g 4 v4.1 v4.2 v5.1 v6.1 hQ', expect_run, if_pos hclose]
    dsimp only [Except.map]
    rw [stageList_close _ (g + 2) _ _ (by rw [hend 0]; decide)]
    simp [joinedQuery, Pipeline.erase, Stage.erase, Source.erase, SourceRef.erase, Subquery.erase,
      Arg.erase, Expr.erase, v0.2, v2.2, v5.2, he]
  · intro hc
    obtain ⟨w, hw⟩ := bracketed_command_over hv hR hback ht hrun hfg hc
    rw [hX] at hw
    rw [join_stage_run _ g 4 v4.1 v4.2 v5.1 v6.1 hw, expect_run, if_neg (by rw [hend 0]; decide),
      hend 0]
    exact ⟨_, rfl⟩

set_option maxRecDepth 10000 in
theorem scan_append_prefix : ∃ P : Array Token, scan "cache=t | append [" = .ok P ∧
    P.pop.map view = #[(.ident, "cache"), (.assign, "="), (.ident, "t"), (.pipe, "|"),
      (.ident, "append"), (.lbracket, "[")] := by
  obtain ⟨P, hP, hPv⟩ : ∃ P, scan "cache=t | append [" = .ok P ∧ P.map view =
      #[(.ident, "cache"), (.assign, "="), (.ident, "t"), (.pipe, "|"), (.ident, "append"),
        (.lbracket, "["), (.eof, "")] := scan_of_views (by cbv)
  exact ⟨P, hP, by rw [Array.map_pop, hPv]; rfl⟩

theorem parse_append_bracketed {q : String} {Q : Pipeline} (hq : ReadsWhole q Q) :
    (endsInCondition Q.stages = false →
      (parse ("cache=t | append [" ++ q ++ "]")).map Pipeline.erase = .ok (appendedQuery Q)) ∧
    (endsInCondition Q.stages = true →
      ∃ p, parse ("cache=t | append [" ++ q ++ "]") = .error (.expected .rbracket .eof p)) := by
  obtain ⟨A, hA, hrun⟩ := hq
  obtain ⟨P, hP, hPv⟩ := scan_append_prefix
  obtain ⟨A', R', hB, hv, hR⟩ := scan_bracketed hP hA (.inr ⟨'[', by decide, by decide⟩)
  obtain ⟨t, hback, ht⟩ := scan_back hA
  have hX : P.pop.size = 6 := by simpa using congrArg Array.size hPv
  have v (i) (hi : i < 6) := view_tokenAt_append (Y := A'.pop ++ R') hPv hi
  have v0 := v 0 (by decide)
  have v1 := v 1 (by decide)
  have v2 := v 2 (by decide)
  have v3 := v 3 (by decide)
  have v4 := v 4 (by decide)
  have v5 := v 5 (by decide)
  simp only [view, Prod.mk.injEq, List.getElem_toArray, List.getElem_cons_succ,
    List.getElem_cons_zero] at v0 v1 v2 v3 v4 v5
  -- the stage reader takes one step more here than for a join, so the fuel is shifted by one
  obtain ⟨g, hg, hfg⟩ := readingBudget_bracketed hv hR (show P.pop.size ≠ 0 by omega)
  obtain ⟨g', rfl⟩ : ∃ g', g = g' + 1 := ⟨g - 1, by omega⟩
  rw [parse_of_scan hB, hg, show g' + 1 + 3 + 2 = g' + 4 + 2 by omega,
    command_run_one_stage _ (g' + 4) v0.1 v1.1 v2.1 v3.1]
  have hclose := bracketed_close (X := P.pop) hv hR
  have hend := bracketed_end (X := P.pop) hv hR
  rw [hX] at hclose hend
  constructor
  · intro hlast
    obtain ⟨Q', hQ', he⟩ := bracketed_command_ok hv hR hback ht hrun hfg hlast
    rw [hX] at hQ'
    rw [append_stage_run _ g' 4 v4.1 v4.2 v5.1 hQ' (by rw [hend 0]; rfl), expect_run,
      if_pos hclose]
    dsimp only [Except.map]
    rw [stageList_close _ (g' + 3) _ _ (by rw [hend 0]; decide)]
    simp [appendedQuery, Pipeline.erase, Stage.erase, Source.erase, SourceRef.erase, Subquery.erase,
      v0.2, v2.2, he]
  · intro hc
    obtain ⟨w, hw⟩ := bracketed_command_over hv hR hback ht hrun hfg hc
    rw [hX] at hw
    rw [append_stage_run _ g' 4 v4.1 v4.2 v5.1 hw (by rw [hend 1]; rfl), expect_run,
      if_neg (by rw [hend 0]; decide), hend 0]
    exact ⟨_, rfl⟩

/-- A query read whole reads the same, up to positions, as the subquery of a join or an append,
unless it ends in a condition: then neither text parses. -/
theorem parse_bracketed_subquery {q fname : String} {Q : Pipeline} (hq : ReadsWhole q Q)
    (hf : (scan fname).map (·.map view) = .ok #[(.ident, fname), (.eof, "")]) :
    (endsInCondition Q.stages = false →
      (parse ("cache=t | join " ++ fname ++ " [" ++ q ++ "]")).map Pipeline.erase =
        .ok (joinedQuery fname Q) ∧
      (parse ("cache=t | append [" ++ q ++ "]")).map Pipeline.erase = .ok (appendedQuery Q)) ∧
    (endsInCondition Q.stages = true →
      (∃ p, parse ("cache=t | join " ++ fname ++ " [" ++ q ++ "]") =
        .error (.expected .rbracket .eof p)) ∧
      ∃ p, parse ("cache=t | append [" ++ q ++ "]") = .error (.expected .rbracket .eof p)) := by
  obtain ⟨hjoin, hjoin'⟩ := parse_join_bracketed hq hf
  obtain ⟨happend, happend'⟩ := parse_append_bracketed hq
  exact ⟨fun h => ⟨hjoin h, happend h⟩, fun h => ⟨hjoin' h, happend' h⟩⟩

set_option maxRecDepth 10000 in
/-- A query ending in a condition leaves no `]` to close the subquery. -/
theorem parse_where_subquery_unclosed : ∃ Q, ReadsWhole "cache=u | where x > 1" Q ∧
    endsInCondition Q.stages = true ∧
    (∃ p, parse ("cache=t | join " ++ "f" ++ " [" ++ "cache=u | where x > 1" ++ "]") =
      .error (.expected .rbracket .eof p)) ∧
    ∃ p, parse ("cache=t | append [" ++ "cache=u | where x > 1" ++ "]") =
      .error (.expected .rbracket .eof p) := by
  have hq : ReadsWhole "cache=u | where x > 1"
      ((parse "cache=u | where x > 1").toOption.getD (.mk (.one default) [] 0)) := by
    refine ⟨(scan "cache=u | where x > 1").toOption.getD #[], ?_, ?_⟩ <;> cbv
  have hc : endsInCondition
      ((parse "cache=u | where x > 1").toOption.getD (.mk (.one default) [] 0)).stages = true := by
    cbv
  exact ⟨_, hq, hc, (parse_bracketed_subquery hq (by cbv)).2 hc⟩

end PipeQuery.Query
