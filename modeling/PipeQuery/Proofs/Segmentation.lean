import PipeQuery.Proofs.Lexing
import Mathlib

/-!
# The tokens of a query tile it

`Tiles` relates the characters of a query to its tokens: blanks stand between tokens, each token
stands at the offset where its lexeme starts and spells it (`Spells`; a quoted text's lexeme
unquotes to its text), and the end token closes the text. Every successful reading satisfies it
(`scanFrom_tiles`); so one reading ends with one end token at the text's length, its offsets
increase, and uncovered characters are blanks (`scan_segments`). `TilesFrom` keeps the reader's
place as well.
-/

namespace PipeQuery.Query.Token

open PipeQuery.Text

/-! ### Quoted texts -/

/-- What the escape `\e` stands for inside a quoted text; an unknown escape keeps its backslash. -/
def escapeValue : Char → List Char
  | 'n' => ['\n']
  | 't' => ['\t']
  | 'r' => ['\r']
  | '\\' => ['\\']
  | '"' => ['"']
  | '\'' => ['\'']
  | e => ['\\', e]

/-- The value of the body of a text quoted with `q`: escapes replaced, and no bare `q` nor a
backslash escaping nothing. -/
def unquote (q : Char) : List Char → Option (List Char)
  | [] => some []
  | '\\' :: e :: r => (escapeValue e ++ ·) <$> unquote q r
  | c :: r => if c = q ∨ c = '\\' then none else (c :: ·) <$> unquote q r

/-- A backslash before a character that is no escape stays, as in the pattern `\d`. -/
example : unquote '"' ['\\', 'd', '\\', 't'] = some ['\\', 'd', '\t'] := by decide

theorem unescape_eq_escapeValue (e : Char) : unescape e = escapeValue e := by
  unfold escapeValue
  split <;> simp_all [unescape]

theorem unquote_escape (q e : Char) (r : List Char) :
    unquote q ('\\' :: e :: r) = (escapeValue e ++ ·) <$> unquote q r := by
  simp [unquote]

theorem unquote_plain {q c : Char} (r : List Char) (hq : c ≠ q) (hb : c ≠ '\\') :
    unquote q (c :: r) = (c :: ·) <$> unquote q r := by
  cases r with
  | nil => simp [unquote, hq, hb]
  | cons d r => simp [unquote, hq, hb]

/-- A quoted text read to its closing quote: its body unquotes to what the reader collected. -/
theorem quoted_unquote {q : Char} {cs : List Char} {cur : Cursor} {acc v rest : List Char}
    {stop : Cursor} (h : quoted q cs cur acc = .ok (v, rest, stop)) :
    ∃ body w, cs = body ++ q :: rest ∧ unquote q body = some w ∧ v = acc.reverse ++ w ∧
      stop.pos = cur.pos + body.length + 1 := by
  fun_induction quoted q cs cur acc generalizing v rest stop with
  | case1 => cases h
  | case2 r cur acc =>
    simp only [Except.ok.injEq, Prod.mk.injEq] at h
    obtain ⟨rfl, rfl, rfl⟩ := h
    exact ⟨[], [], rfl, rfl, by simp, by simp⟩
  | case3 => cases h
  | case4 cur acc e r2 hq ih =>
    obtain ⟨body, w, rfl, hw, rfl, hstop⟩ := ih h
    refine ⟨'\\' :: e :: body, unescape e ++ w, rfl, ?_, by simp, ?_⟩
    · rw [unquote_escape, hw, unescape_eq_escapeValue]; rfl
    · rw [hstop]; simp; omega
  | case5 c r cur acc hq hb ih =>
    obtain ⟨body, w, rfl, hw, rfl, hstop⟩ := ih h
    refine ⟨c :: body, c :: w, rfl, ?_, by simp, ?_⟩
    · rw [unquote_plain _ hq hb, hw]; rfl
    · rw [hstop]; simp; omega

/-! ### Lexemes and tilings -/

/-- `Spells t lex`: the token `t` was read from the characters `lex`. -/
inductive Spells (t : Token) : List Char → Prop
  | quoted (q : Char) (body : List Char) : t.kind = .str → (q = '"' ∨ q = '\'') →
      unquote q body = some t.text.toList → Spells t (q :: body ++ [q])
  | plain : t.kind ≠ .str → t.kind ≠ .eof → t.text.toList ≠ [] → Spells t t.text.toList

/-- `Tiles cs p ts`: the tokens `ts` are read from `cs` at offset `p`, blanks skipped, each at its
lexeme's offset. -/
inductive Tiles : List Char → Nat → List Token → Prop
  | stop {p : Nat} {t : Token} : t.kind = .eof → t.pos = p → t.text = "" → Tiles [] p [t]
  | blank {c : Char} {cs : List Char} {p : Nat} {ts : List Token} :
      isSpace c = true → Tiles cs (p + 1) ts → Tiles (c :: cs) p ts
  | token {lex cs : List Char} {p : Nat} {t : Token} {ts : List Token} :
      t.kind ≠ .eof → t.pos = p → Spells t lex → Tiles cs (p + lex.length) ts →
      Tiles (lex ++ cs) p (t :: ts)

theorem Spells.length_pos {t : Token} {lex : List Char} (h : Spells t lex) : 0 < lex.length := by
  cases h with
  | quoted => simp
  | plain _ _ hne => exact List.length_pos_iff.2 hne

/-! ### Every reading tiles its text -/

/-- The kind of a name is a keyword or `ident`: never a quoted text, never the end. -/
theorem nameKind_plain (body : List Char) : nameKind body ≠ .str ∧ nameKind body ≠ .eof := by
  unfold nameKind
  cases h : TokenKind.keyword? (String.ofList (body.map Char.toLower)) with
  | none => simp
  | some k =>
    unfold TokenKind.keyword? at h
    split at h <;> cases h <;> decide

theorem single?_plain {c : Char} {k : TokenKind} (h : TokenKind.single? c = some k) :
    k ≠ .str ∧ k ≠ .eof := by
  unfold TokenKind.single? at h
  split at h <;> cases h <;> decide

theorem comparison?_plain {c : Char} {k1 k2 : TokenKind} (h : TokenKind.comparison? c = some (k1, k2)) :
    (k1 ≠ .str ∧ k1 ≠ .eof) ∧ (k2 ≠ .str ∧ k2 ≠ .eof) := by
  unfold TokenKind.comparison? at h
  split at h <;> cases h <;> decide

/-- An operator takes the kind of the lone character or of the pair. -/
theorem operator_kind (c : Char) (r : List Char) (k1 k2 : TokenKind) :
    (operator c r k1 k2).1 = k1 ∨ (operator c r k1 k2).1 = k2 := by
  unfold operator; split <;> simp

theorem operator_taken_ne_nil (c : Char) (r : List Char) (k1 k2 : TokenKind) :
    (operator c r k1 k2).2.1 ≠ [] := by
  unfold operator; split <;> simp

/-- `TilesFrom cs cur ts`: `Tiles` with the reader's place, giving each token its lexeme's start
offset and column and end line. -/
inductive TilesFrom : List Char → Cursor → List Token → Prop
  | stop {cur : Cursor} :
      TilesFrom [] cur [{ kind := .eof, text := "", pos := cur.pos, line := cur.line, column := cur.column }]
  | blank {c : Char} {cs : List Char} {cur : Cursor} {ts : List Token} :
      isSpace c = true → TilesFrom cs (cur.next c) ts → TilesFrom (c :: cs) cur ts
  | token {lex cs : List Char} {cur : Cursor} {k : TokenKind} {body : List Char} {ts : List Token} :
      k ≠ .eof → Spells (ofSpan k body cur (cur.skip lex)) lex → TilesFrom cs (cur.skip lex) ts →
      TilesFrom (lex ++ cs) cur (ofSpan k body cur (cur.skip lex) :: ts)

theorem TilesFrom.tiles {cs : List Char} {cur : Cursor} {ts : List Token} (h : TilesFrom cs cur ts) :
    Tiles cs cur.pos ts := by
  induction h with
  | stop => exact .stop rfl rfl rfl
  | blank hsp _ ih => exact .blank hsp (by simpa using ih)
  | token hk hs _ ih => exact .token hk rfl hs (by simpa using ih)

/-- One token other than a quoted text, read from `body`. -/
theorem TilesFrom.plain {body rest : List Char} {k : TokenKind} {cur : Cursor} {ts : List Token}
    (hk : k ≠ .str ∧ k ≠ .eof) (hb : body ≠ []) (h : TilesFrom rest (cur.skip body) ts) :
    TilesFrom (body ++ rest) cur (ofSpan k body cur (cur.skip body) :: ts) := by
  have htext : (ofSpan k body cur (cur.skip body)).text.toList = body := by simp [ofSpan]
  have hs : Spells (ofSpan k body cur (cur.skip body)) body := by
    have : Spells (ofSpan k body cur (cur.skip body)) (ofSpan k body cur (cur.skip body)).text.toList :=
      Spells.plain hk.1 hk.2 (by rw [htext]; exact hb)
    rwa [htext] at this
  exact .token hk.2 hs h

theorem toList_push_append {acc out : Array Token} {t : Token} {new : List Token}
    (h : out.toList = (acc.push t).toList ++ new) : out.toList = acc.toList ++ t :: new := by
  simp [h]

/-- A successful reading adds tokens that tile the rest of the text from the reader's place; the
induction follows `scanFrom`. -/
theorem scanFrom_tilesFrom {cs : List Char} {cur : Cursor} {acc out : Array Token}
    (h : scanFrom cs cur acc = .ok out) : ∃ new, out.toList = acc.toList ++ new ∧ TilesFrom cs cur new := by
  fun_induction scanFrom cs cur acc generalizing out with
  | case1 cur acc =>
    cases h
    exact ⟨_, by simp, .stop⟩
  | case2 cur acc c r hsp ih =>
    obtain ⟨new, hout, ht⟩ := ih h
    exact ⟨new, hout, .blank hsp ht⟩
  | case3 | case10 | case12 => cases h
  | case4 cur acc c r hsp hq body rest stop hquo _ ih =>
    obtain ⟨new, hout, ht⟩ := ih h
    obtain ⟨enc, w, hr, hw, hbody, -⟩ := quoted_unquote hquo
    obtain ⟨pre, hpre, hstop⟩ := quoted_suffix hquo
    have henc : pre = enc ++ [c] := List.append_cancel_right (by rw [← hpre, hr]; simp)
    have hlex : stop = cur.skip (c :: enc ++ [c]) := by rw [hstop, henc]; rfl
    subst hlex
    have hquote : c = '"' ∨ c = '\'' := by simpa using hq
    have htext : (ofSpan .str body cur (cur.skip (c :: enc ++ [c]))).text.toList = w := by
      simp [ofSpan, hbody]
    refine ⟨_, toList_push_append hout, ?_⟩
    rw [show c :: r = (c :: enc ++ [c]) ++ rest by simp [hr]]
    exact .token (by simp) (.quoted c enc rfl hquote (htext ▸ hw)) ht
  | case5 cur acc c r hsp hq hnum _ body stop =>
    rename_i ih
    obtain ⟨new, hout, ht⟩ := ih h
    refine ⟨_, toList_push_append hout, ?_⟩
    have hcs : c :: r = body ++ (numberTail r).2 := by simp [body, numberTail_split]
    rw [hcs]
    exact TilesFrom.plain (by simp) (by simp) ht
  | case6 cur acc c r hsp hq hnum hlet _ body stop =>
    rename_i ih
    obtain ⟨new, hout, ht⟩ := ih h
    refine ⟨_, toList_push_append hout, ?_⟩
    have hcs : c :: r = body ++ r.dropWhile isNameChar := by simp [body]
    rw [hcs]
    exact TilesFrom.plain (nameKind_plain body) (by simp [body]) ht
  | case7 cur acc c r hsp hq hnum hlet k hk ih =>
    obtain ⟨new, hout, ht⟩ := ih h
    refine ⟨_, toList_push_append hout, ?_⟩
    show TilesFrom ([c] ++ r) cur (ofSpan k [c] cur (cur.skip [c]) :: new)
    exact TilesFrom.plain (single?_plain hk) (by simp) ht
  | case8 cur acc c r hsp hq hnum hlet hs k1 k2 hk _ op stop =>
    rename_i ih
    obtain ⟨new, hout, ht⟩ := ih h
    refine ⟨_, toList_push_append hout, ?_⟩
    rw [← operator_split c r k1 k2]
    have hkind : op.1 ≠ .str ∧ op.1 ≠ .eof := by
      rcases operator_kind c r k1 k2 with h1 | h1 <;> simp only [op, h1] <;>
        first | exact (comparison?_plain hk).1 | exact (comparison?_plain hk).2
    exact TilesFrom.plain hkind (operator_taken_ne_nil c r k1 k2) ht
  | case9 cur acc r hsp hq hlet hs hk stop hnum =>
    rename_i ih
    obtain ⟨new, hout, ht⟩ := ih h
    refine ⟨_, toList_push_append hout, ?_⟩
    show TilesFrom (['!', '='] ++ r) _ _
    exact TilesFrom.plain (by simp) (by simp) ht
  | case11 cur acc r hsp hq hnum hlet hs hk hbang ih =>
    obtain ⟨new, hout, ht⟩ := ih h
    refine ⟨_, toList_push_append hout, ?_⟩
    show TilesFrom (['-'] ++ r) cur (ofSpan .minus ['-'] cur (cur.skip ['-']) :: new)
    exact TilesFrom.plain (by simp) (by simp) ht

/-- A successful reading adds tokens that tile the rest of the text. -/
theorem scanFrom_tiles {cs : List Char} {cur : Cursor} {acc out : Array Token}
    (h : scanFrom cs cur acc = .ok out) : ∃ new, out.toList = acc.toList ++ new ∧ Tiles cs cur.pos new := by
  obtain ⟨new, hout, ht⟩ := scanFrom_tilesFrom h
  exact ⟨new, hout, ht.tiles⟩

/-! ### What a tiling says -/

section Tiling

variable {cs : List Char} {p : Nat} {ts : List Token}

theorem Tiles.le_pos (h : Tiles cs p ts) : ∀ t ∈ ts, p ≤ t.pos := by
  induction h with
  | stop _ hpos _ =>
    intro t ht
    rw [List.mem_singleton] at ht
    subst ht
    omega
  | blank _ _ ih =>
    intro t ht
    have := ih t ht
    omega
  | token _ hpos _ _ ih =>
    intro t ht
    rcases List.mem_cons.1 ht with rfl | ht
    · omega
    · have := ih t ht
      omega

/-- The last token is the end, just past the characters. -/
theorem Tiles.last (h : Tiles cs p ts) :
    ∃ t, ts.getLast? = some t ∧ t.kind = .eof ∧ t.pos = p + cs.length := by
  induction h with
  | stop hk hpos _ => exact ⟨_, rfl, hk, by simp [hpos]⟩
  | blank _ _ ih =>
    obtain ⟨t, hlast, hk, hpos⟩ := ih
    exact ⟨t, hlast, hk, by simp [hpos]; omega⟩
  | @token lex cs p t ts _ _ _ _ ih =>
    obtain ⟨u, hlast, hk, hpos⟩ := ih
    refine ⟨u, ?_, hk, by simp [hpos]; omega⟩
    cases ts with
    | nil => cases hlast
    | cons v vs => rwa [List.getLast?_cons_cons]

theorem Tiles.count_eof (h : Tiles cs p ts) : ts.countP (fun t => t.kind == .eof) = 1 := by
  induction h with
  | stop hk _ _ => simp [hk]
  | blank _ _ ih => exact ih
  | token hk _ _ _ ih => simp [hk, ih]

/-- Offsets strictly increase: each lexeme takes at least one character. -/
theorem Tiles.pos_lt (h : Tiles cs p ts) : ts.Pairwise (fun a b => a.pos < b.pos) := by
  induction h with
  | stop => simp
  | blank _ _ ih => exact ih
  | token _ hpos hs h ih =>
    refine List.pairwise_cons.2 ⟨fun u hu => ?_, ih⟩
    have := h.le_pos u hu
    have := hs.length_pos
    omega

/-- Each token but the end spells the characters at its offset, and the characters no lexeme covers
are blanks. -/
theorem Tiles.lexemes (h : Tiles cs p ts) :
    ∃ lexeme : Nat → List Char,
      (∀ t ∈ ts, t.kind ≠ .eof → Spells t (lexeme t.pos) ∧ lexeme t.pos <+: cs.drop (t.pos - p)) ∧
      ∀ i (hi : i < cs.length), (∀ t ∈ ts, ¬(t.pos ≤ p + i ∧ p + i < t.pos + (lexeme t.pos).length)) →
        isSpace cs[i] = true := by
  induction h with
  | stop hk _ _ =>
    refine ⟨fun _ => [], fun t ht hne => ?_, fun i hi => by simp at hi⟩
    rw [List.mem_singleton] at ht
    subst ht
    exact absurd hk hne
  | @blank c cs p ts hsp h ih =>
    obtain ⟨lexeme, hspell, hgap⟩ := ih
    refine ⟨lexeme, fun t ht hne => ?_, fun i hi hout => ?_⟩
    · obtain ⟨hs, hpre⟩ := hspell t ht hne
      have := h.le_pos t ht
      have hdrop : t.pos - p = (t.pos - (p + 1)) + 1 := by omega
      rw [hdrop, List.drop_succ_cons]
      exact ⟨hs, hpre⟩
    · cases i with
      | zero => simpa using hsp
      | succ j =>
        -- the blank itself is covered by no lexeme; past it, the rest's gaps are its own
        refine hgap j (by simpa using hi) fun t ht hcov => hout t ht ?_
        omega
  | @token lex cs p t ts hk hpos hs h ih =>
    obtain ⟨lexeme, hspell, hgap⟩ := ih
    have hrest : ∀ u ∈ ts, Function.update lexeme p lex u.pos = lexeme u.pos := fun u hu => by
      have := h.le_pos u hu
      have := hs.length_pos
      exact Function.update_of_ne (by omega) _ _
    refine ⟨Function.update lexeme p lex, fun u hu hne => ?_, fun i hi hout => ?_⟩
    · rcases List.mem_cons.1 hu with rfl | hu
      · rw [hpos, Function.update_self, Nat.sub_self, List.drop_zero]
        exact ⟨hs, List.prefix_append lex cs⟩
      · obtain ⟨hsu, hpre⟩ := hspell u hu hne
        have := h.le_pos u hu
        have hdrop : u.pos - p = lex.length + (u.pos - (p + lex.length)) := by omega
        rw [hrest u hu, hdrop, List.drop_length_add_append]
        exact ⟨hsu, hpre⟩
    · have hcovt := hout t List.mem_cons_self
      rw [hpos, Function.update_self] at hcovt
      have hil : lex.length ≤ i := by omega
      rw [List.getElem_append_right hil]
      refine hgap (i - lex.length) (by simp at hi; omega) fun u hu hcov => ?_
      refine hout u (List.mem_cons_of_mem _ hu) ?_
      rw [hrest u hu]
      omega

end Tiling

/-- How the tokens `toks` cut the text `s`. -/
structure Segmentation (s : String) (toks : Array Token) : Prop where
  /-- The last token is the end token, at the length of the text. -/
  ends : ∃ t, toks.back? = some t ∧ t.kind = .eof ∧ t.pos = s.length
  /-- It is the only end token. -/
  one_end : toks.toList.countP (fun t => t.kind == .eof) = 1
  /-- Offsets strictly increase. -/
  increasing : toks.toList.Pairwise (fun a b => a.pos < b.pos)
  /-- Each token but the end stands where its lexeme starts (`Spells`), and characters no token was
read from are blanks. -/
  tiled : ∃ lexeme : Nat → List Char,
    (∀ t ∈ toks, t.kind ≠ .eof → Spells t (lexeme t.pos) ∧ lexeme t.pos <+: s.toList.drop t.pos) ∧
    ∀ i (hi : i < s.toList.length),
      (∀ t ∈ toks, ¬(t.pos ≤ i ∧ i < t.pos + (lexeme t.pos).length)) → isSpace s.toList[i] = true

/-- A query read into tokens is tiled by them. -/
theorem scan_segments {s : String} {toks : Array Token} (h : scan s = .ok toks) :
    Segmentation s toks := by
  obtain ⟨new, hout, htiles⟩ := scanFrom_tiles h
  simp only [List.nil_append] at hout
  have hpos : ({} : Cursor).pos = 0 := rfl
  rw [hpos] at htiles
  obtain ⟨t, hlast, hk, htpos⟩ := htiles.last
  obtain ⟨lexeme, hspell, hgap⟩ := htiles.lexemes
  refine ⟨⟨t, ?_, hk, by simpa [String.length_toList] using htpos⟩, hout ▸ htiles.count_eof,
    hout ▸ htiles.pos_lt, lexeme, fun u hu hne => ?_, fun i hi hcov => hgap i hi fun u hu => ?_⟩
  · rw [← Array.getLast?_toList, hout, hlast]
  · simpa using hspell u (hout ▸ Array.mem_toList_iff.2 hu) hne
  · simpa using hcov u (Array.mem_toList_iff.1 (hout ▸ hu))

set_option maxRecDepth 10000 in
/-- `x = "a\"b"`, whose quoted text holds an escaped quote, is cut into a name, `=`, the quoted
text and the end. -/
theorem scan_segments_escaped_quote :
    scan "x = \"a\\\"b\"" = .ok ((scan "x = \"a\\\"b\"").toOption.getD #[]) ∧
      Segmentation "x = \"a\\\"b\"" ((scan "x = \"a\\\"b\"").toOption.getD #[]) :=
  have h : scan "x = \"a\\\"b\"" = .ok ((scan "x = \"a\\\"b\"").toOption.getD #[]) := by cbv
  ⟨h, scan_segments h⟩

end PipeQuery.Query.Token
