import PipeQuery.Query.Token.Scan
import PipeQuery.Proofs.Segmentation
import Mathlib

/-!
# Cutting at the pipes the tokens see

`segments` cuts a query with a character machine of its own, and the reader of tokens finds its
pipes with another. For every query the reader accepts the two agree: the cuts are exactly the
pipe tokens that stand at bracket depth zero (`topPipes`), the pieces between them are the
segments (`piecesAt`, an empty last piece left out), and joining the segments with `|` gives the
query back less a final top-level pipe (`segments_at_top_pipes`). The proof follows the reader one
token at a time (`Cuts`): inside a quoted text the cutter is in its quoted state until the closing
quote, and no other token holds a quote, a bracket or a pipe but the bracket and pipe tokens.
-/

namespace PipeQuery.Query

open Token Text

/-- How a token moves the bracket depth. -/
def TokenKind.depthStep : TokenKind → Int
  | .lbracket => 1
  | .rbracket => -1
  | _ => 0

/-- The offsets of the pipe tokens of `ts` at bracket depth zero, the depth starting at `d` and
moved by each token before. -/
def topPipes : Int → List Token → List Nat
  | _, [] => []
  | d, t :: ts =>
    (if t.kind = .pipe ∧ d = 0 then [t.pos] else []) ++ topPipes (d + t.kind.depthStep) ts

/-- The pieces of `cs`, starting at offset `p`, between the offsets `cut` marks, the characters
there left out. -/
def piecesAt (cut : Nat → Bool) : List Char → Nat → List (List Char)
  | [], _ => [[]]
  | c :: r, p =>
    if cut p then [] :: piecesAt cut r (p + 1) else (piecesAt cut r (p + 1)).modifyHead (c :: ·)

/-- Pieces as texts, an empty last piece left out. -/
def closePieces (ps : List (List Char)) : List String :=
  (if ps.getLast? = some [] then ps.dropLast else ps).map String.ofList

/-! ### The pieces -/

theorem piecesAt_ne_nil (cut : Nat → Bool) (cs : List Char) (p : Nat) : piecesAt cut cs p ≠ [] := by
  cases cs with
  | nil => simp [piecesAt]
  | cons c r =>
    unfold piecesAt
    split
    · simp
    · cases h : piecesAt cut r (p + 1) <;> simp_all [piecesAt_ne_nil cut r (p + 1)]

/-- A run of characters with no cut among them joins the first piece after it. -/
theorem piecesAt_run {cut : Nat → Bool} {l rest : List Char} {p : Nat}
    (hl : ∀ i < l.length, cut (p + i) = false) :
    piecesAt cut (l ++ rest) p = (piecesAt cut rest (p + l.length)).modifyHead (l ++ ·) := by
  induction l generalizing p with
  | nil =>
    simp only [List.nil_append, List.length_nil, Nat.add_zero]
    cases piecesAt cut rest p <;> rfl
  | cons c l ih =>
    have h0 : cut p = false := by simpa using hl 0 (by simp)
    have ht : ∀ i < l.length, cut (p + 1 + i) = false := fun i hi => by
      simpa [Nat.add_assoc, Nat.add_comm 1] using hl (i + 1) (by simpa using hi)
    rw [List.cons_append, piecesAt, if_neg (by simp [h0]), ih ht,
      show p + 1 + l.length = p + (c :: l).length by simp; omega]
    cases piecesAt cut rest (p + (c :: l).length) <;> rfl

theorem closePieces_cons {x : List Char} {ps : List (List Char)} (hps : ps ≠ []) :
    closePieces (x :: ps) = String.ofList x :: closePieces ps := by
  obtain ⟨y, ys, rfl⟩ := List.exists_cons_of_ne_nil hps
  simp only [closePieces, List.getLast?_cons_cons]
  split <;> simp

/-- Put back between the pieces, the characters at the cuts give the text again when they are
all `|`. -/
theorem intercalate_piecesAt {cut : Nat → Bool} {cs : List Char} {p : Nat}
    (hbar : ∀ i (hi : i < cs.length), cut (p + i) = true → cs[i] = '|') :
    ['|'].intercalate (piecesAt cut cs p) = cs := by
  induction cs generalizing p with
  | nil => simp [piecesAt]
  | cons c r ih =>
    have ih' := ih (p := p + 1) fun i hi hc =>
      hbar (i + 1) (by simpa using hi) (by rwa [Nat.add_assoc, Nat.add_comm 1 i] at hc)
    obtain ⟨x, xs, hx⟩ := List.exists_cons_of_ne_nil (piecesAt_ne_nil cut r (p + 1))
    rw [piecesAt]
    split
    · rename_i hp
      have hc : c = '|' := hbar 0 (by simp) (by simpa using hp)
      rw [List.intercalate_cons_of_ne_nil (piecesAt_ne_nil cut r (p + 1)), ih', hc]
      rfl
    · rw [hx, List.modifyHead_cons, List.intercalate_cons_cons_left, ← hx, ih']

theorem piecesAt_eq_singleton {cut : Nat → Bool} {cs y : List Char} {p : Nat}
    (h : piecesAt cut cs p = [y]) : y = cs := by
  induction cs generalizing p y with
  | nil => simpa [piecesAt, eq_comm] using h
  | cons c r ih =>
    unfold piecesAt at h
    split at h
    · simp only [List.cons.injEq] at h
      exact absurd h.2 (piecesAt_ne_nil cut r (p + 1))
    · cases hP : piecesAt cut r (p + 1) with
      | nil => exact absurd hP (piecesAt_ne_nil cut r (p + 1))
      | cons z zs =>
        rw [hP, List.modifyHead_cons, List.cons.injEq] at h
        obtain ⟨rfl, rfl⟩ := h
        rw [ih hP]

/-- The last piece is empty exactly when the last character is a cut. -/
theorem getLast?_piecesAt {cut : Nat → Bool} {cs : List Char} {c : Char} {p : Nat} :
    (piecesAt cut (cs ++ [c]) p).getLast? = some [] ↔ cut (p + cs.length) = true := by
  induction cs generalizing p with
  | nil => by_cases hp : cut p <;> simp [piecesAt, hp]
  | cons x xs ih =>
    rw [List.cons_append, piecesAt, List.length_cons, ← Nat.add_assoc, Nat.add_right_comm, ← ih]
    have hne := piecesAt_ne_nil cut (xs ++ [c]) (p + 1)
    split
    · obtain ⟨z, zs, hz⟩ := List.exists_cons_of_ne_nil hne
      rw [hz, List.getLast?_cons, List.getLast?_cons]
      simp
    · rcases hP : piecesAt cut (xs ++ [c]) (p + 1) with _ | ⟨z, _ | ⟨w, ws⟩⟩
      · exact absurd hP hne
      · have := piecesAt_eq_singleton hP
        simp [this]
      · simp

/-! ### The cutter over one token -/

/-- The characters the cutter looks at outside quotes. -/
def cutMarks : List Char := ['"', '\'', '[', ']', '|']

section Steps

variable (r buf : List Char) (done : List String) (d : Int)

theorem cutFrom_plain {c : Char} (hc : c ∉ cutMarks) :
    cutFrom (c :: r) ⟨none, d⟩ buf done = cutFrom r ⟨none, d⟩ (c :: buf) done := by
  simp only [cutMarks, List.mem_cons, List.not_mem_nil, or_false, not_or] at hc
  cases r <;> simp [cutFrom, hc]

theorem cutFrom_open {q : Char} (hq : q = '"' ∨ q = '\'') :
    cutFrom (q :: r) ⟨none, d⟩ buf done = cutFrom r ⟨some q, d⟩ (q :: buf) done := by
  cases r <;> rcases hq with rfl | rfl <;> simp [cutFrom]

theorem cutFrom_lbracket :
    cutFrom ('[' :: r) ⟨none, d⟩ buf done = cutFrom r ⟨none, d + 1⟩ ('[' :: buf) done := by
  cases r <;> simp [cutFrom]

theorem cutFrom_rbracket :
    cutFrom (']' :: r) ⟨none, d⟩ buf done = cutFrom r ⟨none, d - 1⟩ (']' :: buf) done := by
  cases r <;> simp [cutFrom]

theorem cutFrom_pipe :
    cutFrom ('|' :: r) ⟨none, d⟩ buf done = if d = 0
      then cutFrom r ⟨none, d⟩ [] (String.ofList buf.reverse :: done)
      else cutFrom r ⟨none, d⟩ ('|' :: buf) done := by
  cases r <;> by_cases hd : d = 0 <;> simp [cutFrom, hd]

theorem cutFrom_escape (q e : Char) :
    cutFrom ('\\' :: e :: r) ⟨some q, d⟩ buf done = cutFrom r ⟨some q, d⟩ (e :: '\\' :: buf) done := by
  simp [cutFrom]

theorem cutFrom_close {q : Char} (hq : q ≠ '\\') :
    cutFrom (q :: r) ⟨some q, d⟩ buf done = cutFrom r ⟨none, d⟩ (q :: buf) done := by
  cases r <;> simp [cutFrom, hq]

theorem cutFrom_quoted_char {q c : Char} (hc : c ≠ q) (hb : c ≠ '\\') :
    cutFrom (c :: r) ⟨some q, d⟩ buf done = cutFrom r ⟨some q, d⟩ (c :: buf) done := by
  cases r <;> simp [cutFrom, hc, hb]

end Steps

/-- Outside quotes, characters that are no marks go to the current segment. -/
theorem cutFrom_run {l rest : List Char} {d : Int} (hl : ∀ c ∈ l, c ∉ cutMarks)
    (buf : List Char) (done : List String) :
    cutFrom (l ++ rest) ⟨none, d⟩ buf done = cutFrom rest ⟨none, d⟩ (l.reverse ++ buf) done := by
  induction l generalizing buf with
  | nil => rfl
  | cons c l ih =>
    rw [List.cons_append, cutFrom_plain _ _ _ _ (hl c List.mem_cons_self),
      ih (fun x hx => hl x (List.mem_cons_of_mem c hx))]
    simp

/-- Inside quotes, the cutter keeps every character up to the closing quote, each escaped one
with its backslash. -/
theorem cutFrom_quoted {q : Char} {body rest : List Char} {v : List Char} {d : Int}
    (hq : q ≠ '\\') (h : unquote q body = some v) (buf : List Char) (done : List String) :
    cutFrom (body ++ q :: rest) ⟨some q, d⟩ buf done =
      cutFrom rest ⟨none, d⟩ (q :: body.reverse ++ buf) done := by
  fun_induction unquote q body generalizing v buf with
  | case1 => simp [cutFrom_close _ _ _ _ hq]
  | case2 e r ih =>
    obtain ⟨w, hw, -⟩ := Option.map_eq_some_iff.1 h
    simp [cutFrom_escape, ih hw]
  | case3 c r hc => simp at h
  | case4 c r _ hc ih =>
    obtain ⟨w, hw, -⟩ := Option.map_eq_some_iff.1 h
    rw [not_or] at hc
    rw [List.cons_append, cutFrom_quoted_char _ _ _ _ hc.1 hc.2, ih hw]
    simp

/-! ### Cutting along the tokens -/

theorem mem_topPipes {d : Int} {ts : List Token} {q : Nat} (h : q ∈ topPipes d ts) :
    ∃ t ∈ ts, t.kind = .pipe ∧ t.pos = q := by
  induction ts generalizing d with
  | nil => cases h
  | cons t ts ih =>
    rw [topPipes, List.mem_append] at h
    rcases h with h | h
    · split at h
      · exact ⟨t, List.mem_cons_self, ‹_ ∧ _›.1, (List.mem_singleton.1 h).symm⟩
      · cases h
    · obtain ⟨u, hu, hk, rfl⟩ := ih h
      exact ⟨u, List.mem_cons_of_mem t hu, hk, rfl⟩

/-- `Cuts cs p ts`: the tokens `ts` read from `cs` at offset `p` stand at `p` or after, each pipe on
a `|`, and the cutter over `cs` from any depth adds the pieces of `cs` between the top-level pipes
of `ts`. -/
structure Cuts (cs : List Char) (p : Nat) (ts : List Token) : Prop where
  after : ∀ t ∈ ts, p ≤ t.pos
  pipes : ∀ t ∈ ts, t.kind = .pipe → cs[t.pos - p]? = some '|'
  alike : ∀ (d : Int) (cut : Nat → Bool), (∀ q, p ≤ q → cut q = (topPipes d ts).contains q) →
    ∀ buf done, cutFrom cs ⟨none, d⟩ buf done =
      done.reverse ++ closePieces ((piecesAt cut cs p).modifyHead (buf.reverse ++ ·))

namespace Cuts

variable {l rest : List Char} {p : Nat} {t : Token} {ts : List Token}

/-- The end token closes the characters. -/
theorem stop (hk : t.kind = .eof) (hpos : t.pos = p) : Cuts [] p [t] := by
  refine ⟨fun u hu => by rw [List.mem_singleton.1 hu, hpos], fun u hu hu' => ?_,
    fun d cut _ buf done => ?_⟩
  · rw [List.mem_singleton.1 hu, hk] at hu'
    cases hu'
  · cases buf <;> simp [cutFrom, piecesAt, closePieces]

theorem shift_pipes (h : Cuts rest (p + l.length) ts) :
    ∀ u ∈ ts, u.kind = .pipe → (l ++ rest)[u.pos - p]? = some '|' := fun u hu hk => by
  have := h.after u hu
  rw [List.getElem?_append_right (by omega), show u.pos - p - l.length = u.pos - (p + l.length) by omega]
  exact h.pipes u hu hk

/-- Characters `l` with no top-level pipe join the current segment. -/
theorem alike_append {d : Int} (h : Cuts rest (p + l.length) ts) {cut : Nat → Bool}
    (hcut : ∀ q, p ≤ q → cut q = (topPipes d ts).contains q) (buf : List Char) (done : List String) :
    cutFrom rest ⟨none, d⟩ (l.reverse ++ buf) done =
      done.reverse ++ closePieces ((piecesAt cut (l ++ rest) p).modifyHead (buf.reverse ++ ·)) := by
  have hno : ∀ i < l.length, cut (p + i) = false := fun i hi => by
    rw [hcut _ (Nat.le_add_right p i), List.contains_eq_mem, decide_eq_false_iff_not]
    intro hm
    obtain ⟨u, hu, -, hq⟩ := mem_topPipes hm
    have := h.after u hu
    omega
  rw [h.alike d cut (fun q hq => hcut q (by omega)), piecesAt_run hno]
  cases piecesAt cut rest (p + l.length) <;> simp

/-- Characters that are no marks and read as no token, such as blanks. -/
theorem run (hl : ∀ c ∈ l, c ∉ cutMarks) (h : Cuts rest (p + l.length) ts) : Cuts (l ++ rest) p ts :=
  ⟨fun u hu => by have := h.after u hu; omega, h.shift_pipes, fun d _ hcut buf done => by
    rw [cutFrom_run hl]
    exact h.alike_append hcut buf done⟩

/-- A token read from `l`, a pipe only from `|`, given how the cutter runs over it. -/
theorem cons (hpos : t.pos = p) (hpipe : t.kind = .pipe → l = ['|']) (h : Cuts rest (p + l.length) ts)
    (halike : ∀ (d : Int) (cut : Nat → Bool), (∀ q, p ≤ q → cut q = (topPipes d (t :: ts)).contains q) →
      ∀ buf done, cutFrom (l ++ rest) ⟨none, d⟩ buf done =
        done.reverse ++ closePieces ((piecesAt cut (l ++ rest) p).modifyHead (buf.reverse ++ ·))) :
    Cuts (l ++ rest) p (t :: ts) :=
  ⟨List.forall_mem_cons.2 ⟨hpos.ge, fun u hu => by have := h.after u hu; omega⟩,
    List.forall_mem_cons.2 ⟨fun hk => by rw [hpipe hk, hpos]; simp, h.shift_pipes⟩, halike⟩

/-- A token that neither is a pipe nor moves the depth, read from characters that are no marks. -/
theorem plain (hk : t.kind ≠ .pipe ∧ t.kind.depthStep = 0) (hpos : t.pos = p)
    (hl : ∀ c ∈ l, c ∉ cutMarks) (h : Cuts rest (p + l.length) ts) : Cuts (l ++ rest) p (t :: ts) :=
  cons hpos (fun h' => absurd h' hk.1) h fun d cut hcut buf done => by
    refine (run hl h).alike d cut (fun q hq => ?_) buf done
    rw [hcut q hq, topPipes, if_neg (fun h => hk.1 h.1), hk.2, add_zero, List.nil_append]

/-- A quoted text: the cutter is inside quotes from its opening quote to its closing one. -/
theorem quoted {q : Char} {body v : List Char} (hq : q = '"' ∨ q = '\'') (hv : unquote q body = some v)
    (hk : t.kind = .str) (hpos : t.pos = p) (h : Cuts rest (p + (q :: body ++ [q]).length) ts) :
    Cuts ((q :: body ++ [q]) ++ rest) p (t :: ts) := by
  have hb : q ≠ '\\' := by rcases hq with rfl | rfl <;> decide
  refine cons hpos (fun h' => by rw [hk] at h'; cases h') h fun d cut hcut buf done => ?_
  have hc : ∀ q', p ≤ q' → cut q' = (topPipes d ts).contains q' := fun q' hq' => by
    rw [hcut q' hq', topPipes, hk]
    simp [TokenKind.depthStep]
  rw [← h.alike_append hc buf done]
  simp only [List.cons_append, List.append_assoc]
  rw [cutFrom_open _ _ _ _ hq, cutFrom_quoted hb hv]
  simp

/-- A bracket token moves the depth for the tokens after it. -/
theorem bracket {c : Char} (hc : (c = '[' ∧ t.kind = .lbracket) ∨ (c = ']' ∧ t.kind = .rbracket))
    (hpos : t.pos = p) (h : Cuts rest (p + [c].length) ts) : Cuts ([c] ++ rest) p (t :: ts) := by
  have hne : t.kind ≠ .pipe := by rcases hc with ⟨-, hk⟩ | ⟨-, hk⟩ <;> rw [hk] <;> decide
  refine cons hpos (fun h' => absurd h' hne) h fun d cut hcut buf done => ?_
  have hc' : ∀ q, p ≤ q → cut q = (topPipes (d + t.kind.depthStep) ts).contains q := fun q hq => by
    rw [hcut q hq, topPipes, if_neg (fun h => hne h.1), List.nil_append]
  rw [← h.alike_append hc' buf done]
  rcases hc with ⟨rfl, hk⟩ | ⟨rfl, hk⟩
  · rw [hk, List.singleton_append, cutFrom_lbracket]
    rfl
  · rw [hk, List.singleton_append, cutFrom_rbracket]
    rfl

/-- A pipe token: at depth zero it ends the current segment, elsewhere it is kept in it. -/
theorem pipe (hk : t.kind = .pipe) (hpos : t.pos = p) (h : Cuts rest (p + ['|'].length) ts) :
    Cuts (['|'] ++ rest) p (t :: ts) := by
  refine cons hpos (fun _ => rfl) h fun d cut hcut buf done => ?_
  have hc : ∀ q, p + 1 ≤ q → cut q = (topPipes d ts).contains q := fun q hq => by
    rw [hcut q (by omega), topPipes, hk]
    have : q ≠ t.pos := by omega
    simp [TokenKind.depthStep, this]
  rw [List.singleton_append, cutFrom_pipe]
  split
  · rename_i hd
    have hp : cut p = true := by rw [hcut p le_rfl, topPipes, hk, hpos]; simp [hd]
    rw [h.alike d cut hc, piecesAt, if_pos hp, List.modifyHead_cons,
      closePieces_cons (piecesAt_ne_nil cut rest (p + 1))]
    cases piecesAt cut rest (p + 1) <;> simp
  · rename_i hd
    have hc' : ∀ q, p ≤ q → cut q = (topPipes d ts).contains q := fun q hq => by
      rw [hcut q hq, topPipes, hk]
      simp [TokenKind.depthStep, hd]
    exact h.alike_append (l := ['|']) hc' buf done

end Cuts

/-! ### What the reader takes -/

/-- No character that starts or continues a name or a number is a mark. -/
theorem cutMarks_classes :
    cutMarks.all (fun c => !isNameChar c && !isDigitChar c && !isLetter c) = true := by
  decide +kernel

theorem not_mem_cutMarks_of {c : Char} (h : isNameChar c = true ∨ isDigitChar c = true ∨ isLetter c = true) :
    c ∉ cutMarks := fun hm => by
  have := List.all_eq_true.1 cutMarks_classes c hm
  simp only [Bool.and_eq_true, Bool.not_eq_true'] at this
  rcases h with h | h | h <;> simp_all

theorem numberTail_chars (r : List Char) : ∀ c ∈ (numberTail r).1, isDigitChar c = true ∨ c = '.' := by
  intro c hc
  unfold numberTail at hc
  split at hc
  · split at hc
    · rcases List.mem_append.1 hc with hc | hc
      · exact .inl (List.mem_takeWhile_imp hc)
      · rcases List.mem_cons.1 hc with rfl | hc
        · exact .inr rfl
        · exact .inl (List.mem_takeWhile_imp hc)
    · exact .inl (List.mem_takeWhile_imp hc)
  · exact .inl (List.mem_takeWhile_imp hc)

theorem operator_taken_chars (c : Char) (r : List Char) (k1 k2 : TokenKind) :
    ∀ x ∈ (operator c r k1 k2).2.1, x = c ∨ x = '=' := by
  unfold operator
  split <;> simp

theorem nameKind_inert (body : List Char) :
    nameKind body ≠ .pipe ∧ (nameKind body).depthStep = 0 := by
  unfold nameKind
  cases h : TokenKind.keyword? (String.ofList (body.map Char.toLower)) with
  | none => decide
  | some k =>
    unfold TokenKind.keyword? at h
    split at h <;> cases h <;> decide

theorem comparison?_inert {c : Char} {k1 k2 : TokenKind} (h : TokenKind.comparison? c = some (k1, k2)) :
    (k1 ≠ .pipe ∧ k1.depthStep = 0) ∧ (k2 ≠ .pipe ∧ k2.depthStep = 0) := by
  unfold TokenKind.comparison? at h
  split at h <;> cases h <;> decide

/-- A one-character token is the pipe, a bracket, or a character that is no mark and whose kind
neither is a pipe nor moves the depth. -/
theorem single?_cases {c : Char} {k : TokenKind} (h : TokenKind.single? c = some k) :
    (c = '|' ∧ k = .pipe) ∨ (c = '[' ∧ k = .lbracket) ∨ (c = ']' ∧ k = .rbracket) ∨
      (c ∉ cutMarks ∧ k ≠ .pipe ∧ k.depthStep = 0) := by
  unfold TokenKind.single? at h
  split at h <;> cases h <;> simp [cutMarks, TokenKind.depthStep]

/-- Every successful reading adds tokens along which the cutter cuts; the induction follows
`scanFrom`. -/
theorem scanFrom_cuts {cs : List Char} {cur : Cursor} {acc out : Array Token}
    (h : scanFrom cs cur acc = .ok out) : ∃ new, out.toList = acc.toList ++ new ∧ Cuts cs cur.pos new := by
  fun_induction scanFrom cs cur acc generalizing out with
  | case1 cur acc =>
    cases h
    exact ⟨[{ kind := .eof, text := "", pos := cur.pos, line := cur.line, column := cur.column }],
      by simp, Cuts.stop rfl rfl⟩
  | case2 cur acc c r hsp ih =>
    obtain ⟨new, hout, hc⟩ := ih h
    have hm : c ∉ cutMarks := by
      simp only [isSpace, Bool.or_eq_true, decide_eq_true_eq] at hsp
      rcases hsp with ((rfl | rfl) | rfl) | rfl <;> decide
    exact ⟨new, hout, Cuts.run (l := [c]) (by simpa using hm) (by simpa using hc)⟩
  | case3 | case10 | case12 => cases h
  | case4 cur acc c r hsp hq body rest stop hquo _ ih =>
    obtain ⟨new, hout, hc⟩ := ih h
    obtain ⟨enc, w, rfl, hw, -, hstop⟩ := quoted_unquote hquo
    have hquote : c = '"' ∨ c = '\'' := by simpa using hq
    have hlen : stop.pos = cur.pos + (c :: enc ++ [c]).length := by rw [hstop]; simp; omega
    rw [hlen] at hc
    refine ⟨_, toList_push_append hout, ?_⟩
    rw [show c :: (enc ++ c :: rest) = (c :: enc ++ [c]) ++ rest by simp]
    exact Cuts.quoted hquote hw rfl rfl hc
  | case5 cur acc c r hsp hq hnum _ body stop =>
    rename_i ih
    obtain ⟨new, hout, hc⟩ := ih h
    have hm : ∀ x ∈ body, x ∉ cutMarks := by
      intro x hx
      rcases List.mem_cons.1 hx with rfl | hx
      · simp only [Bool.or_eq_true, Bool.and_eq_true, decide_eq_true_eq] at hnum
        rcases hnum with hd | ⟨rfl, -⟩
        · exact not_mem_cutMarks_of (.inr (.inl hd))
        · simp [cutMarks]
      · rcases numberTail_chars r x hx with hd | rfl
        · exact not_mem_cutMarks_of (.inr (.inl hd))
        · simp [cutMarks]
    refine ⟨_, toList_push_append hout, ?_⟩
    rw [show c :: r = body ++ (numberTail r).2 by simp [body, numberTail_split]]
    exact Cuts.plain ⟨by simp [ofSpan], rfl⟩ rfl hm (by simpa [stop] using hc)
  | case6 cur acc c r hsp hq hnum hlet _ body stop =>
    rename_i ih
    obtain ⟨new, hout, hc⟩ := ih h
    have hm : ∀ x ∈ body, x ∉ cutMarks := by
      intro x hx
      rcases List.mem_cons.1 hx with rfl | hx
      · simp only [Bool.or_eq_true, decide_eq_true_eq] at hlet
        rcases hlet with hl | rfl
        · exact not_mem_cutMarks_of (.inr (.inr hl))
        · simp [cutMarks]
      · exact not_mem_cutMarks_of (.inl (List.mem_takeWhile_imp hx))
    refine ⟨_, toList_push_append hout, ?_⟩
    rw [show c :: r = body ++ r.dropWhile isNameChar by simp [body]]
    exact Cuts.plain (nameKind_inert body) rfl hm (by simpa [stop] using hc)
  | case7 cur acc c r hsp hq hnum hlet k hk ih =>
    obtain ⟨new, hout, hc⟩ := ih h
    refine ⟨_, toList_push_append hout, ?_⟩
    rcases single?_cases hk with ⟨rfl, rfl⟩ | ⟨rfl, rfl⟩ | ⟨rfl, rfl⟩ | ⟨hm, hkd⟩
    · exact Cuts.pipe rfl rfl (by simpa using hc)
    · exact Cuts.bracket (.inl ⟨rfl, rfl⟩) rfl (by simpa using hc)
    · exact Cuts.bracket (.inr ⟨rfl, rfl⟩) rfl (by simpa using hc)
    · exact Cuts.plain (l := [c]) hkd rfl (by simpa using hm) (by simpa using hc)
  | case8 cur acc c r hsp hq hnum hlet hs k1 k2 hk _ op stop =>
    rename_i ih
    obtain ⟨new, hout, hc⟩ := ih h
    refine ⟨_, toList_push_append hout, ?_⟩
    rw [← operator_split c r k1 k2]
    have hkind : op.1 ≠ .pipe ∧ op.1.depthStep = 0 := by
      rcases operator_kind c r k1 k2 with h1 | h1
      · simp only [op, h1]
        exact (comparison?_inert hk).1
      · simp only [op, h1]
        exact (comparison?_inert hk).2
    have hm : ∀ x ∈ op.2.1, x ∉ cutMarks := fun x hx => by
      rcases operator_taken_chars c r k1 k2 x hx with rfl | rfl
      · rcases eq_of_comparison? hk with rfl | rfl | rfl <;> simp [cutMarks]
      · simp [cutMarks]
    exact Cuts.plain hkind rfl hm (by simpa [stop, op] using hc)
  | case9 cur acc r hsp hq hlet hs hk stop hnum =>
    rename_i ih
    obtain ⟨new, hout, hc⟩ := ih h
    refine ⟨_, toList_push_append hout, ?_⟩
    exact Cuts.plain (l := ['!', '=']) ⟨by simp [ofSpan], rfl⟩ rfl (by simp [cutMarks])
      (by simpa [stop] using hc)
  | case11 cur acc r hsp hq hnum hlet hs hk hbang ih =>
    obtain ⟨new, hout, hc⟩ := ih h
    refine ⟨_, toList_push_append hout, ?_⟩
    exact Cuts.plain (l := ['-']) ⟨by simp [ofSpan], rfl⟩ rfl (by simp [cutMarks]) (by simpa using hc)

/-! ### Segments and top-level pipes -/

/-- For every query the reader accepts, the segments are the pieces between the pipe tokens at
bracket depth zero, an empty last piece left out; joined with `|` they give back the query less a
final `|`. -/
theorem segments_at_top_pipes {s : String} {toks : Array Token} (h : scan s = .ok toks) :
    segments s = closePieces (piecesAt (topPipes 0 toks.toList).contains s.toList 0) ∧
      "|".intercalate (segments s) ++
        (if ∃ q ∈ topPipes 0 toks.toList, q + 1 = s.length then "|" else "") = s := by
  obtain ⟨new, hout, hc⟩ := scanFrom_cuts h
  simp only [List.nil_append] at hout
  rw [hout]
  have hseg : segments s = closePieces (piecesAt (topPipes 0 new).contains s.toList 0) := by
    have := hc.alike 0 _ (fun _ _ => rfl) [] []
    simp only [List.reverse_nil, List.nil_append] at this
    rw [show segments s = cutFrom s.toList ⟨none, 0⟩ [] [] from rfl, this]
    exact congrArg closePieces (congrFun List.modifyHead_id _)
  refine ⟨hseg, ?_⟩
  have hbar : ∀ i (hi : i < s.toList.length), (topPipes 0 new).contains (0 + i) = true →
      s.toList[i] = '|' := by
    intro i hi hi'
    obtain ⟨t, ht, hk, rfl⟩ := mem_topPipes (by simpa using hi')
    have h1 : s.toList[t.pos]? = some '|' := by simpa using hc.pipes t ht hk
    rw [List.getElem?_eq_getElem hi] at h1
    exact Option.some.inj h1
  have hjoin : "|".intercalate ((piecesAt (topPipes 0 new).contains s.toList 0).map String.ofList) = s := by
    rw [← String.toList_inj, String.toList_intercalate, List.map_map]
    simpa [Function.comp_def, String.toList_ofList] using intercalate_piecesAt hbar
  -- the query ends with a top-level pipe exactly when it is not empty and its last piece is
  have hend : (∃ q ∈ topPipes 0 new, q + 1 = s.length) ↔
      s.toList ≠ [] ∧ (piecesAt (topPipes 0 new).contains s.toList 0).getLast? = some [] := by
    rw [← String.length_toList]
    rcases List.eq_nil_or_concat s.toList with he | ⟨cs, c, he⟩
    · simp [he]
    · rw [he, List.concat_eq_append, getLast?_piecesAt]
      simp
  rw [hseg]
  by_cases hlast : (piecesAt (topPipes 0 new).contains s.toList 0).getLast? = some []
  · obtain ⟨xs, hxs⟩ := List.getLast?_eq_some_iff.1 hlast
    have hclose : closePieces (piecesAt (topPipes 0 new).contains s.toList 0) = xs.map String.ofList := by
      simp [closePieces, hxs]
    rcases xs with _ | ⟨x, xs⟩
    · have hs : s.toList = [] := (piecesAt_eq_singleton (by simpa using hxs)).symm
      rw [if_neg (by simp [hend, hs]), hclose]
      rw [← String.toList_inj]
      simp [hs]
    · have hs : s.toList ≠ [] := fun hs => by simp [hs, piecesAt] at hxs
      rw [if_pos (hend.2 ⟨hs, hlast⟩), hclose, ← hjoin, hxs, List.map_append,
        String.intercalate_append_of_ne_nil (by simp) (by simp)]
      simp
  · rw [if_neg (by simp [hend, hlast]), closePieces, if_neg hlast, hjoin]
    simp

set_option maxRecDepth 10000 in
/-- In `a [b | c] | d` only the pipe outside the brackets cuts. -/
theorem segments_outside_brackets :
    let s := "a [b | c] | d"
    let toks := (scan s).toOption.getD #[]
    scan s = .ok toks ∧
      (segments s = closePieces (piecesAt (topPipes 0 toks.toList).contains s.toList 0) ∧
        "|".intercalate (segments s) ++
          (if ∃ q ∈ topPipes 0 toks.toList, q + 1 = s.length then "|" else "") = s) := by
  have h : scan "a [b | c] | d" = .ok ((scan "a [b | c] | d").toOption.getD #[]) := by cbv
  exact ⟨h, segments_at_top_pipes h⟩

end PipeQuery.Query

/-!
## Lines and columns

Besides the offset, the reader counts a line and a column (`Cursor`). Kept along a tiling
(`TilesFrom`), they place every token of a query read into tokens at the column after the
characters before it and on the line after its lexeme (`scan_placed`).
-/

namespace PipeQuery.Query.Token

/-- Each token stands at the column after the characters before it, on the line after its lexeme
(empty for the end token, at the text's end). -/
def Placed (cs : List Char) (ts : List Token) : Prop :=
  ∀ t ∈ ts, ∃ lex, lex <+: cs.drop t.pos ∧ (Spells t lex ∨ t.kind = .eof ∧ t.pos = cs.length) ∧
    t.column = columnAfter (cs.take t.pos) ∧ t.line = (cs.take (t.pos + lex.length)).count '\n' + 1

/-- A tiling read after the characters `pre` places its tokens in `pre ++ cs`. -/
theorem TilesFrom.placed {pre cs : List Char} {ts : List Token}
    (h : TilesFrom cs (({} : Cursor).skip pre) ts) : Placed (pre ++ cs) ts := by
  generalize hcur : ({} : Cursor).skip pre = cur at h
  induction h generalizing pre with
  | stop =>
    subst hcur
    intro t ht
    rw [List.mem_singleton] at ht
    subst ht
    refine ⟨[], by simp, .inr ⟨rfl, by simp⟩, by simp [Cursor.column_skip_start], by simp; omega⟩
  | @blank c cs cur ts _ _ ih =>
    have hrest := @ih (pre ++ [c]) (by rw [Cursor.skip_append, hcur]; rfl)
    rwa [List.append_assoc, List.singleton_append] at hrest
  | @token lex cs cur k body ts _ hs _ ih =>
    subst hcur
    have hrest := @ih (pre ++ lex) (Cursor.skip_append _ _ _)
    rw [List.append_assoc] at hrest
    intro t ht
    rcases List.mem_cons.1 ht with rfl | ht
    · refine ⟨lex, by simp [ofSpan], .inl hs, by simp [ofSpan, Cursor.column_skip_start], ?_⟩
      simp [ofSpan, List.take_length_add_append]
      omega
    · exact hrest t ht

/-- The tokens of a query read into tokens stand at the lines and columns the reader counted. -/
theorem scan_placed {s : String} {toks : Array Token} (h : scan s = .ok toks) :
    Placed s.toList toks.toList := by
  obtain ⟨new, hout, ht⟩ := scanFrom_tilesFrom h
  rw [hout]
  exact @TilesFrom.placed [] _ _ ht

/-- A quoted text over a line break stands at the column where it starts, on the line where it
ends. -/
theorem scan_placed_broken_text :
    scan "a\n\"x\ny\" b" = .ok ((scan "a\n\"x\ny\" b").toOption.getD #[]) ∧
      Placed "a\n\"x\ny\" b".toList ((scan "a\n\"x\ny\" b").toOption.getD #[]).toList :=
  have h : scan "a\n\"x\ny\" b" = .ok ((scan "a\n\"x\ny\" b").toOption.getD #[]) := by
    decide +kernel
  ⟨h, scan_placed h⟩

end PipeQuery.Query.Token
