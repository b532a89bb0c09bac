import PipeQuery.Query.Token.Scan
import Mathlib

/-!
# Reading texts that are joined

A token looks at most one character past its own end, so the tokens of a joined text are those of
each piece when the first cannot reach across the seam (`Seam`: a separator on either side).
`scanFrom_append` reads `cs ++ ds` as `cs` then `ds`; `scanFrom_views` shows that where the reader
starts changes only offsets, lines and columns; `scan_append` puts the two together.
-/

namespace PipeQuery.Query

open PipeQuery.Text

/-- Reading two pieces is reading the first, then the second from where it ended. -/
theorem Cursor.skip_append (cur : Cursor) (a b : List Char) :
    cur.skip (a ++ b) = (cur.skip a).skip b :=
  List.foldl_append

/-- Reading advances the line by the number of line breaks read. -/
@[simp] theorem Cursor.skip_line (cur : Cursor) (cs : List Char) :
    (cur.skip cs).line = cur.line + cs.count '\n' := by
  induction cs generalizing cur with
  | nil => rfl
  | cons c cs ih =>
    by_cases hc : c = '\n'
    · simp [Cursor.next, ih, hc]; omega
    · simp [Cursor.next, ih, hc]

/-- The column after the characters `cs`: how many follow their last line break. -/
def columnAfter (cs : List Char) : Nat :=
  (cs.reverse.takeWhile (· ≠ '\n')).length

theorem Cursor.column_skip_start (cs : List Char) : (({} : Cursor).skip cs).column = columnAfter cs := by
  induction cs using List.reverseRecOn with
  | nil => rfl
  | append_singleton cs c ih =>
    rw [Cursor.skip_append, Cursor.skip_cons, Cursor.skip_nil]
    by_cases hc : c = '\n' <;> simp [Cursor.next, columnAfter, hc, ih]

namespace Token

/-! ### Separators -/

/-- The characters that end every token before them and start no longer token. -/
def separators : List Char :=
  [' ', '\t', '\r', '\n', '|', ',', '(', ')', '[', ']', '+', '*', '/']

/-- A blank or one of `| , ( ) [ ] + * /`. -/
def isSeparator (c : Char) : Bool :=
  separators.contains c

theorem separators_classes :
    separators.all (fun c => !isNameChar c && !isDigitChar c && !isLetter c) = true := by
  decide +kernel

theorem mem_separators {c : Char} (h : isSeparator c = true) : c ∈ separators := by
  simpa [isSeparator] using h

theorem isNameChar_of_isSeparator {c : Char} (h : isSeparator c = true) : isNameChar c = false := by
  have := List.all_eq_true.1 separators_classes c (mem_separators h)
  simp_all

theorem isDigitChar_of_isSeparator {c : Char} (h : isSeparator c = true) : isDigitChar c = false := by
  have := List.all_eq_true.1 separators_classes c (mem_separators h)
  simp_all

theorem isLetter_of_isSeparator {c : Char} (h : isSeparator c = true) : isLetter c = false := by
  have := List.all_eq_true.1 separators_classes c (mem_separators h)
  simp_all

/-- A separator is none of the characters that start or extend a longer token. -/
theorem ne_of_isSeparator {c : Char} (h : isSeparator c = true) :
    c ≠ '.' ∧ c ≠ '=' ∧ c ≠ '-' ∧ c ≠ '_' ∧ c ≠ '"' ∧ c ≠ '\'' ∧ c ≠ '!' ∧ c ≠ '<' ∧ c ≠ '>' := by
  have hm := mem_separators h
  simp only [separators, List.mem_cons, List.not_mem_nil, or_false] at hm
  rcases hm with rfl | rfl | rfl | rfl | rfl | rfl | rfl | rfl | rfl | rfl | rfl | rfl | rfl <;>
    decide

/-- No token crosses from `cs` into `ds`: `ds` starts with a separator, or `cs` ends with one. -/
def Seam (cs ds : List Char) : Prop :=
  (∀ c, ds.head? = some c → isSeparator c = true) ∨ ∃ c, cs.getLast? = some c ∧ isSeparator c = true

/-- A tail of `cs` keeps the seam, unless it is empty. -/
theorem Seam.of_suffix {cs ds rest : List Char} (h : Seam cs ds) (hsuf : rest <:+ cs) :
    rest = [] ∨ Seam rest ds := by
  rcases h with hd | ⟨c, hc, hsep⟩
  · exact .inr (.inl hd)
  · by_cases hnil : rest = []
    · exact .inl hnil
    · obtain ⟨pre, rfl⟩ := hsuf
      obtain ⟨x, hx⟩ := Option.isSome_iff_exists.1 (List.getLast?_isSome.2 hnil)
      rw [List.getLast?_append, hx] at hc
      simp only [Option.some_or, Option.some.injEq] at hc
      exact .inr (.inr ⟨x, hx, hc ▸ hsep⟩)

/-- Past a first character that is no separator, the seam is the rest's. -/
theorem Seam.tail {c : Char} {r ds : List Char} (h : Seam (c :: r) ds) (hc : isSeparator c = false) :
    Seam r ds := by
  rcases h with hd | ⟨x, hx, hsep⟩
  · exact .inl hd
  · cases r with
    | nil => simp only [List.getLast?_singleton, Option.some.injEq] at hx; subst hx; simp_all
    | cons y ys => exact .inr ⟨x, by simpa [List.getLast?_cons_cons] using hx, hsep⟩

/-! ### Runs of characters at a seam -/

/-- A run that stops inside `r` is the same run in `r ++ ds`. -/
theorem run_append_of_stop {p : Char → Bool} {r ds : List Char} {a : Char} (ha : a ∈ r)
    (hpa : p a = false) :
    (r ++ ds).takeWhile p = r.takeWhile p ∧ (r ++ ds).dropWhile p = r.dropWhile p ++ ds := by
  have hne : (r.dropWhile p).isEmpty = false := by
    simp only [List.isEmpty_eq_false_iff, ne_eq, List.dropWhile_eq_nil_iff]
    intro h; simpa [hpa] using h a ha
  have hlen : (r.takeWhile p).length ≠ r.length := by
    intro hl
    have := List.takeWhile_eq_self_iff.1 (List.IsPrefix.eq_of_length (List.takeWhile_prefix p) hl)
    simpa [hpa] using this a ha
  rw [List.takeWhile_append, List.dropWhile_append, if_neg hlen, hne]
  simp

/-- A run of characters that no separator continues ends on the side of the seam it started on. -/
theorem run_append {p : Char → Bool} (hp : ∀ c, isSeparator c = true → p c = false)
    {r ds : List Char} (h : Seam r ds) :
    (r ++ ds).takeWhile p = r.takeWhile p ∧ (r ++ ds).dropWhile p = r.dropWhile p ++ ds := by
  rcases h with hd | ⟨c, hc, hsep⟩
  · by_cases hall : ∀ a ∈ r, p a = true
    · have hstop : ds.takeWhile p = [] ∧ ds.dropWhile p = ds := by
        cases ds with
        | nil => simp
        | cons d ds => simp [hp d (hd d rfl)]
      simp [List.takeWhile_append_of_pos hall, List.dropWhile_append_of_pos hall, hstop,
        List.takeWhile_eq_self_iff.2 hall, List.dropWhile_eq_nil_iff.2 hall]
    · simp only [not_forall] at hall
      obtain ⟨a, ha, hpa⟩ := hall
      exact run_append_of_stop ha (by simpa using hpa)
  · exact run_append_of_stop (List.mem_of_getLast? hc) (hp c hsep)

/-- The digits of a number stop at the seam. -/
theorem numberTail_append {r ds : List Char} (h : Seam r ds) :
    numberTail (r ++ ds) = ((numberTail r).1, (numberTail r).2 ++ ds) := by
  have hdig := fun c (hc : isSeparator c = true) => isDigitChar_of_isSeparator hc
  obtain ⟨htake, hdrop⟩ := run_append hdig h
  -- the digits of `r` are followed by `r1`, and `r1 ++ ds` decides the fraction
  have hsuf : r.dropWhile isDigitChar <:+ r := List.dropWhile_suffix isDigitChar
  rcases hr1 : r.dropWhile isDigitChar with _ | ⟨x, xs⟩
  · -- all of `r` are digits: `ds` starts with a separator, which is no point
    have hds : ∀ c, ds.head? = some c → isSeparator c = true := by
      rcases h with hd | ⟨c, hc, hsep⟩
      · exact hd
      · have := List.dropWhile_eq_nil_iff.1 hr1 c (List.mem_of_getLast? hc)
        rw [hdig c hsep] at this; cases this
    unfold numberTail
    rw [hdrop, hr1, htake]
    cases ds with
    | nil => simp
    | cons d ds =>
      have hd := (ne_of_isSeparator (hds d rfl)).1
      simp only [List.nil_append]
      split <;> simp_all
  · rcases (h.of_suffix (hr1 ▸ hsuf)) with hnil | hseam
    · cases hnil
    unfold numberTail
    rw [hdrop, hr1, htake]
    by_cases hx : x = '.'
    · subst hx
      cases xs with
      | nil =>
        have hds : ∀ c, ds.head? = some c → isSeparator c = true := by
          rcases hseam with hd | ⟨c, hc, hsep⟩
          · exact hd
          · simp only [List.getLast?_singleton, Option.some.injEq] at hc; subst hc
            simp [isSeparator, separators] at hsep
        cases ds with
        | nil => simp
        | cons d ds => simp [isDigitChar_of_isSeparator (hds d rfl)]
      | cons d r' =>
        have hseam' := hseam.tail (by decide)
        obtain ⟨ht, hd⟩ := run_append hdig hseam'
        simp only [List.cons_append]
        split <;> simp_all
    · cases xs <;> simp [hx]

/-! ### Quoted texts and operators at a seam -/

/-- One step of a quoted text, whatever follows its first character. -/
theorem quoted_cons (q c : Char) (r : List Char) (cur : Cursor) (acc : List Char) :
    quoted q (c :: r) cur acc =
      if c = q then .ok (acc.reverse, r, cur.next c)
      else if c = '\\' then
        match r with
        | [] => .error (cur.next c)
        | e :: r2 => quoted q r2 ((cur.next c).next e) ((unescape e).reverse ++ acc)
      else quoted q r (cur.next c) (c :: acc) :=
  quoted.eq_def q (c :: r) cur acc

/-- A quoted text that closes inside `cs` closes at the same place inside `cs ++ ds`. -/
theorem quoted_append {q : Char} {cs ds : List Char} {cur : Cursor} {acc v rest : List Char}
    {stop : Cursor} (h : quoted q cs cur acc = .ok (v, rest, stop)) :
    quoted q (cs ++ ds) cur acc = .ok (v, rest ++ ds, stop) := by
  fun_induction quoted q cs cur acc generalizing v rest stop with
  | case1 => cases h
  | case2 r cur acc =>
    simp only [Except.ok.injEq, Prod.mk.injEq] at h
    obtain ⟨rfl, rfl, rfl⟩ := h
    rw [List.cons_append, quoted_cons, if_pos rfl]
  | case3 => cases h
  | case4 cur acc e r2 hq ih =>
    rw [List.cons_append, List.cons_append, quoted, if_neg hq, if_pos rfl]
    exact ih h
  | case5 c r cur acc hq hb ih =>
    rw [List.cons_append, quoted_cons, if_neg hq, if_neg hb]
    exact ih h

/-- What a quoted text leaves is a tail of what it read, and the reader stands after the rest. -/
theorem quoted_suffix {q : Char} {cs : List Char} {cur : Cursor} {acc v rest : List Char}
    {stop : Cursor} (h : quoted q cs cur acc = .ok (v, rest, stop)) :
    ∃ pre, cs = pre ++ rest ∧ stop = cur.skip pre := by
  fun_induction quoted q cs cur acc generalizing v rest stop with
  | case1 => cases h
  | case2 r cur acc =>
    simp only [Except.ok.injEq, Prod.mk.injEq] at h
    obtain ⟨-, rfl, rfl⟩ := h
    exact ⟨[q], rfl, rfl⟩
  | case3 => cases h
  | case4 cur acc e r2 hq ih =>
    obtain ⟨pre, rfl, rfl⟩ := ih h
    exact ⟨'\\' :: e :: pre, rfl, rfl⟩
  | case5 c r cur acc hq hb ih =>
    obtain ⟨pre, rfl, rfl⟩ := ih h
    exact ⟨c :: pre, rfl, rfl⟩

/-- An operator takes its second `=` from its own side of the seam. -/
theorem operator_append {c : Char} {r ds : List Char} {k1 k2 : TokenKind}
    (h : r ≠ [] ∨ ∀ d, ds.head? = some d → d ≠ '=') :
    operator c (r ++ ds) k1 k2 =
      ((operator c r k1 k2).1, (operator c r k1 k2).2.1, (operator c r k1 k2).2.2 ++ ds) := by
  rcases r with _ | ⟨x, xs⟩
  · rcases ds with _ | ⟨d, ds⟩
    · rfl
    · have hd : d ≠ '=' := by simpa using h
      simp [operator, hd]
  · by_cases hx : x = '=' <;> simp [operator, hx]

theorem numberTail_split (r : List Char) : (numberTail r).1 ++ (numberTail r).2 = r := by
  unfold numberTail
  split
  · rename_i d t hdrop
    split
    · calc _ = r.takeWhile isDigitChar ++ '.' :: d :: t := by
            rw [List.append_assoc, List.cons_append, List.takeWhile_append_dropWhile]
        _ = r := by rw [← hdrop, List.takeWhile_append_dropWhile]
    · exact List.takeWhile_append_dropWhile
  · exact List.takeWhile_append_dropWhile

theorem operator_split (c : Char) (r : List Char) (k1 k2 : TokenKind) :
    (operator c r k1 k2).2.1 ++ (operator c r k1 k2).2.2 = c :: r := by
  unfold operator; split <;> simp

theorem eq_of_comparison? {c : Char} {p : TokenKind × TokenKind} (h : TokenKind.comparison? c = some p) :
    c = '=' ∨ c = '>' ∨ c = '<' := by
  unfold TokenKind.comparison? at h
  split at h <;> simp_all

/-- With nothing before it, a seam is a separator at the start of what follows. -/
theorem Seam.head {ds : List Char} (h : Seam [] ds) : ∀ c, ds.head? = some c → isSeparator c = true := by
  rcases h with h | ⟨c, hc, _⟩
  · exact h
  · cases hc

/-! ### Reading across a seam -/

/-- Reading `cs ++ ds` reads the tokens of `cs` but their `eof`, then those of `ds` from where `cs`
ended; by induction along `scanFrom` on `cs`. -/
theorem scanFrom_append {cs ds : List Char} {cur : Cursor} {acc out : Array Token}
    (h : scanFrom cs cur acc = .ok out) (hseam : cs = [] ∨ Seam cs ds) :
    scanFrom (cs ++ ds) cur acc = scanFrom ds (cur.skip cs) out.pop := by
  fun_induction scanFrom cs cur acc generalizing out with
  | case1 cur acc => cases h; simp
  | case2 cur acc c r hsp ih =>
    have hr := (hseam.resolve_left (List.cons_ne_nil c r)).of_suffix (List.suffix_cons c r)
    rw [List.cons_append, scanFrom.eq_def]
    simp only [hsp, if_true]
    rw [ih h hr]; rfl
  | case4 cur acc c r hsp hq body rest stop hquo _ ih =>
    obtain ⟨pre, hr, hstop⟩ := quoted_suffix hquo
    have hrest := (hseam.resolve_left (List.cons_ne_nil c r)).of_suffix
      (show rest <:+ c :: r from ⟨c :: pre, by simp [hr]⟩)
    rw [List.cons_append, scanFrom.eq_def]
    simp only [hsp, hq, Bool.false_eq_true, ↓reduceIte]
    split
    · rename_i heq; rw [quoted_append hquo] at heq; cases heq
    · rename_i heq
      rw [quoted_append hquo] at heq
      simp only [Except.ok.injEq, Prod.mk.injEq] at heq
      obtain ⟨rfl, rfl, rfl⟩ := heq
      rw [ih h hrest, hr, hstop, ← Cursor.skip_append]
      rfl
  | case5 cur acc c r hsp hq hnum _ body stop =>
    rename_i ih
    have hc : isSeparator c = false := by
      by_contra hs
      simp only [Bool.not_eq_false] at hs
      simp [isDigitChar_of_isSeparator hs, (ne_of_isSeparator hs).2.2.1] at hnum
    have hr := (hseam.resolve_left (List.cons_ne_nil c r)).tail hc
    have hrest := hr.of_suffix ⟨_, numberTail_split r⟩
    rw [List.cons_append, scanFrom.eq_def]
    dsimp only
    rw [if_neg hsp, if_neg hq]
    refine (if_pos ?_).trans ?_
    · -- a number still starts here: the digit after a `-` lies inside `r`
      rcases r with _ | ⟨d, t⟩
      · simp only [Bool.and_false, Bool.or_false] at hnum; simp [hnum]
      · simpa using hnum
    rw [numberTail_append hr]
    refine (ih h hrest).trans ?_
    simp only [stop, body, Cursor.skip_cons, ← Cursor.skip_append, numberTail_split]
  | case6 cur acc c r hsp hq hnum hlet _ body stop =>
    rename_i ih
    have hd := (Bool.or_eq_false_iff.1 (Bool.eq_false_iff.2 hnum)).1
    have hc : isSeparator c = false := by
      by_contra hs
      simp only [Bool.not_eq_false] at hs
      simp [isLetter_of_isSeparator hs, (ne_of_isSeparator hs).2.2.2.1] at hlet
    have hdash : c ≠ '-' := by rintro rfl; exact absurd hlet (by decide +kernel)
    have hr := (hseam.resolve_left (List.cons_ne_nil c r)).tail hc
    obtain ⟨ht, hdrop⟩ := run_append (fun _ h => isNameChar_of_isSeparator h) hr
    have hrest := hr.of_suffix (List.dropWhile_suffix isNameChar)
    rw [List.cons_append, scanFrom.eq_def]
    dsimp only
    rw [if_neg hsp, if_neg hq]
    refine (if_neg (by simp [hd, hdash])).trans ?_
    rw [if_pos hlet, ht, hdrop]
    refine (ih h hrest).trans ?_
    simp only [stop, body, Cursor.skip_cons, ← Cursor.skip_append, List.takeWhile_append_dropWhile]
  | case7 cur acc c r hsp hq hnum hlet k hk ih =>
    have hd := (Bool.or_eq_false_iff.1 (Bool.eq_false_iff.2 hnum)).1
    have hdash : c ≠ '-' := by rintro rfl; simp [TokenKind.single?] at hk
    have hr := (hseam.resolve_left (List.cons_ne_nil c r)).of_suffix (List.suffix_cons c r)
    rw [List.cons_append, scanFrom.eq_def]
    dsimp only
    rw [if_neg hsp, if_neg hq]
    refine (if_neg (by simp [hd, hdash])).trans ?_
    rw [if_neg hlet]
    simp only [hk]
    exact ih h hr
  | case8 cur acc c r hsp hq hnum hlet hs k1 k2 hk _ op stop =>
    rename_i ih
    have hd := (Bool.or_eq_false_iff.1 (Bool.eq_false_iff.2 hnum)).1
    have hcmp := eq_of_comparison? hk
    have hc : isSeparator c = false := by
      by_contra hsep
      simp only [Bool.not_eq_false] at hsep
      have := ne_of_isSeparator hsep
      rcases hcmp with rfl | rfl | rfl <;> simp_all
    have hdash : c ≠ '-' := by rcases hcmp with rfl | rfl | rfl <;> decide
    have hop : r ≠ [] ∨ ∀ d, ds.head? = some d → d ≠ '=' := by
      rcases r with _ | ⟨x, xs⟩
      · exact .inr fun d hd => (ne_of_isSeparator
          (((hseam.resolve_left (List.cons_ne_nil c [])).tail hc).head d hd)).2.1
      · exact .inl (List.cons_ne_nil x xs)
    have hrest := (hseam.resolve_left (List.cons_ne_nil c r)).of_suffix ⟨_, operator_split c r k1 k2⟩
    rw [List.cons_append, scanFrom.eq_def]
    dsimp only
    rw [if_neg hsp, if_neg hq]
    refine (if_neg (by simp [hd, hdash])).trans ?_
    rw [if_neg hlet]
    simp only [hs, hk, operator_append hop]
    refine (ih h hrest).trans ?_
    simp only [stop, op, ← Cursor.skip_append, operator_split]
  | case9 cur acc r hsp hq hlet hs hk stop hnum =>
    rename_i ih
    have hr := (hseam.resolve_left (List.cons_ne_nil _ _)).of_suffix
      ((List.suffix_cons '=' r).trans (List.suffix_cons '!' _))
    rw [List.cons_append, List.cons_append, scanFrom.eq_def]
    dsimp only
    rw [if_neg hsp, if_neg hq]
    refine (if_neg (by simpa using hnum)).trans ?_
    rw [if_neg hlet]
    simp only [hs, hk, if_pos]
    exact ih h hr
  | case3 | case10 | case12 => cases h
  | case11 cur acc r hsp hq hnum hlet hs hk hbang ih =>
    have hseam' := hseam.resolve_left (List.cons_ne_nil '-' r)
    have hr := hseam'.of_suffix (List.suffix_cons '-' r)
    rw [List.cons_append, scanFrom.eq_def]
    dsimp only
    rw [if_neg hsp, if_neg hq]
    refine (if_neg ?_).trans ?_
    · -- no digit follows the `-`: `r` starts with none, and an empty `r` meets a separator
      rcases r with _ | ⟨d, t⟩
      · have hds := (hseam'.tail (by decide)).head
        rcases ds with _ | ⟨d, ds⟩
        · simpa using hnum
        · simpa [isDigitChar_of_isSeparator (hds d rfl)] using hnum
      · simpa using hnum
    rw [if_neg hlet]
    simp only [hs, hk, if_neg hbang, if_pos]
    exact ih h hr
/-- A quoted text closes after the same characters wherever the reader starts. -/
theorem quoted_cursor {q : Char} {cs : List Char} {cur : Cursor} {acc v rest : List Char}
    {stop : Cursor} (h : quoted q cs cur acc = .ok (v, rest, stop)) (cur' : Cursor) :
    ∃ stop', quoted q cs cur' acc = .ok (v, rest, stop') := by
  fun_induction quoted q cs cur acc generalizing v rest stop cur' with
  | case1 => cases h
  | case2 r cur acc =>
    simp only [Except.ok.injEq, Prod.mk.injEq] at h
    obtain ⟨rfl, rfl, rfl⟩ := h
    exact ⟨_, by rw [quoted_cons, if_pos rfl]⟩
  | case3 => cases h
  | case4 cur acc e r2 hq ih =>
    rw [quoted, if_neg hq, if_pos rfl]
    exact ih h _
  | case5 c r cur acc hq hb ih =>
    rw [quoted_cons, if_neg hq, if_neg hb]
    exact ih h _

/-! ### Where the reader starts -/

/-- What a reader sees of a token besides its place: its kind and its text. -/
def view (t : Token) : TokenKind × String := (t.kind, t.text)

/-- `out` extends `acc`, and `out'` extends `acc'`, by tokens that look the same. -/
def Extends (acc out acc' out' : Array Token) : Prop :=
  ∃ new new', out = acc ++ new ∧ out' = acc' ++ new' ∧ new.map view = new'.map view

theorem Extends.of_push {acc out acc' out' : Array Token} {t t' : Token}
    (h : Extends (acc.push t) out (acc'.push t') out') (ht : t.view = t'.view) :
    Extends acc out acc' out' := by
  obtain ⟨new, new', rfl, rfl, hv⟩ := h
  refine ⟨#[t] ++ new, #[t'] ++ new', ?_, ?_, ?_⟩
  · rw [Array.push_eq_append, Array.append_assoc]
  · rw [Array.push_eq_append, Array.append_assoc]
  · simp [Array.map_append, ht, hv]

/-- Reading the same characters from another place adds tokens of the same kinds and texts. -/
theorem scanFrom_views {cs : List Char} {cur : Cursor} {acc out : Array Token}
    (h : scanFrom cs cur acc = .ok out) (cur' : Cursor) (acc' : Array Token) :
    ∃ out', scanFrom cs cur' acc' = .ok out' ∧ Extends acc out acc' out' := by
  fun_induction scanFrom cs cur acc generalizing out cur' acc' with
  | case1 cur acc =>
    cases h
    exact ⟨_, scanFrom.eq_1 cur' acc', #[_], #[_], rfl, rfl, by simp [view]⟩
  | case2 cur acc c r hsp ih =>
    obtain ⟨out', h', hext⟩ := ih h (cur'.next c) acc'
    refine ⟨out', ?_, hext⟩
    rw [scanFrom.eq_def]; dsimp only
    rw [if_pos hsp]; exact h'
  | case4 cur acc c r hsp hq body rest stop hquo _ ih =>
    obtain ⟨stop', hq'⟩ := quoted_cursor hquo (cur'.next c)
    obtain ⟨out', h', hext⟩ := ih h stop' (acc'.push (ofSpan .str body cur' stop'))
    refine ⟨out', ?_, hext.of_push rfl⟩
    rw [scanFrom.eq_def]; dsimp only
    rw [if_neg hsp, if_pos hq]
    split
    · rename_i heq; rw [hq'] at heq; cases heq
    · rename_i heq
      rw [hq'] at heq
      simp only [Except.ok.injEq, Prod.mk.injEq] at heq
      obtain ⟨rfl, rfl, rfl⟩ := heq
      exact h'
  | case5 cur acc c r hsp hq hnum _ body stop =>
    rename_i ih
    obtain ⟨out', h', hext⟩ := ih h (cur'.skip body) (acc'.push (ofSpan .num body cur' (cur'.skip body)))
    refine ⟨out', ?_, hext.of_push rfl⟩
    rw [scanFrom.eq_def]; dsimp only
    rw [if_neg hsp, if_neg hq, if_pos hnum]; exact h'
  | case6 cur acc c r hsp hq hnum hlet _ body stop =>
    rename_i ih
    obtain ⟨out', h', hext⟩ :=
      ih h (cur'.skip body) (acc'.push (ofSpan (nameKind body) body cur' (cur'.skip body)))
    refine ⟨out', ?_, hext.of_push rfl⟩
    rw [scanFrom.eq_def]; dsimp only
    rw [if_neg hsp, if_neg hq, if_neg hnum, if_pos hlet]; exact h'
  | case7 cur acc c r hsp hq hnum hlet k hk ih =>
    obtain ⟨out', h', hext⟩ := ih h (cur'.next c) (acc'.push (ofSpan k [c] cur' (cur'.next c)))
    refine ⟨out', ?_, hext.of_push rfl⟩
    rw [scanFrom.eq_def]; dsimp only
    rw [if_neg hsp, if_neg hq, if_neg hnum, if_neg hlet]
    simp only [hk]; exact h'
  | case8 cur acc c r hsp hq hnum hlet hs k1 k2 hk _ op stop =>
    rename_i ih
    obtain ⟨out', h', hext⟩ :=
      ih h (cur'.skip op.2.1) (acc'.push (ofSpan op.1 op.2.1 cur' (cur'.skip op.2.1)))
    refine ⟨out', ?_, hext.of_push rfl⟩
    rw [scanFrom.eq_def]; dsimp only
    rw [if_neg hsp, if_neg hq, if_neg hnum, if_neg hlet]
    simp only [hs, hk]; exact h'
  | case9 cur acc r hsp hq hlet hs hk stop hnum =>
    rename_i ih
    obtain ⟨out', h', hext⟩ :=
      ih h (cur'.skip ['!', '=']) (acc'.push (ofSpan .ne ['!', '='] cur' (cur'.skip ['!', '='])))
    refine ⟨out', ?_, hext.of_push rfl⟩
    rw [scanFrom.eq_def]; dsimp only
    rw [if_neg hsp, if_neg hq, if_neg hnum, if_neg hlet]
    simp only [hs, hk, if_pos]; exact h'
  | case3 | case10 | case12 => cases h
  | case11 cur acc r hsp hq hnum hlet hs hk hbang ih =>
    obtain ⟨out', h', hext⟩ :=
      ih h (cur'.next '-') (acc'.push (ofSpan .minus ['-'] cur' (cur'.next '-')))
    refine ⟨out', ?_, hext.of_push rfl⟩
    rw [scanFrom.eq_def]; dsimp only
    rw [if_neg hsp, if_neg hq, if_neg hnum, if_neg hlet]
    simp only [hs, hk, if_neg hbang, if_pos]; exact h'

theorem scanFrom_last {cs : List Char} {cur : Cursor} {acc out : Array Token}
    (h : scanFrom cs cur acc = .ok out) : ∃ t, out.back? = some t ∧ t.kind = .eof := by
  fun_induction scanFrom cs cur acc generalizing out
  case case1 => cases h; exact ⟨_, Array.back?_push, rfl⟩
  case case3 | case10 | case12 => cases h
  all_goals rename_i ih; exact ih h

/-- The tokens of two joined texts that meet at a seam. -/
theorem scan_append {cs ds : String} {C D : Array Token} (hc : scan cs = .ok C)
    (hd : scan ds = .ok D) (hseam : cs.toList = [] ∨ Seam cs.toList ds.toList) :
    ∃ D', scan (cs ++ ds) = .ok (C.pop ++ D') ∧ D'.map view = D.map view := by
  unfold scan at *
  rw [String.toList_append, scanFrom_append hc hseam]
  obtain ⟨out', h', new, new', hD, rfl, hv⟩ := scanFrom_views hd (({ } : Cursor).skip cs.toList) C.pop
  refine ⟨new', h', ?_⟩
  rw [hD, ← hv]
  simp

end Token

end PipeQuery.Query
