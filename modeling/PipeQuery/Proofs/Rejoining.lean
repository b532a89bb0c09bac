import Mathlib
import PipeQuery.Command.Args

/-!
# Rejoining the words of a command line

The words `splitWords` cuts from a line, joined with single spaces, give the line with every run of
blanks outside quotes cut to one space and the runs at either end dropped, and no word is empty;
unless the line ends in a backslash inside quotes, which is lost. Quotes are read by the automaton
`Reading`.
-/

namespace PipeQuery.Command

/-- How far a line has been read: the quote of the open quoted stretch, and whether the character
before was a backslash inside it, escaping the next one. -/
structure Reading where
  quote : Option Char := none
  escaped : Bool := false

@[simp] def Reading.next (r : Reading) (c : Char) : Reading :=
  match r.quote, r.escaped with
  | some q, true => ⟨some q, false⟩
  | some q, false => if c = q then ⟨none, false⟩ else ⟨some q, c = '\\'⟩
  | none, _ => ⟨if c = '"' || c = '\'' then some c else none, false⟩

/-- Each character of a line with whether it is a blank outside quotes. -/
@[simp] def Reading.marks (r : Reading) : List Char → List (Char × Bool)
  | [] => []
  | c :: rest => (c, r.quote.isNone && (c = ' ' || c = '\t')) :: (r.next c).marks rest

/-- The kept characters, one space for each run of marked ones between them; `gap` is `none` before
the first kept character, else whether a run waits. -/
@[simp] def squeezeFrom : Option Bool → List (Char × Bool) → List Char
  | _, [] => []
  | gap, (_, true) :: rest => squeezeFrom (gap.map fun _ => true) rest
  | gap, (c, false) :: rest =>
    (if gap = some true then [' ', c] else [c]) ++ squeezeFrom (some false) rest

/-- A marked line with every run of marked characters cut to one space and the runs at either end
dropped. -/
def squeeze : List (Char × Bool) → List Char := squeezeFrom none

/-- The words of a splitter state joined with spaces, the word being read included. -/
def WordState.joined (s : WordState) : List Char :=
  [' '].intercalate (s.flush.words.toList.map String.toList)

/-- The state of `squeezeFrom` that a splitter state stands for. -/
def WordState.gap (s : WordState) : Option Bool :=
  if s.current.isEmpty then (if s.words.isEmpty then none else some true) else some false

theorem intercalate_cons_concat {α : Type} (sep a x : List α) (W : List (List α)) :
    sep.intercalate (a :: (W ++ [x])) = sep.intercalate (a :: W) ++ sep ++ x := by
  induction W generalizing a with
  | nil => simp
  | cons b W ih => simp [ih]

namespace WordState

/-! ### One step of the splitter -/

@[simp] theorem quote_flush (s : WordState) : s.flush.quote = s.quote := by
  unfold flush; split <;> rfl

@[simp] theorem joined_flush (s : WordState) : s.flush.joined = s.joined := by
  have hflush : s.flush.flush = s.flush := by unfold flush; split <;> simp_all
  simp [joined, hflush]

@[simp] theorem gap_flush (s : WordState) : s.flush.gap = s.gap.map fun _ => true := by
  unfold gap flush; split <;> simp_all; split <;> simp

/-- A character read into the word follows the text so far, behind a space after a blank. -/
@[simp] theorem joined_push (s : WordState) (c : Char) (q : Option Char) :
    { s with current := c :: s.current, quote := q }.joined =
      s.joined ++ (if s.gap = some true then [' ', c] else [c]) := by
  obtain ⟨⟨w⟩, cur, q0⟩ := s
  cases cur <;> cases w <;> simp [joined, gap, flush, intercalate_cons_concat]

@[simp] theorem gap_push (w : Array String) (c : Char) (cur : List Char) (q : Option Char) :
    (⟨w, c :: cur, q⟩ : WordState).gap = some false := by
  simp [gap]

theorem empty_not_mem_flush {s : WordState} (h : "" ∉ s.words) : "" ∉ s.flush.words := by
  unfold flush; split
  · exact h
  · simp_all

end WordState

/-! ### The whole line -/

/-- The splitter run from any state writes the text of that state and then the rest of the line
squeezed, when the rest does not end in an escape. -/
theorem joined_splitWordsFrom (cs : List Char) (s : WordState)
    (h : (cs.foldl Reading.next ⟨s.quote, false⟩).escaped = false) :
    [' '].intercalate ((splitWordsFrom cs s).toList.map String.toList) =
      s.joined ++ squeezeFrom s.gap (Reading.marks ⟨s.quote, false⟩ cs) := by
  fun_induction splitWordsFrom cs s with
  | case1 s => simp [WordState.joined]
  | case2 rest s q hq ih =>
    simp only [hq] at ih h ⊢
    simp at h
    simp [ih h]
  | case3 s q hq d rest hne ih =>
    simp only [hq] at ih h ⊢
    simp [hne] at h
    have hd := WordState.joined_push { s with current := '\\' :: s.current, quote := some q } d (some q)
    simp [ih h, hd, hne]
  | case4 s q hq hne ih =>
    simp [hq, hne] at h
  | case5 c rest s q hq hq' hc ih =>
    simp only [hq] at ih h ⊢
    simp [hq', hc] at h
    simp [ih h, hq', hc]
  | case6 c rest s hq hc ih =>
    simp only [hq] at ih h ⊢
    obtain rfl | rfl : c = '"' ∨ c = '\'' := by simpa using hc
    all_goals
      simp at h
      simp [ih h]
  | case7 c rest s hq hc hb ih =>
    simp only [hq, WordState.quote_flush] at ih h ⊢
    replace hc : ¬(c = '"' ∨ c = '\'') := by simpa using hc
    simp [hc] at h
    simp [ih h, hb, hc]
  | case8 c rest s hq hc hb ih =>
    simp only [hq] at ih h ⊢
    replace hc : ¬(c = '"' ∨ c = '\'') := by simpa using hc
    simp [hc] at h
    simp [ih h, hb, hc]

theorem splitWordsFrom_ne_empty (cs : List Char) (s : WordState) (h : "" ∉ s.words) :
    "" ∉ splitWordsFrom cs s := by
  fun_induction splitWordsFrom cs s <;> simp_all [WordState.empty_not_mem_flush]

/-- The words of a line joined with spaces are the line squeezed, and none is empty, unless the line
ends in a backslash inside quotes. -/
theorem splitWords_rejoin (s : String) (h : (s.toList.foldl Reading.next {}).escaped = false) :
    " ".intercalate (splitWords s) = String.ofList (squeeze (Reading.marks {} s.toList)) ∧
      "" ∉ splitWords s := by
  constructor
  · rw [← String.toList_inj, String.toList_intercalate, String.toList_ofList]
    simpa [splitWords, WordState.joined, WordState.gap, WordState.flush, squeeze] using
      joined_splitWordsFrom s.toList {} h
  · simpa [splitWords] using splitWordsFrom_ne_empty s.toList {} (by simp)

/-- Runs of spaces and a tab collapse, and a quoted stretch keeps its blanks and escaped quote. -/
theorem splitWords_rejoin_quoted :
    (" a  'b \\' c'\t\"d\"  ".toList.foldl Reading.next {}).escaped = false ∧
      (" ".intercalate (splitWords " a  'b \\' c'\t\"d\"  ") =
        String.ofList (squeeze (Reading.marks {} " a  'b \\' c'\t\"d\"  ".toList)) ∧
      "" ∉ splitWords " a  'b \\' c'\t\"d\"  ") :=
  have h : (" a  'b \\' c'\t\"d\"  ".toList.foldl Reading.next {}).escaped = false := by simp
  ⟨h, splitWords_rejoin _ h⟩

/-- A line ending in a backslash inside quotes loses it: `'a\` is the one word `'a`. -/
theorem splitWords_drops_trailing_escape :
    splitWords "'a\\" = ["'a"] ∧
      " ".intercalate (splitWords "'a\\") ≠ String.ofList (squeeze (Reading.marks {} "'a\\".toList)) :=
  ⟨by cbv, by cbv⟩

end PipeQuery.Command
