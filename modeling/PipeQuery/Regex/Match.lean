import PipeQuery.Regex.Parse
import PipeQuery.Text.Case
import PipeQuery.Text.Classes

/-!
# Regular expressions: matching

Backtracking in continuation style: `step` matches one node and hands the position and captures
to a continuation; when that fails it tries the node's next way, so the first match found is the
one a backtracking engine reports. Once a round of a repetition beyond the required ones matches
nothing, no further round is tried. Each call spends fuel; `Pattern.fuelFor` gives enough for any
match. `Pattern.findAll` takes matches that do not overlap, skipping an empty match right after an
empty one.
-/

namespace PipeQuery.Regex

/-- Where each group matched, by number: start and end, when the group took part. -/
abbrev Captures := Array (Option (Nat × Nat))

/-- The rest of a match, given the position reached and the captures. -/
abbrev Cont := Nat → Captures → Option (Nat × Captures)

/-- Characters that `\w` matches: letters, numerals and `_`, ASCII ones only under `ascii`. -/
def isWordChar (c : Char) : Bool :=
  Text.isAlnum c || c == '_'

def isAsciiWordChar (c : Char) : Bool :=
  ('a' ≤ c && c ≤ 'z') || ('A' ≤ c && c ≤ 'Z') || ('0' ≤ c && c ≤ '9') || c == '_'

def wordChar (ascii : Bool) (c : Char) : Bool :=
  if ascii then isAsciiWordChar c else isWordChar c

def ClassItem.hits (c : Char) : ClassItem → Bool
  | .char d => c == d
  | .range lo hi => lo ≤ c && c ≤ hi
  | .digit neg ascii => (if ascii then '0' ≤ c && c ≤ '9' else Text.isDecimalDigit c) != neg
  | .word neg ascii => wordChar ascii c != neg
  | .space neg ascii =>
    (if ascii then c == ' ' || (9 ≤ c.toNat && c.toNat ≤ 13) else Text.isBlank c) != neg

/-- Whether a class item holds the already folded `c` under a fold. -/
def ClassItem.holdsFolded (f : Fold) (c : Char) : ClassItem → Bool
  | .char d =>
    match f with
    | .unicode => if d.toNat < 0x10000 then (equivalents c).contains (lowerOf d) else c == d
    | .ascii => asciiLower d == c
    | .exact => c == d
  | .range lo hi =>
    match f with
    | .unicode =>
      ((equivalents c).any fun y =>
        (lowerPreimages y).any fun i => lo ≤ i && i ≤ hi && i.toNat < 0x10000) ||
      (hi.toNat ≥ 0x10000 &&
        ((lo ≤ c && c ≤ hi) || (lo ≤ upperOf c && upperOf c ≤ hi)))
    | .ascii =>
      (lo ≤ c && c ≤ hi) ||
        ('a' ≤ c && c ≤ 'z' && lo.toNat ≤ c.toNat - 32 && c.toNat - 32 ≤ hi.toNat)
    | .exact => lo ≤ c && c ≤ hi
  | item => item.hits c

def setMatches (neg : Bool) (items : List ClassItem) (f : Fold) (c : Char) : Bool :=
  let hit := match f with
    | .exact => items.any (·.hits c)
    | .unicode => items.any (·.holdsFolded .unicode (lowerOf c))
    | .ascii => items.any (·.holdsFolded .ascii (asciiLower c))
  hit != neg

structure Subject where
  text : Array Char

namespace Subject

variable (s : Subject)

def at? (i : Nat) : Option Char :=
  s.text[i]?

def wordAt (ascii : Bool) (i : Nat) : Bool :=
  match s.at? i with
  | some c => wordChar ascii c
  | none => false

def anchorHolds (n : Node) (i : Nat) : Bool :=
  let size := s.text.size
  match n with
  | .lineStart multi => i == 0 || (multi && s.at? (i - 1) == some '\n')
  | .lineEnd multi =>
    i == size || (multi && s.at? i == some '\n') || (i + 1 == size && s.at? i == some '\n')
  | .textStart => i == 0
  | .textEnd => i == size
  | .boundary neg ascii =>
    if size == 0 then false
    else
      let edge := (i > 0 && s.wordAt ascii (i - 1)) != s.wordAt ascii i
      edge != neg
  | _ => true

/-- Whether the text at `i` repeats the text from `a` to `b`, compared under a fold. -/
def repeatsAt (f : Fold) (a b i : Nat) : Bool :=
  i + (b - a) ≤ s.text.size &&
    (List.range (b - a)).all fun k =>
      match s.at? (a + k), s.at? (i + k) with
      | some x, some y => f.sameText y x
      | _, _ => false

end Subject

mutual

/-- Matches a node at position `i`, then the rest with `k`. -/
def step (s : Subject) : Nat → Node → Nat → Captures → Cont → Option (Nat × Captures)
  | 0, _, _, _, _ => none
  | fuel + 1, node, i, caps, k =>
    match node with
    | .empty => k i caps
    | .char c f =>
      match s.at? i with
      | some d => if f.same d c then k (i + 1) caps else none
      | none => none
    | .any dotAll =>
      match s.at? i with
      | some d => if dotAll || d != '\n' then k (i + 1) caps else none
      | none => none
    | .set neg items f =>
      match s.at? i with
      | some d => if setMatches neg items f d then k (i + 1) caps else none
      | none => none
    | .lineStart _ | .lineEnd _ | .textStart | .textEnd | .boundary .. =>
      if s.anchorHolds node i then k i caps else none
    | .group idx body =>
      step s fuel body i caps fun j c => k j (c.set! idx (some (i, j)))
    | .seq items => steps s fuel items i caps k
    | .alt branches => tryEach s fuel branches i caps k
    | .rep body lo hi .possessive => possessive s fuel body lo hi 0 i caps k
    | .rep body lo hi greed => loop s fuel body lo hi (greed == .greedy) 0 none i caps k
    | .ref idx f =>
      match caps[idx]? with
      | some (some (a, b)) => if s.repeatsAt f a b i then k (i + (b - a)) caps else none
      | _ => none
    | .look behind neg width body =>
      let startAt := if behind then i - width else i
      let found :=
        if behind && i < width then none
        else step s fuel body startAt caps fun j c =>
          if behind && j != i then none else some (j, c)
      match neg, found with
      | false, some (_, c) => k i c
      | false, none => none
      | true, some _ => none
      | true, none => k i caps
    | .atomic body =>
      match step s fuel body i caps fun j c => some (j, c) with
      | some (j, c) => k j c
      | none => none
    | .cond idx yes no =>
      match caps[idx]? with
      | some (some _) => step s fuel yes i caps k
      | _ => step s fuel no i caps k

def steps (s : Subject) : Nat → List Node → Nat → Captures → Cont → Option (Nat × Captures)
  | 0, _, _, _, _ => none
  | _ + 1, [], i, caps, k => k i caps
  | fuel + 1, n :: ns, i, caps, k =>
    step s fuel n i caps fun j c => steps s fuel ns j c k

def tryEach (s : Subject) : Nat → List Node → Nat → Captures → Cont → Option (Nat × Captures)
  | 0, _, _, _, _ => none
  | _ + 1, [], _, _, _ => none
  | fuel + 1, b :: bs, i, caps, k =>
    match step s fuel b i caps k with
    | some r => some r
    | none => tryEach s fuel bs i caps k

/-- Repeats a body, `count` rounds done, `lo` to `hi` in all; an empty optional round ends it. -/
def loop (s : Subject) : Nat → Node → Nat → Option Nat → Bool → Nat → Option Nat → Nat →
    Captures → Cont → Option (Nat × Captures)
  | 0, _, _, _, _, _, _, _, _, _ => none
  | fuel + 1, body, lo, hi, greedy, count, last, i, caps, k =>
    if count < lo then
      step s fuel body i caps fun j c => loop s fuel body lo hi greedy (count + 1) last j c k
    else
      let canMore := (match hi with
        | some h => count < h
        | none => true) && last != some i
      let more : Unit → Option (Nat × Captures) := fun _ =>
        if canMore then
          step s fuel body i caps fun j c => loop s fuel body lo hi greedy (count + 1) (some i) j c k
        else none
      if greedy then
        match more () with
        | some r => some r
        | none => k i caps
      else
        match k i caps with
        | some r => some r
        | none => more ()

/-- Repeats a body possessively, each round taking the body's first match, with no way back. -/
def possessive (s : Subject) : Nat → Node → Nat → Option Nat → Nat → Nat → Captures → Cont →
    Option (Nat × Captures)
  | 0, _, _, _, _, _, _, _ => none
  | fuel + 1, body, lo, hi, count, i, caps, k =>
    let round := step s fuel body i caps fun j c => some (j, c)
    if count < lo then
      match round with
      | some (j, c) => possessive s fuel body lo hi (count + 1) j c k
      | none => none
    else if hi.any (count ≥ ·) then k i caps
    else
      match round with
      | some (j, c) => if j == i then k j c else possessive s fuel body lo hi (count + 1) j c k
      | none => k i caps

end

structure Hit where
  start : Nat
  stop : Nat
  captures : Captures
  deriving Inhabited

namespace Hit

/-- The text a group matched (group `0` is the whole match), when it took part. -/
def group? (h : Hit) (text : Array Char) (n : Nat) : Option String :=
  if n == 0 then some (String.ofList (text.extract h.start h.stop).toList)
  else
    match h.captures[n]? with
    | some (some (a, b)) => some (String.ofList (text.extract a b).toList)
    | _ => none

end Hit

namespace Node

def size : Node → Nat
  | .group _ b | .atomic b | .look _ _ _ b | .rep b .. => b.size + 1
  | .seq items | .alt items => sizes items + 1
  | .cond _ yes no => yes.size + no.size + 1
  | _ => 1
where
  sizes : List Node → Nat
    | [] => 0
    | n :: ns => n.size + sizes ns

end Node

namespace Pattern

/-- Fuel enough for any match of the pattern on a text of `size` characters. -/
def fuelFor (re : Pattern) (size : Nat) : Nat :=
  8 * (size + 2) * (re.root.size + 2)

/-- A match that starts exactly at `start`, nonempty or whole when asked. -/
def matchFrom (re : Pattern) (text : Array Char) (start : Nat) (nonEmpty whole : Bool) : Option Hit :=
  let caps : Captures := Array.replicate (re.groups + 1) none
  let done : Cont := fun j c =>
    if (nonEmpty && j == start) || (whole && j != text.size) then none else some (j, c)
  (step ⟨text⟩ (re.fuelFor text.size) re.root start caps done).map
    fun (j, c) => { start, stop := j, captures := c }

/-- The leftmost match from `start` on; with `nonEmpty` an empty match at `start` does not count. -/
def searchFrom (re : Pattern) (text : Array Char) (start : Nat) (nonEmpty : Bool) : Option Hit :=
  let rec go : Nat → Nat → Option Hit
    | 0, _ => none
    | fuel + 1, i =>
      match re.matchFrom text i (nonEmpty && i == start) false with
      | some h => some h
      | none => if i < text.size then go fuel (i + 1) else none
  go (text.size + 1) start

def matchStart? (re : Pattern) (s : String) : Option Hit :=
  re.matchFrom s.toList.toArray 0 false false

def search? (re : Pattern) (s : String) : Option Hit :=
  re.searchFrom s.toList.toArray 0 false

def findAll (re : Pattern) (text : Array Char) (limit : Option Nat) : List Hit :=
  let rec go : Nat → Nat → Bool → List Hit
    | 0, _, _ => []
    | fuel + 1, start, afterEmpty =>
      match re.searchFrom text start afterEmpty with
      | some h => h :: go fuel h.stop (h.stop == h.start)
      | none => []
  let all := go (2 * text.size + 2) 0 false
  match limit with
  | some n => all.take n
  | none => all

end Pattern

end PipeQuery.Regex
