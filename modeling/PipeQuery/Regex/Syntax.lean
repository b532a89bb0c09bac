import PipeQuery.Text.Case
import PipeQuery.Text.Classes

/-!
# Patterns and case folding

The syntax tree of a compiled pattern, and how a pattern that ignores case compares characters.
-/

/-!
## Comparing characters without regard to case

A pattern that ignores case compares the first characters of the full lower-case mappings (so
`İ` lowers to `i`), and equates a few lower-case letters that share an upper case (`s` and `ſ`,
the two sigmas, … : `equivalents`); under ASCII rules only `A` to `Z` are lowered. A class with a
cased member holds the lower cases of its members.
-/

namespace PipeQuery.Regex

inductive Fold
  | exact
  /-- by Unicode lower case, with the equated letters -/
  | unicode
  | ascii
  deriving Repr, Inhabited, DecidableEq

def lowerOf (c : Char) : Char :=
  (Text.lowerChar c).toList.headD c

def upperOf (c : Char) : Char :=
  (Text.upperChar c).toList.headD c

def asciiLower (c : Char) : Char :=
  if 'A' ≤ c && c ≤ 'Z' then Char.ofNat (c.toNat + 32) else c

def isCased (c : Char) : Bool :=
  lowerOf c != c || upperOf c != c

def isAsciiCased (c : Char) : Bool :=
  ('a' ≤ c && c ≤ 'z') || ('A' ≤ c && c ≤ 'Z')

/-- Code points that have another case (Unicode 14.0.0). -/
def caseChangingRanges : Text.RangeTable := Text.RangeTable.ofText <|
  "^0@)@^& 0=#E#^+#^D#1#2$2$!# &^M#6)A#!# #!%!# #!#%$ #!$ * $ #!%&( 0!a& R$$!%## ) ### #8#U%G#%#_?+" ++
  "a$#L0M^tHL# ( $Q$#j@^F$&^h8**Q$#a? % 6 _(_V$ #_+$&$L$&$)# # # #E$[#(# %##(%$$&&1(##(cC %!) C 7F%" ++
  "!m*Z^aH_%#!#!*^V*$%!2L# ( qa]T8B_B2$^).3%#$%#?#A(!&$C!mZ D^@jmN(2%q*@)@t#^@^RJ&J_+.#3#(#!#.#3#(#" ++
  "!^_%Y3Y^w9^+klP^+qhP^2"

def rangeHasCased (lo hi : Nat) : Bool :=
  caseChangingRanges.any fun (a, b) => a ≤ hi && lo ≤ b

/-- Lower-case letters that share an upper case, and so match one another when case is ignored. -/
def equivalenceClasses : List (List Nat) :=
  [[0x69, 0x131], [0x73, 0x17F], [0xB5, 0x3BC], [0x345, 0x3B9, 0x1FBE], [0x390, 0x1FD3],
    [0x3B0, 0x1FE3], [0x3B2, 0x3D0], [0x3B5, 0x3F5], [0x3B8, 0x3D1], [0x3BA, 0x3F0],
    [0x3C0, 0x3D6], [0x3C1, 0x3F1], [0x3C2, 0x3C3], [0x3C6, 0x3D5], [0x432, 0x1C80],
    [0x434, 0x1C81], [0x43E, 0x1C82], [0x441, 0x1C83], [0x442, 0x1C84, 0x1C85], [0x44A, 0x1C86],
    [0x463, 0x1C87], [0x1C88, 0xA64B], [0x1E61, 0x1E9B], [0xFB05, 0xFB06]]

def equivalents (x : Char) : List Char :=
  match equivalenceClasses.find? (·.contains x.toNat) with
  | some cls => x :: (cls.filter (· != x.toNat)).map Char.ofNat
  | none => [x]

def lowerPreimages (y : Char) : List Char :=
  let self := if lowerOf y == y then [y] else []
  let ascii := if 'a' ≤ y && y ≤ 'z' then [Char.ofNat (y.toNat - 32)] else []
  let dotted := if y == 'i' then [Char.ofNat 0x130] else []
  let runs := Text.lowerRuns.toList.filterMap fun r =>
    let i : Int := y.toNat - r.delta
    if r.lo ≤ i && i ≤ r.hi && (i.toNat - r.lo) % r.step == 0 then some (Char.ofNat i.toNat)
    else none
  self ++ ascii ++ dotted ++ runs.filter (lowerOf · == y)

/-- Whether two characters match under a fold (the second a pattern's literal). -/
def Fold.same (f : Fold) (c d : Char) : Bool :=
  match f with
  | .exact => c == d
  | .unicode => (equivalents (lowerOf d)).contains (lowerOf c)
  | .ascii => asciiLower c == asciiLower d

/-- Whether two characters of a text match under a fold, as a back-reference compares them. -/
def Fold.sameText (f : Fold) (c d : Char) : Bool :=
  match f with
  | .exact => c == d
  | .unicode => lowerOf c == lowerOf d
  | .ascii => asciiLower c == asciiLower d

/-!
## Regular expressions: syntax

A pattern is a tree of nodes: characters, classes, anchors, groups (numbered from 1, perhaps
named), sequences, alternatives, repetitions, back-references, look-around, atomic groups and
conditionals. Flags are settled while reading, so each node carries the ones that concern it.
-/

inductive ClassItem
  | char (c : Char)
  | range (lo hi : Char)
  /-- `\d` (or `\D` when negated): decimal digits; ASCII ones only under `ascii`. -/
  | digit (neg : Bool) (ascii : Bool)
  /-- `\w` (or `\W`): letters, numerals and `_`; ASCII ones only under `ascii`. -/
  | word (neg : Bool) (ascii : Bool)
  /-- `\s` (or `\S`): blanks; ASCII ones only under `ascii`. -/
  | space (neg : Bool) (ascii : Bool)
  deriving Repr, Inhabited, DecidableEq

/-- How a repetition picks its rounds: most first, fewest first, or most with no way back. -/
inductive Greed
  | greedy
  | lazy
  | possessive
  deriving Repr, Inhabited, DecidableEq

inductive Node
  | empty
  | char (c : Char) (fold : Fold)
  /-- `.`, which takes a line break only under `dotAll`. -/
  | any (dotAll : Bool)
  /-- A class; under a fold other than `exact` it is tested on the folded character. -/
  | set (neg : Bool) (items : List ClassItem) (fold : Fold)
  /-- `^`; at every line start under `multiline`. -/
  | lineStart (multiline : Bool)
  /-- `$`; at every line end under `multiline`. -/
  | lineEnd (multiline : Bool)
  | textStart
  | textEnd
  /-- `\b` (or `\B` when negated) -/
  | boundary (neg : Bool) (ascii : Bool)
  | group (index : Nat) (body : Node)
  | seq (items : List Node)
  | alt (branches : List Node)
  | rep (body : Node) (lo : Nat) (hi : Option Nat) (greed : Greed)
  /-- A reference to what group `index` matched, compared under a fold. -/
  | ref (index : Nat) (fold : Fold)
  /-- `(?=…)`, `(?!…)`, `(?<=…)`, `(?<!…)`; a look-behind knows its fixed width. -/
  | look (behind : Bool) (neg : Bool) (width : Nat) (body : Node)
  /-- `(?>…)`: once the body has matched, the match is never reconsidered. -/
  | atomic (body : Node)
  /-- `(?(n)yes|no)`: `yes` when group `n` has matched, else `no`. -/
  | cond (index : Nat) (yes : Node) (no : Node)
  deriving Repr, Inhabited

/-- A compiled pattern: its tree, its count of groups, and the named ones. -/
structure Pattern where
  root : Node
  groups : Nat
  names : List (String × Nat)
  deriving Repr, Inhabited

inductive Failure
  /-- A malformed pattern or replacement: what is wrong and, when known, where. -/
  | malformed (message : String) (pos : Option Nat)
  | tooLarge
  | unknownGroup (name : String)
  /-- Flags that cannot go together, or not with a text pattern. -/
  | flagConflict (message : String)
  deriving Repr, Inhabited

/-- The text of a failure for `source`: `at position p`, with line and column when `source` has
several lines. -/
def Failure.describe (source : String) : Failure → String
  | .malformed msg none => msg
  | .malformed msg (some pos) =>
    let before := source.toList.take pos
    if source.contains '\n' then
      let line := (before.filter (· == '\n')).length + 1
      let column := (before.reverse.takeWhile (· != '\n')).length + 1
      s!"{msg} at position {pos} (line {line}, column {column})"
    else s!"{msg} at position {pos}"
  | .tooLarge => "the repetition number is too large"
  | .flagConflict msg => msg
  | .unknownGroup name => s!"unknown group name '{name}'"

end PipeQuery.Regex
