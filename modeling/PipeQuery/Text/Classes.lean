/-!
# Character classes

The Unicode 14.0.0 properties that the readers and the text functions test, each a sorted table
of code-point ranges, and quoted text, which escapes the characters that are not printable.
-/

/-!
## Character classes as sorted tables of code-point ranges

A Unicode property such as "is a letter" is stored as an array of closed intervals
`(lo, hi)` of code points, sorted and disjoint; the larger tables are written as steps between
code points (`RangeTable.ofSteps`) or as text (`RangeTable.ofText`). Membership is a binary search; the specification is the plain existential
`∃ r ∈ t, r.1 ≤ c ∧ c ≤ r.2` (`RangeTable.Covers`).
-/

namespace PipeQuery.Text

/-- The characters that write the numbers of tables written as text. -/
def numeralDigits : List Char :=
  " !#$%&()*+.0123456789<=>?@ABCDEFGHIJKLMNOPQRSTUVWXYZ[]^_abcdefghijklmnopqrstuvwxyz|~".toList

def numeralBase : Nat := 54

/-- The numbers written one after the other in a text, in the base of `numeralDigits`. -/
def numerals (s : String) : List Nat :=
  go s.toList 0
where
  go : List Char → Nat → List Nat
    | [], _ => []
    | c :: cs, acc =>
      let i := numeralDigits.idxOf c
      if i < numeralBase then (acc * numeralBase + i) :: go cs 0
      else go cs (acc * (numeralDigits.length - numeralBase) + (i - numeralBase) + 1)

/-- A sorted array of disjoint closed code-point intervals. -/
abbrev RangeTable := Array (Nat × Nat)

namespace RangeTable

/-- Intervals from numbers in pairs: the first code point's distance from `last`, then the length
less one. -/
def intervalsFrom (last : Nat) : List Nat → List (Nat × Nat)
  | d :: n :: rest => (last + d, last + d + n) :: intervalsFrom (last + d + n) rest
  | _ => []

def ofSteps (steps : List Nat) : RangeTable :=
  (intervalsFrom 0 steps).toArray

def ofText (s : String) : RangeTable :=
  (intervalsFrom 0 (numerals s)).toArray

/-- The code point `c` lies in one of the intervals of `t`. -/
def Covers (t : RangeTable) (c : Nat) : Prop :=
  ∃ r ∈ t.toList, r.1 ≤ c ∧ c ≤ r.2

def search (t : RangeTable) (c : Nat) (lo hi : Nat) : Bool :=
  if _h : lo < hi then
    let mid := (lo + hi) / 2
    match t[mid]? with
    | none => false
    | some (a, b) =>
      if c < a then search t c lo mid
      else if b < c then search t c (mid + 1) hi
      else true
  else false
termination_by hi - lo

def contains (t : RangeTable) (c : Nat) : Bool :=
  search t c 0 t.size

def hasChar (t : RangeTable) (c : Char) : Bool :=
  t.contains c.toNat

/-- A `true` answer of the search names an interval that holds `c`. -/
theorem covers_of_search {t : RangeTable} {c lo hi : Nat} (h : search t c lo hi = true) :
    t.Covers c := by
  induction lo, hi using search.induct t c with
  | case1 lo hi hlt mid hnone =>
    rw [search, dif_pos hlt] at h; simp_all [mid]
  | case2 lo hi hlt mid a b hsome hca ih =>
    rw [search, dif_pos hlt] at h; simp_all [mid]
  | case3 lo hi hlt mid a b hsome hca hbc ih =>
    have hnot : ¬ c < a := by omega
    rw [search, dif_pos hlt] at h; simp_all [mid]
  | case4 lo hi hlt mid a b hsome hca hbc =>
    refine ⟨(a, b), ?_, by omega, by omega⟩
    have := Array.mem_of_getElem? hsome
    simpa using this
  | case5 lo hi hlt =>
    rw [search, dif_neg hlt] at h; cases h

/-- `contains` never reports a code point outside every interval. -/
theorem covers_of_contains {t : RangeTable} {c : Nat} (h : t.contains c = true) :
    t.Covers c :=
  covers_of_search h

end RangeTable

/-!
## Blank characters

The blanks that split words and that trimming removes: the characters of bidirectional class
`WS`, `B` or `S` and those of category `Zs` (Unicode 14.0.0). The ASCII ones are tab, line
feed, vertical tab, form feed, carriage return, the four information separators and space.
-/

/-- Blank code points (Unicode 14.0.0). -/
def blankRanges : RangeTable := #[
  (0x9, 0xD), (0x1C, 0x20), (0x85, 0x85), (0xA0, 0xA0), (0x1680, 0x1680), (0x2000, 0x200A),
  (0x2028, 0x2029), (0x202F, 0x202F), (0x205F, 0x205F), (0x3000, 0x3000)]

def isBlank (c : Char) : Bool :=
  blankRanges.hasChar c

/-!
## Printable characters

A character is printable unless it is a control, format, surrogate, private-use or unassigned
code point, or a separator other than the plain space (Unicode 14.0.0). Quoted text writes every
other character as an escape.
-/

/-- Printable code points (Unicode 14.0.0). -/
def printableRanges : RangeTable := RangeTable.ofText <|
  "G^OJ0#k0$&&(# #8#e7#L$X$##^ +A&&7<#aD#V$^%$^U4^%$W$3#B$ #.(E.^8#_[#)$!$<#(# %$$*$!$$+ &!#%$?$##&&!$<#(#!#!#!$ #%&!$#% *$# *50##*###<#(#!#%$+####$ 5$$0*(###)$!$<#(#!#%$*$!$#*#&!#%$60!#&%##$%!# #!%!%#%0&%%##$$ ) 49(1###=#4$*###$*!##$ $$$+*<###=#+#%$*###$*!)!#$$+#!31###Y###&&4$@###6%>#*# $(% &&# #))+$#2^$&CM!# #%#># #=$%# #&$+$$H^6#J&M#J#3#1MaJ# ( $d[#$$(# #$$O#$$G#$$(# #$$3#^##$$^1$F%@)^F$&$iT#B%^I*<.>.821###!2^N$+)+)2#.)^I*Q(^40E#0&0& %P$%1R&@).%^)$^.#C$.)+)2$EY^=%U#_)+^&%3%^&*Q$.+Q(gV$&$L$&$)# # # #E$[#3#2$&#7$##*7>+U7!$A#1%G5G5_F&j3A.=^aD$F#d?(S# ( $^!*!4>.(#(#(#(#(#(#(#(#_6J@#^I2aZB0(^*#^F$^W(Q#^N#^D2U#p_?%^ .d><a<+aO(!# #%@^%%+)^!+^4+0)_)1D%^>#.&G#^ .2$+$^W@B0&$&$&.(#(#^&&_6$+)dxV2=&WcdDdP$^ZN(2%(@#%# #!#!#_56f1$]* HP)Y#7#$&%#_A&aB%&$&$&$#%(#(3!$0#@#7#!#3$2J_3(#&S%^H#1% WT_>C%W5B&J.D(Q(D#K&2R_X$+)J&J&N+Z10#3#(#!#.#3#(#!^3cO.<0)@&#P#*^5&$ #R#!% $=#^6+*X7#!(G%A( ^0^!&8$X#!()###C$#&+***^+HM&0.]%C$A(@*$2(^B^7^#Y3Y*T++c@E#P##$!^@N+P>@NB<=.^>&J.^)#%3?*+)[#6+M.^P#816#R^1(# #$#3#.)^%(+)$#)$!$<#(#!#%#+$!$#$ ) (($(%%_G^L#%F^6++a&]$LJ^31+)19^$)+^!A$3&=a?^&^V^C2)$ $)#!#D#!$0.+^6)$T$.C^6+^C3^7bW*#S#20C%F$<#2^9(#!#R% #!#*++)&#!#K#!#&*+cP?a= 5X3o%^X_##%1aH^pT^S3qS_m hQcgWhC*E#+&^A#+)D$&0^40+#(#9(7jP^K^W^9&^#*5^0%1!4auH+tXR*cmA$#(#!#c9U#7$+e6^jP^[(1%**+$$_y)T$=._)^)bD0M$^8+_$=^4_V82^G.?_C^E#^5#!$ $!$$#0# #(#^.#$$)#(#B#$#%# %(#d4$c<$j]5%#3r@Eb.(#5$(#!#%a[S%2$+&!cZE7^$( u)(#$#!#3#aI$4Q^<&+&!lE^2^>^(aH$#A#!# $ #+#$# # ) & # # ###!# $ # # # # #!# $$#(#$#$# #+#5(##%#5]!c!R&^T23$3#3#K0a0^$C3R&**!4&_Vp0(4%1%_)2^I*0& 50&^!++)N+D$!^@d422$%%%%(.C%.(&0+))+(._M#^ M+q&xi&H_nW*b&$anL4bp9^yAh!yXa^?lta1b>"

/-- The character is written as itself inside quoted text. -/
def isPrintable (c : Char) : Bool :=
  printableRanges.hasChar c

/-!
## Letters

The letters of Unicode 14.0.0: the code points of general category `Lu`, `Ll`, `Lt`, `Lm` or `Lo`.
A name of the query language starts with a letter or `_`.
-/

/-- Code points of the letter categories (Unicode 14.0.0). -/
def letterRanges : RangeTable := RangeTable.ofSteps [
  65, 25, 7, 25, 48, 0, 11, 0, 5, 0, 6, 22, 2, 30, 2, 457, 5, 11, 15, 4, 8, 0, 2, 0, 130, 4, 2, 1,
  3, 3, 2, 0, 7, 0, 2, 2, 2, 0, 2, 19, 2, 82, 2, 138, 9, 165, 2, 37, 3, 0, 7, 40, 72, 26, 5, 3, 46,
  42, 36, 1, 2, 98, 2, 0, 16, 1, 8, 1, 11, 2, 3, 0, 17, 0, 2, 29, 30, 88, 12, 0, 25, 32, 10, 1, 5,
  0, 6, 21, 5, 0, 10, 0, 4, 0, 24, 24, 8, 10, 6, 23, 2, 5, 18, 41, 59, 53, 4, 0, 19, 0, 8, 9, 16,
  15, 5, 7, 3, 1, 3, 21, 2, 6, 2, 0, 4, 3, 4, 0, 17, 0, 14, 1, 2, 2, 15, 1, 11, 0, 9, 5, 5, 1, 3,
  21, 2, 6, 2, 1, 2, 1, 2, 1, 32, 3, 2, 0, 20, 2, 17, 8, 2, 2, 2, 21, 2, 6, 2, 1, 2, 4, 4, 0, 19, 0,
  16, 1, 24, 0, 12, 7, 3, 1, 3, 21, 2, 6, 2, 1, 2, 4, 4, 0, 31, 1, 2, 2, 16, 0, 18, 0, 2, 5, 4, 2,
  2, 3, 4, 1, 2, 0, 2, 1, 4, 1, 4, 2, 4, 11, 23, 0, 53, 7, 2, 2, 2, 22, 2, 15, 4, 0, 27, 2, 3, 0, 3,
  1, 31, 0, 5, 7, 2, 2, 2, 22, 2, 9, 2, 4, 4, 0, 32, 1, 2, 1, 16, 1, 18, 8, 2, 2, 2, 40, 3, 0, 17,
  0, 6, 2, 9, 2, 25, 5, 6, 17, 4, 23, 2, 8, 2, 0, 3, 6, 59, 47, 2, 1, 13, 6, 59, 1, 2, 0, 2, 4, 2,
  23, 2, 0, 2, 9, 2, 1, 10, 0, 3, 4, 2, 0, 22, 3, 33, 0, 64, 7, 2, 35, 28, 4, 116, 42, 21, 0, 17, 5,
  5, 3, 4, 0, 4, 1, 8, 2, 5, 12, 13, 0, 18, 37, 2, 0, 6, 0, 3, 42, 2, 332, 2, 3, 3, 6, 2, 0, 2, 3,
  3, 40, 2, 3, 3, 32, 2, 3, 3, 6, 2, 0, 2, 3, 3, 14, 2, 56, 2, 3, 3, 66, 38, 15, 17, 85, 3, 5, 4,
  619, 3, 16, 2, 25, 6, 74, 7, 7, 8, 17, 14, 18, 15, 17, 15, 12, 2, 2, 16, 51, 36, 0, 5, 0, 68, 88,
  8, 4, 3, 33, 2, 0, 6, 69, 11, 30, 50, 29, 3, 4, 12, 43, 5, 25, 55, 22, 10, 52, 83, 0, 94, 46, 18,
  7, 55, 29, 14, 1, 11, 43, 27, 35, 42, 2, 11, 35, 3, 8, 8, 42, 3, 2, 42, 3, 2, 5, 2, 1, 4, 0, 6,
  191, 65, 277, 3, 5, 3, 37, 3, 5, 3, 7, 2, 0, 2, 0, 2, 0, 2, 30, 3, 52, 2, 6, 2, 0, 4, 2, 2, 6, 4,
  3, 3, 5, 5, 12, 6, 2, 2, 6, 117, 0, 14, 0, 17, 12, 102, 0, 5, 0, 3, 9, 2, 0, 4, 4, 7, 0, 2, 0, 2,
  0, 2, 3, 2, 10, 3, 3, 6, 4, 5, 0, 53, 1, 2684, 228, 7, 3, 4, 1, 13, 37, 2, 0, 6, 0, 3, 55, 8, 0,
  17, 22, 10, 6, 2, 6, 2, 6, 2, 6, 2, 6, 2, 6, 2, 6, 2, 6, 81, 0, 470, 1, 43, 4, 6, 1, 5, 85, 7, 2,
  2, 89, 2, 3, 6, 42, 2, 93, 18, 31, 49, 15, 513, 6591, 65, 22156, 68, 45, 3, 268, 4, 15, 11, 1, 21,
  46, 17, 30, 3, 69, 50, 8, 3, 102, 3, 63, 6, 1, 2, 0, 2, 4, 25, 15, 2, 2, 2, 3, 2, 22, 30, 51, 15,
  49, 63, 5, 4, 0, 2, 1, 12, 27, 11, 22, 26, 28, 8, 46, 29, 0, 17, 4, 2, 9, 11, 4, 2, 40, 24, 2, 2,
  7, 21, 22, 4, 0, 4, 49, 2, 0, 4, 1, 3, 4, 3, 0, 2, 0, 25, 2, 3, 10, 8, 2, 13, 5, 3, 5, 3, 5, 10,
  6, 2, 6, 2, 42, 2, 13, 7, 114, 30, 11171, 13, 22, 5, 48, 8453, 365, 3, 105, 39, 6, 13, 4, 6, 0, 2,
  9, 2, 12, 2, 4, 2, 0, 2, 1, 2, 1, 2, 107, 34, 362, 19, 63, 3, 53, 41, 11, 117, 4, 2, 134, 37, 25,
  7, 25, 12, 88, 4, 5, 3, 5, 3, 5, 3, 2, 36, 11, 2, 25, 2, 18, 2, 1, 2, 14, 3, 13, 35, 122, 390, 28,
  4, 48, 48, 31, 14, 19, 2, 7, 7, 37, 11, 29, 3, 35, 5, 7, 49, 157, 19, 35, 5, 35, 5, 39, 9, 51, 13,
  10, 2, 14, 2, 6, 2, 1, 2, 10, 2, 14, 2, 6, 2, 1, 68, 310, 10, 21, 11, 7, 25, 5, 2, 41, 2, 8, 70,
  5, 3, 0, 2, 43, 2, 1, 4, 0, 3, 22, 11, 22, 10, 30, 66, 18, 2, 1, 11, 21, 11, 25, 71, 55, 7, 1, 65,
  0, 16, 3, 2, 2, 2, 28, 43, 28, 4, 28, 36, 7, 2, 27, 28, 53, 11, 21, 11, 18, 14, 17, 111, 72, 56,
  50, 14, 50, 14, 35, 349, 41, 7, 1, 79, 28, 11, 0, 9, 21, 43, 17, 47, 20, 28, 22, 13, 52, 58, 1, 3,
  0, 14, 44, 33, 24, 27, 35, 30, 0, 3, 0, 9, 34, 4, 0, 13, 47, 15, 3, 22, 0, 2, 0, 36, 17, 2, 24,
  85, 6, 2, 0, 2, 3, 2, 14, 2, 9, 8, 46, 39, 7, 3, 1, 3, 21, 2, 6, 2, 1, 2, 4, 4, 0, 19, 0, 13, 4,
  159, 52, 19, 3, 21, 2, 31, 47, 21, 1, 2, 0, 185, 46, 42, 3, 37, 47, 21, 0, 60, 42, 14, 0, 72, 26,
  38, 6, 186, 43, 117, 63, 32, 7, 3, 0, 3, 7, 2, 1, 2, 23, 16, 0, 2, 0, 95, 7, 3, 38, 17, 0, 2, 0,
  29, 0, 11, 39, 8, 0, 22, 0, 12, 45, 20, 0, 19, 72, 264, 8, 2, 36, 18, 0, 50, 29, 113, 6, 2, 1, 2,
  37, 22, 0, 26, 5, 2, 1, 2, 31, 15, 0, 328, 18, 190, 0, 80, 921, 231, 195, 2637, 96, 16, 1070,
  4050, 582, 8634, 568, 8, 30, 18, 78, 18, 29, 19, 47, 17, 3, 32, 20, 6, 18, 689, 63, 129, 74, 6, 0,
  67, 12, 65, 1, 2, 0, 29, 6135, 9, 1237, 43, 8, 8936, 3, 2, 6, 2, 1, 2, 290, 46, 2, 18, 3, 9, 395,
  2309, 106, 6, 12, 4, 8, 8, 9, 5991, 84, 2, 70, 2, 1, 3, 0, 3, 1, 3, 3, 2, 11, 2, 0, 2, 6, 2, 64,
  2, 3, 3, 7, 2, 6, 2, 27, 2, 3, 2, 4, 2, 0, 4, 6, 2, 339, 3, 24, 2, 24, 2, 30, 2, 24, 2, 30, 2, 24,
  2, 30, 2, 24, 2, 30, 2, 24, 2, 7, 1845, 30, 482, 44, 11, 6, 17, 0, 322, 29, 19, 43, 1269, 6, 2, 3,
  2, 1, 2, 14, 2, 196, 60, 67, 8, 0, 1205, 3, 2, 26, 2, 1, 2, 0, 3, 0, 2, 9, 2, 3, 2, 0, 2, 0, 7, 0,
  5, 0, 2, 0, 2, 0, 2, 2, 2, 1, 2, 0, 3, 0, 2, 0, 2, 0, 2, 0, 2, 0, 2, 1, 2, 0, 3, 3, 2, 6, 2, 3, 2,
  3, 2, 0, 2, 9, 2, 16, 6, 2, 2, 4, 2, 16, 4421, 42719, 33, 4152, 8, 221, 3, 5761, 15, 7472, 3104,
  541, 1507, 4938]

def isLetter (c : Char) : Bool :=
  letterRanges.hasChar c

/-!
## Digits and numerals

Three nested classes of Unicode 14.0.0: decimal digits (`Nd`, in whole `0`…`9` blocks, so a
digit's value is its offset modulo ten), digits (with superscripts and the like) and numerals
(every code point with a numeric value).
-/

/-- Decimal digits, category `Nd` (Unicode 14.0.0). -/
def decimalRanges : RangeTable := RangeTable.ofSteps [
  48, 9, 1575, 9, 135, 9, 199, 9, 413, 9, 119, 9, 119, 9, 119, 9, 119, 9, 119, 9, 119, 9, 119, 9,
  119, 9, 119, 9, 97, 9, 119, 9, 71, 9, 279, 9, 71, 9, 1863, 9, 39, 9, 301, 9, 129, 9, 167, 9, 7, 9,
  183, 9, 87, 9, 135, 9, 7, 9, 35271, 9, 679, 9, 39, 9, 199, 9, 23, 9, 87, 9, 407, 9, 21271, 9,
  1415, 9, 2183, 9, 813, 9, 129, 9, 61, 9, 145, 9, 279, 9, 343, 9, 119, 9, 375, 9, 103, 9, 103, 9,
  423, 9, 103, 9, 759, 9, 247, 9, 71, 9, 19639, 9, 87, 9, 135, 9, 27765, 49, 2369, 9, 423, 9, 1623,
  9, 4759, 9]

/-- Digits: numeric type `Decimal` or `Digit`. -/
def digitRanges : RangeTable := RangeTable.ofSteps [
  48, 9, 121, 1, 6, 0, 1447, 9, 135, 9, 199, 9, 413, 9, 119, 9, 119, 9, 119, 9, 119, 9, 119, 9, 119,
  9, 119, 9, 119, 9, 119, 9, 97, 9, 119, 9, 71, 9, 279, 9, 71, 9, 720, 8, 1135, 9, 39, 9, 301, 9,
  129, 10, 166, 9, 7, 9, 183, 9, 87, 9, 135, 9, 7, 9, 1047, 0, 4, 5, 7, 9, 983, 8, 12, 8, 12, 8, 90,
  0, 11, 8, 2, 0, 631, 8, 2, 8, 2, 8, 32398, 9, 679, 9, 39, 9, 199, 9, 23, 9, 87, 9, 407, 9, 21271,
  9, 1415, 9, 1431, 3, 749, 9, 295, 8, 490, 8, 12, 9, 129, 9, 61, 9, 145, 9, 279, 9, 343, 9, 119, 9,
  375, 9, 103, 9, 103, 9, 423, 9, 103, 9, 759, 9, 247, 9, 71, 9, 19639, 9, 87, 9, 135, 9, 27765, 49,
  2369, 9, 423, 9, 1623, 9, 1959, 10, 2790, 9]

/-- Numerals: any numeric type. -/
def numericRanges : RangeTable := RangeTable.ofSteps [
  48, 9, 121, 1, 6, 0, 3, 2, 1442, 9, 135, 9, 199, 9, 413, 9, 119, 9, 5, 5, 109, 9, 119, 9, 119, 9,
  3, 5, 111, 12, 116, 9, 9, 6, 104, 9, 105, 6, 8, 18, 110, 9, 97, 9, 119, 9, 71, 19, 269, 9, 71, 9,
  720, 19, 882, 2, 240, 9, 7, 9, 23, 9, 301, 9, 129, 10, 166, 9, 7, 9, 183, 9, 87, 9, 135, 9, 7, 9,
  1047, 0, 4, 5, 7, 9, 199, 50, 3, 4, 727, 59, 79, 21, 631, 29, 1386, 0, 778, 0, 26, 8, 15, 2, 344,
  3, 139, 9, 31, 7, 2, 14, 33, 9, 40, 14, 326, 0, 126, 0, 935, 0, 803, 0, 4787, 0, 3, 0, 4, 0, 2, 0,
  84, 0, 47, 0, 8, 0, 2, 0, 41, 1, 31, 0, 9, 0, 37, 0, 99, 0, 404, 0, 66, 0, 35, 0, 2, 0, 2, 0, 468,
  0, 2, 2, 7, 0, 117, 3, 791, 0, 534, 0, 8, 0, 1409, 0, 132, 1, 13, 2, 2, 0, 1006, 0, 78, 0, 1158,
  0, 1844, 0, 1168, 0, 744, 0, 2568, 0, 934, 0, 2178, 0, 5, 0, 125, 0, 2289, 0, 37, 0, 6, 0, 44, 0,
  126, 0, 3882, 9, 189, 9, 321, 5, 155, 9, 39, 9, 199, 9, 23, 9, 87, 9, 407, 9, 19826, 0, 8, 0, 5,
  0, 58, 0, 31, 0, 2, 0, 42, 0, 1299, 9, 494, 44, 13, 56, 18, 1, 342, 26, 37, 3, 30, 0, 9, 0, 135,
  4, 203, 9, 943, 7, 26, 6, 40, 8, 76, 4, 23, 5, 161, 1, 3, 15, 3, 45, 65, 8, 53, 1, 31, 2, 76, 4,
  105, 7, 25, 7, 42, 6, 331, 5, 49, 9, 295, 30, 159, 9, 43, 3, 113, 6, 135, 29, 129, 9, 61, 9, 145,
  9, 8, 19, 252, 9, 343, 9, 119, 9, 375, 9, 103, 9, 103, 11, 421, 18, 94, 9, 759, 28, 228, 9, 71, 9,
  535, 20, 1068, 110, 17906, 9, 87, 9, 135, 9, 2, 6, 799, 22, 25674, 19, 109, 24, 1110, 49, 2369, 9,
  423, 9, 1486, 8, 129, 9, 792, 58, 2, 2, 2, 3, 77, 44, 2, 14, 963, 12, 2788, 9, 1032, 0, 99, 0,
  126, 0, 63, 0, 2057, 0, 89, 0, 9, 0, 16, 0, 334, 0, 19, 0, 28, 0, 6263, 0, 1544, 0, 4483, 0,
  10066, 0, 38435, 0]

def isDecimalDigit (c : Char) : Bool :=
  decimalRanges.hasChar c

def isDigitChar (c : Char) : Bool :=
  digitRanges.hasChar c

def isNumeral (c : Char) : Bool :=
  numericRanges.hasChar c

/-- A letter or a numeral: the characters that continue a name. -/
def isAlnum (c : Char) : Bool :=
  isLetter c || isNumeral c

/-!
## Cased and case-ignorable characters

The properties that decide whether a capital sigma lowers to `ς` (at the end of a word) or `σ`,
and the three kinds of cased characters that the case tests of a text count (Unicode 14.0.0).
-/

/-- Cased code points: lower case, upper case or title case (Unicode 14.0.0, as the tables below).
-/
def casedRanges : RangeTable := RangeTable.ofText <|
  "^0@)@W 0 & (=#E#aG#$&aT#J*!F%^R R$$!$$# ) ### #8#^C#_E+a$#L.O^tGL# ( $Q$#j@^F$&^h8**Q$#^0aD^0c)$&$L$&$)# # # #E$[#(# %##(%$$&&1(##(_+ 3 61^W & $+# %%) # # #$#&& $$(%& 7F%!m*Z^aHb1)$%!2L# ( qa]T8D_@^V%$#^%(!# #%C!##m1Q#1*^@jmN(2%q*@)@t#^@^RJ&J_+.#3#(#!#.#3#(#!f9 $##P#*tIY3Y^w9^+klP^+n^0^E#^5#!$ $!$$#0# #(#^.#$$)#(#B#$#%# %(#d4$?#?#E#?#E#?#E#?#E#?#)^b++#8^nU^2^eF@)@)@"

/-- Case-ignorable code points: marks, format characters, modifiers, and apostrophes and periods in
words. -/
def caseIgnorableRanges : RangeTable := RangeTable.ofText <|
  "N ) 1 K # ^7 & # & $!g7aD&!& .!# bK(aU ( YS# #!#!# T 1&0.# K 096 ^W)#+#$I # FA^M.^&.& $ @>S#T *!))Q^$^# # &)& %(0!3 5 ^& &$+ <!B $!^% &!&!$#% F!% 1!^% &%#!& <!>&# ^& $ #$+ *!1!F ^* 2 Z % ^# ##(##$*!1!E ^& $ ) (!<!D!^%!&$+ <!E ^8 *## ^L $(1*^T $*. #&^<!C # # ^#2#%#!(.#J. ^X$#&#!$!A!&#6$3 $!) 5 ^P i4#oD#E!F!F!^0!#(+ $.% ( U%[ ^1!J _0#&!. )#b%!$ ^& #(# # $))+$ O +EY$X #%# ( P*2!H$$!##^$ #!% ##^&)$!^0&^D##1#(& ) %!Z^*3 J^Uf3 ##1#3#3#3!2%+!0 $ $%Y%#+# 3 61[G^vO!_(#_7 5 ^RFW fM L$%%( ^O&^O#onJ u+&c! ^T$#+# D$^B!4H^@ ?#^Y#%!+ % & A!( _S!B63 N)A.V#X $$$!7 =!^2&$!$!2 + K 1 [ ##$!(!# C 4!(!# ^V%.#_3 $ & jm> _O5hI4% 24J $ a* * ) 1 K # W U!^3 =#gC b0 _Q%q%&#P#*hR##!($P#& a%!hI$e.!_U.Y$_5 ^!3Q $!0#Y$$!$ & 0 Z#L%#)^+ 2!]*0$$ ^Q#$ #!) _] %)=!^%!% M(%%aI)$## ? ^F&# &!#!b>$)!#!C!^G)$ #!^] # $&# ^W#$$#%bS*#!bP!# & _L$$!& H+P&$$+ .&$#V1#!eD(#&# ^D<$(#!#!_4&% #!#(# ^8!% # d?!ahK*fq=%^((.$q. ^.5^0!#!haI$#(#!^|T!#$_y$T$=h&#.4$(F$_P#^dK^ &X+ 4 >%#3w0(#5$(#!#%bU2dT ^*$yV(_#)^rK%nehA F^P_<b>"

def isCased (c : Char) : Bool :=
  casedRanges.hasChar c

def isCaseIgnorable (c : Char) : Bool :=
  caseIgnorableRanges.hasChar c

/-- A capital sigma ends a word when, skipping case-ignorable characters, a cased character stands
before it and none after (`before` nearest first). -/
def endsWord (before after : List Char) : Bool :=
  match before.dropWhile isCaseIgnorable with
  | c :: _ =>
    isCased c &&
      match after.dropWhile isCaseIgnorable with
      | d :: _ => !isCased d
      | [] => true
  | [] => false

/-- Upper-case code points: the property `Uppercase`. -/
def upperRanges : RangeTable := RangeTable.ofText <|
  "^0@^W=#(I # # # # # # # # # # # # # # # # # # # # # # # # # # # $ # # # # # # # $ # # # # # # # # # # # # # # # # # # # # # # #!# # %!# #!##$$#!##%!#!# # #!# $ #!### #!% * $ $ $ # # # # # # # $ # # # # # # # # $ $ ### # # # # # # # # # # # # # # # # # # # # # # # # # # # # *!#!$ #$# # # # c9 # % + ) ### #!#5#*K $#% # # # # # # # # # # # ( $ #!$YX # # # # # # # # # # # # # # # # . # # # # # # # # # # # # # # # # # # # # # # # # # # #!# # # # # # $ # # # # # # # # # # # # # # # # # # # # # # # # # # # # # # # # # # # # # # # # # # # # # # # $L^uCL# ( k<^F^hRQ$#cZ # # # # # # # # # # # # # # # # # # # # # # # # # # # # # # # # # # # # # # # # # # # # # # # # # # # # # # # # # # # # # # # # # # # # # # # # # # . # # # # # # # # # # # # # # # # # # # # # # # # # # # # # # # # # # # # # # # # # # # # # # # # .)+&0)+)+&1 # # # +)^8$2$2$2%1$bV & %#$#$ %%) # # #$$$0!( B49 m+@^b&VX ##$ # # #$# $ +## # # # # # # # # # # # # # # # # # # # # # # # # # # # # # # # # # # # # # # # # # # # # # # # # + # & qc% # # # # # # # # # # # # # # # # # # # # # # 9 # # # # # # # # # # # # # _C # # # # # # % # # # # # # # # # # # # # # # # # # # # # # # # # # # # # # 0 # #!# # # # & # $ # % # # # # # # # # # #%#%# # # # # # # #$# ) ( # D ku3@tIN_DJ_X.#3#(#!^_RY^xEFkm8Fn^R@B@B@B #!$ $!$$#)B@B!#$$)#(C!#$#%# %(C@B@B@B@B@B@F?I?I?I?I?I _sGH^f0@)@)@"

/-- Lower-case code points: the property `Lowercase`. -/
def lowerRanges : RangeTable := RangeTable.ofText <|
  "^R@W 0 & L>#)# # # # # # # # # # # # # # # # # # # # # # # # # # # #!# # # # # # # #!# # # # # # # # # # # # # # # # # # # # # # # $ # ##$ # $ %!& $ %#$ $ # # $ #!# $ % # $!$#) $ $ # # # # # # # #!# # # # # # # # #!$ # % # # # # # # # # # # # # # # # # # # # # # # # # # # # # #($ $!# & # # # #^3#J*!F%^R S # % $$8 CI#!%## # # # # # # # # # # #%# $ $![V# # # # # # # # # # # # # # # # # . # # # # # # # # # # # # # # # # # # # # # # # # # # $ # # # # # #!# # # # # # # # # # # # # # # # # # # # # # # # # # # # # # # # # # # # # # # # # # # # # # # # XO^uAQ$#l&&^h8*_1aD^1 # # # # # # # # # # # # # # # # # # # # # # # # # # # # # # # # # # # # # # # # # # # # # # # # # # # # # # # # # # # # # # # # # # # # # # # # # #*# # # # # # # # # # # # # # # # # # # # # # # # # # # # # # # # # # # # # # # # # # # # # # # # #*+&0)+)+&0)+)+2$)+)+)+%#!) %##!+$$!+)0##!_3 3 61_# %!% C & & $!+$& I4& mI@^bBV# %!# # # & #!#)% # # # # # # # # # # # # # # # # # # # # # # # # # # # # # # # # # # # # # # # # # # # # # # # # #!* # & 2L# ( qb  # # # # # # # # # # # # # # # # # # # # # # 9 # # # # # # # # # # # # ##_A # # # # # ### # # # # # # # # # # # # # # # # # # # # # # # # # # # # # #+# # $ # # # # & # $ ### # # # # # # # # # ( ( # # # # # # # & # ) # # # # D ##m1Q#1*^@jmN(2%qO@tQN_DJ_W.#3#(#!f9 $##P#*uSY^w[Fkm8Fn^L@B(#6B@B$# #(#.B@B@B@B@B@B@B@B@BBD?#&B?#&B?#&B?#&B?#&# ^b++#8^oAH"

/-- Title-case code points: the category `Lt`. -/
def titleRanges : RangeTable := RangeTable.ofText <|
  "f< $ $ N br3)+)+)2 5 W "

def isUpperCase (c : Char) : Bool :=
  upperRanges.hasChar c

def isLowerCase (c : Char) : Bool :=
  lowerRanges.hasChar c

def isTitleCase (c : Char) : Bool :=
  titleRanges.hasChar c

/-!
## Quoted text

A text as error messages and printed syntax trees quote it: between single quotes, or double
quotes when it holds only single ones, with the backslash, the quote and unprintable characters
escaped.
-/

/-- Lower-case hexadecimal digits of `n`, padded with zeros to `width`. -/
def hexPadded (width n : Nat) : String :=
  let ds := Nat.toDigits 16 n
  String.ofList (List.replicate (width - ds.length) '0' ++ ds)

def codeEscape (c : Char) : String :=
  let n := c.toNat
  if n < 0x100 then "\\x" ++ hexPadded 2 n
  else if n < 0x10000 then "\\u" ++ hexPadded 4 n
  else "\\U" ++ hexPadded 8 n

def quotedChar (q : Char) (c : Char) : String :=
  if c = q || c = '\\' then String.ofList ['\\', c]
  else if c = '\t' then "\\t"
  else if c = '\n' then "\\n"
  else if c = '\r' then "\\r"
  else if isPrintable c then c.toString
  else codeEscape c

/-- The quote that delimits `s`: double only if `s` holds a single quote and no double quote. -/
def quoteFor (s : String) : Char :=
  if s.contains '\'' && !s.contains '"' then '"' else '\''

def quote (s : String) : String :=
  let q := quoteFor s
  q.toString ++ String.join (s.toList.map (quotedChar q)) ++ q.toString

/-- A text with each character outside ASCII escaped as the shortest of `\xhh`, `\uhhhh`,
`\Uhhhhhhhh`. -/
def asciiEscaped (s : String) : String :=
  String.join (s.toList.map fun c =>
    let n := c.toNat
    if n < 128 then c.toString
    else if n < 256 then "\\x" ++ hexPadded 2 n
    else if n < 65536 then "\\u" ++ hexPadded 4 n
    else "\\U" ++ hexPadded 8 n)

end PipeQuery.Text
