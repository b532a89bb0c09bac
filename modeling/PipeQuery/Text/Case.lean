import PipeQuery.Text.Classes
/-!
# Upper and lower case

The context-free full case mappings and case foldings of Unicode 14.0.0: runs
`⟨lo, hi, delta, step⟩` written as text (`CaseRun.ofText`), and the characters that map to several
(`ß` to `SS`) listed apart. A capital sigma that ends a word lowers to the final sigma.
-/

namespace PipeQuery.Text

/-- Every `step`-th code point from `lo` to `hi` maps to itself plus `delta`. -/
structure CaseRun where
  lo : Nat
  hi : Nat
  delta : Int
  step : Nat

/-- A signed distance written as a count: even counts go up, odd ones down. -/
def unzigzag (z : Nat) : Int :=
  if z % 2 = 0 then ((z / 2 : Nat) : Int) else -(((z + 1) / 2 : Nat) : Int)

/-- Runs from numbers taken four at a time. -/
def CaseRun.runsFrom (last : Nat) : List Nat → List CaseRun
  | d :: n :: z :: step :: rest =>
    ⟨last + d, last + d + n, unzigzag z, step⟩ :: runsFrom (last + d) rest
  | _ => []

def CaseRun.ofText (s : String) : Array CaseRun :=
  (CaseRun.runsFrom 0 (numerals s)).toArray

def CaseRun.apply? (runs : Array CaseRun) (c : Nat) : Option Nat :=
  runs.findSome? fun r =>
    if r.lo ≤ c ∧ c ≤ r.hi ∧ (c - r.lo) % r.step = 0 then some (Int.toNat (c + r.delta)) else none

/-- One-character upper-case mappings (Unicode 14.0.0); the tables below are of the same version. -/
def upperRuns : Array CaseRun := CaseRun.ofText <|
  "^R@^+!^E yC!R=^+!?(^+!) bA!#U!#W fF!#%!#)3!#6S!#V%!#& i&!! e1!$#!#& !!% !!( !!$ aG!% !!! d#!% bS!$%!#) !!& !!$ !!%#!#& !!% !!# _%!( !!! $!# !!! $!# !!! $!#3!#4 _X!#5!#8 !!! $!# !!%M!#Q5!#@ !!$!khE!$ !!&*!#+ kg9!! kg3!! kg7!! eP!! eH!#!eF!$ e@!# eB!! ^te9!% eF!! ^te1!# eJ!# ^tcY!! ^td[!# eN!! eR!! ^td[!! keW!! ^tdU!$ eR!# kf(!! eV!$ eX!* ke5!$ f$!# ^tdY!! f$!% ^td !! f$!! _D!!!f!!# _H!( f&!0 ^tc1!! ^tc(!a& a(!S#!#( !!%#bS!X ^<!!#^8!%5^+!6 ^)!!*^+!+ _8!!!_6!$ _4!! _&!% ^N!! ^]!! 4!#=!#> a+!! _Z!! 3!! b4!# aD!$ !!$ !!]F^+!G4_Z!6G!#Q[!#^!1!#2 D!#^O!#_KL^P!^v0Qas=!T#as=!l)&4!^h? esH!! esF!! es2!!!es+!# es0!! erZ!! epX!! ^kn*!b@ ^kpG!% bs3!6 ^krC!_)_O!#_U _+!(^O!#^P)5!5&5!5)5!5)5!5&5!6(5#4)5!5!_O!#$a.!%!aM!#!bO!#!b*!#!bK![!5!3 fxT!7!5!5!5!& 3!dL ^!!I4F!9 !!mI@Z!^b[V^P!X !!% kgR!! kgL!#%!#0 !!$ !!0^S!#^]#!#) !!2Lf|!!N f|!!( f|!!qb S!#^.A!#a 1!#5^(!#^6#!#&*!#2 !!&#!#$ ^Q!$7!#E3!#8#!#+ !!(#!#F !!mZ ^b8!D^@^o|<!ke8@^+!u2N^@!a3J^@!aD.^>!13^>!5(^>!*!^>!^a4Y_8!^xWF^+!kmYF^+!qi[H^2!"

def lowerRuns : Array CaseRun := CaseRun.ofText <|
  "^0@^.!_8=^.!?(^.!OU##Y%##)3##6S##U b@!!%##* eQ!!###% eI!! #!#!eG!# #!$ _Y!! eA!! eC!! #!# eG!! eK!# eS!! eO!! #!% eS!! eW!# eY!!%##( f%!! #!# f%!$ #!# f%!! #!#!f#!####% f(!! #!% #!* %!! #!# %!! #!# %!!5##85##8 %!!###% aF!! _$!!M##O bR!#5##? kgS!! #!# d!!! kgM!$ #!# e0!! _E!! _I!!*##cC###( #!+ b5!) ^=!##^9!% _9!#!_7!$5^.!7*^.!S 5!+=##C _0!$ #!# 2!! #!$#bR!$4_[!5F^.!^AG##Q[##^  E!!1##4^O##^RL^Q!^v0Lf|#!N f|#!( f|#!k<^@^o|=!^A&5!^hWQas<!T#as<!c]_O##_Y gj!!#^O##^Y)4!5&4!5)4!5)4!5&4!6(4#4)4!G)4!5)4!5)4!5!4!#!_N!# 6!1$a+!% 6!1!4!#!aL!3!4!#!b)!# 2!1!bN!#!bJ!# 6!cC gf<!% hh@!! hc]!) ^#!U4G!J #!m+@[!^bEV^Q!^Q #!# keV!! bs2!! ke4!$%##( kg2!! kf&!! kg8!! kg6!# #!$ #!+!khD!#^S##^]###) #!qc%S##^.A##a 1##5^(##^6###% ^kpF!!*##2 #!# ^tcX!$###(7##9 ^tdZ!! ^te8!! ^te0!! ^tdT!! ^tdZ!# ^tc&!! ^tc]!! ^tc0!! ^b9!!3##5 ^P!! ^tdX!! ^krB!!###+ #!(###F #!ku3@^.!u&N^A!a3J^A!aE.^?!13^?!5(^?!*!^?!^_SY_9!^yAF^.!kmYF^.!qiYH^3!"

def upperSpecial : Array (Nat × String) := #[
  (0xDF, "SS"), (0x149, "ʼN"), (0x1F0, "J\u030C"), (0x390, "Ι\u0308\u0301"),
  (0x3B0, "Υ\u0308\u0301"), (0x587, "ԵՒ"), (0x1E96, "H\u0331"), (0x1E97, "T\u0308"),
  (0x1E98, "W\u030A"), (0x1E99, "Y\u030A"), (0x1E9A, "Aʾ"), (0x1F50, "Υ\u0313"),
  (0x1F52, "Υ\u0313\u0300"), (0x1F54, "Υ\u0313\u0301"), (0x1F56, "Υ\u0313\u0342"), (0x1F80, "ἈΙ"),
  (0x1F81, "ἉΙ"), (0x1F82, "ἊΙ"), (0x1F83, "ἋΙ"), (0x1F84, "ἌΙ"),
  (0x1F85, "ἍΙ"), (0x1F86, "ἎΙ"), (0x1F87, "ἏΙ"), (0x1F88, "ἈΙ"),
  (0x1F89, "ἉΙ"), (0x1F8A, "ἊΙ"), (0x1F8B, "ἋΙ"), (0x1F8C, "ἌΙ"),
  (0x1F8D, "ἍΙ"), (0x1F8E, "ἎΙ"), (0x1F8F, "ἏΙ"), (0x1F90, "ἨΙ"),
  (0x1F91, "ἩΙ"), (0x1F92, "ἪΙ"), (0x1F93, "ἫΙ"), (0x1F94, "ἬΙ"),
  (0x1F95, "ἭΙ"), (0x1F96, "ἮΙ"), (0x1F97, "ἯΙ"), (0x1F98, "ἨΙ"),
  (0x1F99, "ἩΙ"), (0x1F9A, "ἪΙ"), (0x1F9B, "ἫΙ"), (0x1F9C, "ἬΙ"),
  (0x1F9D, "ἭΙ"), (0x1F9E, "ἮΙ"), (0x1F9F, "ἯΙ"), (0x1FA0, "ὨΙ"),
  (0x1FA1, "ὩΙ"), (0x1FA2, "ὪΙ"), (0x1FA3, "ὫΙ"), (0x1FA4, "ὬΙ"),
  (0x1FA5, "ὭΙ"), (0x1FA6, "ὮΙ"), (0x1FA7, "ὯΙ"), (0x1FA8, "ὨΙ"),
  (0x1FA9, "ὩΙ"), (0x1FAA, "ὪΙ"), (0x1FAB, "ὫΙ"), (0x1FAC, "ὬΙ"),
  (0x1FAD, "ὭΙ"), (0x1FAE, "ὮΙ"), (0x1FAF, "ὯΙ"), (0x1FB2, "ᾺΙ"),
  (0x1FB3, "ΑΙ"), (0x1FB4, "ΆΙ"), (0x1FB6, "Α\u0342"), (0x1FB7, "Α\u0342Ι"),
  (0x1FBC, "ΑΙ"), (0x1FC2, "ῊΙ"), (0x1FC3, "ΗΙ"), (0x1FC4, "ΉΙ"),
  (0x1FC6, "Η\u0342"), (0x1FC7, "Η\u0342Ι"), (0x1FCC, "ΗΙ"), (0x1FD2, "Ι\u0308\u0300"),
  (0x1FD3, "Ι\u0308\u0301"), (0x1FD6, "Ι\u0342"), (0x1FD7, "Ι\u0308\u0342"), (0x1FE2, "Υ\u0308\u0300"),
  (0x1FE3, "Υ\u0308\u0301"), (0x1FE4, "Ρ\u0313"), (0x1FE6, "Υ\u0342"), (0x1FE7, "Υ\u0308\u0342"),
  (0x1FF2, "ῺΙ"), (0x1FF3, "ΩΙ"), (0x1FF4, "ΏΙ"), (0x1FF6, "Ω\u0342"),
  (0x1FF7, "Ω\u0342Ι"), (0x1FFC, "ΩΙ"), (0xFB00, "FF"), (0xFB01, "FI"),
  (0xFB02, "FL"), (0xFB03, "FFI"), (0xFB04, "FFL"), (0xFB05, "ST"),
  (0xFB06, "ST"), (0xFB13, "ՄՆ"), (0xFB14, "ՄԵ"), (0xFB15, "ՄԻ"),
  (0xFB16, "ՎՆ"), (0xFB17, "ՄԽ")]

def lowerSpecial : Array (Nat × String) := #[
  (0x130, "i\u0307")]

/-- One-character title-case mappings where they differ from the upper case. -/
def titleRuns : Array CaseRun := CaseRun.ofText <|
  "f9 #!!  !! !!! #!!  !! !!! #!!  !! !!L #!!  !! !!_h@Q !T# !_fR)5!*) !*)5!*) !*)5!*) !0 7!+  !) 7!+  !N 7!+  !"

def titleSpecial : Array (Nat × String) := #[
  (0xDF, "Ss"), (0x587, "Եւ"), (0x1FB2, "Ὰ\u0345"), (0x1FB4, "Ά\u0345"),
  (0x1FB7, "Α\u0342\u0345"), (0x1FC2, "Ὴ\u0345"), (0x1FC4, "Ή\u0345"),
  (0x1FC7, "Η\u0342\u0345"), (0x1FF2, "Ὼ\u0345"), (0x1FF4, "Ώ\u0345"),
  (0x1FF7, "Ω\u0342\u0345"), (0xFB00, "Ff"), (0xFB01, "Fi"), (0xFB02, "Fl"), (0xFB03, "Ffi"),
  (0xFB04, "Ffl"), (0xFB05, "St"), (0xFB06, "St"), (0xFB13, "Մն"),
  (0xFB14, "Մե"), (0xFB15, "Մի"), (0xFB16, "Վն"),
  (0xFB17, "Մխ")]

/-- One-character case foldings where they differ from the lower case. -/
def foldRuns : Array CaseRun := CaseRun.ofText <|
  "a8 zM!aO gX!f= b5!_6 #!3 ^&!! X!% D!! R!A ^]!! ^P!% _8!_l4^F !^I&4!^h? er>!! er<!! er$!!!eq]!# er!!! eqP!! epV!! ^kn.!gT _)!c< fwJ!t_3^@^o|<!"

def foldSpecial : Array (Nat × String) := #[
  (0xDF, "ss"), (0x149, "ʼn"), (0x1F0, "j\u030C"), (0x390, "ι\u0308\u0301"),
  (0x3B0, "υ\u0308\u0301"), (0x587, "եւ"), (0x1E96, "h\u0331"), (0x1E97, "t\u0308"),
  (0x1E98, "w\u030A"), (0x1E99, "y\u030A"), (0x1E9A, "aʾ"), (0x1E9E, "ss"),
  (0x1F50, "υ\u0313"), (0x1F52, "υ\u0313\u0300"), (0x1F54, "υ\u0313\u0301"),
  (0x1F56, "υ\u0313\u0342"), (0x1F80, "ἀι"), (0x1F81, "ἁι"),
  (0x1F82, "ἂι"), (0x1F83, "ἃι"), (0x1F84, "ἄι"),
  (0x1F85, "ἅι"), (0x1F86, "ἆι"), (0x1F87, "ἇι"),
  (0x1F88, "ἀι"), (0x1F89, "ἁι"), (0x1F8A, "ἂι"),
  (0x1F8B, "ἃι"), (0x1F8C, "ἄι"), (0x1F8D, "ἅι"),
  (0x1F8E, "ἆι"), (0x1F8F, "ἇι"), (0x1F90, "ἠι"),
  (0x1F91, "ἡι"), (0x1F92, "ἢι"), (0x1F93, "ἣι"),
  (0x1F94, "ἤι"), (0x1F95, "ἥι"), (0x1F96, "ἦι"),
  (0x1F97, "ἧι"), (0x1F98, "ἠι"), (0x1F99, "ἡι"),
  (0x1F9A, "ἢι"), (0x1F9B, "ἣι"), (0x1F9C, "ἤι"),
  (0x1F9D, "ἥι"), (0x1F9E, "ἦι"), (0x1F9F, "ἧι"),
  (0x1FA0, "ὠι"), (0x1FA1, "ὡι"), (0x1FA2, "ὢι"),
  (0x1FA3, "ὣι"), (0x1FA4, "ὤι"), (0x1FA5, "ὥι"),
  (0x1FA6, "ὦι"), (0x1FA7, "ὧι"), (0x1FA8, "ὠι"),
  (0x1FA9, "ὡι"), (0x1FAA, "ὢι"), (0x1FAB, "ὣι"),
  (0x1FAC, "ὤι"), (0x1FAD, "ὥι"), (0x1FAE, "ὦι"),
  (0x1FAF, "ὧι"), (0x1FB2, "ὰι"), (0x1FB3, "αι"),
  (0x1FB4, "άι"), (0x1FB6, "α\u0342"), (0x1FB7, "α\u0342ι"),
  (0x1FBC, "αι"), (0x1FC2, "ὴι"), (0x1FC3, "ηι"),
  (0x1FC4, "ήι"), (0x1FC6, "η\u0342"), (0x1FC7, "η\u0342ι"),
  (0x1FCC, "ηι"), (0x1FD2, "ι\u0308\u0300"), (0x1FD3, "ι\u0308\u0301"),
  (0x1FD6, "ι\u0342"), (0x1FD7, "ι\u0308\u0342"), (0x1FE2, "υ\u0308\u0300"),
  (0x1FE3, "υ\u0308\u0301"), (0x1FE4, "ρ\u0313"), (0x1FE6, "υ\u0342"),
  (0x1FE7, "υ\u0308\u0342"), (0x1FF2, "ὼι"), (0x1FF3, "ωι"),
  (0x1FF4, "ώι"), (0x1FF6, "ω\u0342"), (0x1FF7, "ω\u0342ι"),
  (0x1FFC, "ωι"), (0xFB00, "ff"), (0xFB01, "fi"), (0xFB02, "fl"), (0xFB03, "ffi"),
  (0xFB04, "ffl"), (0xFB05, "st"), (0xFB06, "st"), (0xFB13, "մն"),
  (0xFB14, "մե"), (0xFB15, "մի"), (0xFB16, "վն"),
  (0xFB17, "մխ")]

def upperChar (c : Char) : String :=
  match upperSpecial.find? (·.1 == c.toNat) with
  | some (_, t) => t
  | none =>
    if c.toNat < 0x80 then c.toUpper.toString
    else match CaseRun.apply? upperRuns c.toNat with
      | some n => (Char.ofNat n).toString
      | none => c.toString

def lowerChar (c : Char) : String :=
  match lowerSpecial.find? (·.1 == c.toNat) with
  | some (_, t) => t
  | none =>
    if c.toNat < 0x80 then c.toLower.toString
    else match CaseRun.apply? lowerRuns c.toNat with
      | some n => (Char.ofNat n).toString
      | none => c.toString

def titleChar (c : Char) : String :=
  match titleSpecial.find? (·.1 == c.toNat) with
  | some (_, t) => t
  | none =>
    match CaseRun.apply? titleRuns c.toNat with
    | some n => (Char.ofNat n).toString
    | none => upperChar c

def foldChar (c : Char) : String :=
  match foldSpecial.find? (·.1 == c.toNat) with
  | some (_, t) => t
  | none =>
    match CaseRun.apply? foldRuns c.toNat with
    | some n => (Char.ofNat n).toString
    | none => lowerChar c

/-- The case folding of a text: the form in which texts that differ only in case are equal. -/
def casefold (s : String) : String :=
  String.join (s.toList.map foldChar)

def upper (s : String) : String :=
  String.join (s.toList.map upperChar)

/-- The lower case of `c` in context: a capital sigma ending a word becomes `ς`. -/
def lowerCharAt (before : List Char) (c : Char) (after : List Char) : String :=
  if c.toNat == 0x3A3 then (if endsWord before after then "ς" else "σ") else lowerChar c

def lowerAfter (before cs : List Char) : String :=
  go cs before ""
where
  go : List Char → List Char → String → String
    | [], _, out => out
    | c :: r, before, out =>
      go r (c :: before) (out ++ lowerCharAt before c r)

/-- A text in lower case, a capital sigma ending a word (`endsWord`) becoming the final sigma `ς`.
-/
def lower (s : String) : String :=
  lowerAfter [] s.toList

end PipeQuery.Text
