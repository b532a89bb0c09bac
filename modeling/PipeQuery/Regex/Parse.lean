import PipeQuery.Regex.Syntax
import PipeQuery.Text.CharName
import PipeQuery.Text.Classes
import PipeQuery.Text.Numeral

/-!
# Regular expressions: reading a pattern

The usual pattern language: classes, escapes (also `\N{name}`), groups named and unnamed,
back-references, look-around, atomic groups, conditionals, comments and repetition (greedy, lazy,
possessive), with the flags `i m s x a u`, global at the start or scoped to a group. A malformed
pattern is refused with what is wrong and its position, e.g. `nothing to repeat at position 0`.
A `{` that does not begin a bound stands for itself.
-/

namespace PipeQuery.Regex

/-- The largest repetition count plus one; also the width that stands for "unbounded". -/
def maxRepeat : Nat := 4294967295

/-- The fewest and the most characters a part of a pattern can match, capped at `maxRepeat`. -/
abbrev Width := Nat × Nat

structure Flags where
  ignoreCase : Bool := false
  multiline : Bool := false
  dotAll : Bool := false
  verbose : Bool := false
  ascii : Bool := false
  deriving Inhabited, Repr

structure Reader where
  pos : Nat := 0
  groups : Nat := 0
  names : List (String × Nat) := []
  /-- the closed groups, with their widths -/
  widths : List (Nat × Width) := []
  flags : Flags := {}
  /-- the template flag, which refuses every repetition -/
  template : Bool := false
  /-- the number of groups opened before the outermost look-behind being read -/
  behindFrom : Option Nat := none
  /-- the groups that conditionals name, with the position of each name -/
  condRefs : List (Nat × Nat) := []
  /-- problems found only when the pattern is built, with the position of the part at fault -/
  late : List (Nat × String) := []
  /-- the flags for the whole pattern that ask for ASCII and for Unicode classes -/
  askedAscii : Bool := false
  askedUnicode : Bool := false

/-- Reading a pattern: the reader's state, and a failure when the pattern is malformed. -/
abbrev Parse := StateT Reader (Except Failure)

section Reading

variable (pat : Array Char)

def peek : Parse (Option Char) := do
  return pat[(← get).pos]?

def bump : Parse Unit :=
  modify fun r => { r with pos := r.pos + 1 }

def here : Parse Nat := do
  return (← get).pos

def failAt {α : Type} (msg : String) (pos : Nat) : Parse α :=
  throw (.malformed msg (some pos))

def accept (c : Char) : Parse Bool := do
  if (← peek pat) == some c then
    bump
    return true
  else return false

def takeWhile (p : Char → Bool) : Nat → Parse String
  | 0 => pure ""
  | n + 1 => do
    match ← peek pat with
    | some c =>
      if p c then
        bump
        return c.toString ++ (← takeWhile p n)
      else return ""
    | none => return ""

end Reading

def isHexDigit (c : Char) : Bool :=
  ('0' ≤ c && c ≤ '9') || ('a' ≤ c && c ≤ 'f') || ('A' ≤ c && c ≤ 'F')

def isOctDigit (c : Char) : Bool :=
  '0' ≤ c && c ≤ '7'

def isAsciiDigit (c : Char) : Bool :=
  '0' ≤ c && c ≤ '9'

def isAsciiLetter (c : Char) : Bool :=
  ('a' ≤ c && c ≤ 'z') || ('A' ≤ c && c ≤ 'Z')

def digitsIn (base : Nat) (s : String) : Nat :=
  s.foldl (fun n c =>
    let d := if '0' ≤ c && c ≤ '9' then c.toNat - '0'.toNat
      else if 'a' ≤ c && c ≤ 'f' then c.toNat - 'a'.toNat + 10
      else c.toNat - 'A'.toNat + 10
    n * base + d) 0

/-- The characters that the escapes `\a \f \n \r \t \v \\` stand for. -/
def controlEscape (c : Char) : Option Char :=
  match c with
  | 'a' => some (Char.ofNat 7)
  | 'f' => some (Char.ofNat 12)
  | 'n' => some '\n'
  | 'r' => some '\r'
  | 't' => some '\t'
  | 'v' => some (Char.ofNat 11)
  | '\\' => some '\\'
  | _ => none

/-- The classes that `\d \D \w \W \s \S` stand for, ASCII-only under `ascii`. -/
def categoryEscape (ascii : Bool) (c : Char) : Option ClassItem :=
  match c with
  | 'd' => some (.digit false ascii)
  | 'D' => some (.digit true ascii)
  | 'w' => some (.word false ascii)
  | 'W' => some (.word true ascii)
  | 's' => some (.space false ascii)
  | 'S' => some (.space true ascii)
  | _ => none

def isIdentifier (s : String) : Bool :=
  match s.toList with
  | c :: cs => (Text.isLetter c || c == '_') && cs.all fun d => Text.isAlnum d || d == '_'
  | [] => false

/-- A group number in a reference, digits of any script; `none` otherwise or when negative. -/
def groupNumber? (s : String) : Option Nat :=
  match Text.readInt? s with
  | some n => if n < 0 then none else some n.toNat
  | none => none

namespace Flags

/-- How a literal character compares: folded only when case is ignored and it has another case. -/
def literalFold (f : Flags) (c : Char) : Fold :=
  if !f.ignoreCase then .exact
  else if f.ascii then (if isAsciiCased c then .ascii else .exact)
  else if isCased c then .unicode else .exact

/-- Whether a class item has a member with another case under Unicode rules; members past the basic
plane count. -/
def unicodeCased : ClassItem → Bool
  | .char d => d.toNat ≥ 0x10000 || isCased d
  | .range lo hi => hi.toNat ≥ 0x10000 || rangeHasCased lo.toNat hi.toNat
  | _ => false

/-- Whether a class item has an ASCII letter among its members; members past the basic plane count.
-/
def asciiCased : ClassItem → Bool
  | .char d => d.toNat ≥ 0x10000 || isAsciiCased d
  | .range lo hi =>
    hi.toNat ≥ 0x10000 || (lo ≤ 'Z' && 'A' ≤ hi) || (lo ≤ 'z' && 'a' ≤ hi)
  | _ => false

/-- How a class compares: folded only when case is ignored and a member has another case. -/
def setFold (f : Flags) (items : List ClassItem) : Fold :=
  if !f.ignoreCase then .exact
  else if f.ascii then (if items.any asciiCased then .ascii else .exact)
  else if items.any unicodeCased then .unicode else .exact

end Flags

namespace Node

/-- Anchors match no character; repeating one is refused. -/
def isAnchor : Node → Bool
  | .lineStart _ | .lineEnd _ | .textStart | .textEnd | .boundary .. => true
  | _ => false

/-- Repetitions; repeating one again is refused. -/
def isRepeat : Node → Bool
  | .rep .. => true
  | .atomic (.rep _ _ _ .possessive) => true
  | _ => false

def seqOf : List Node → Node
  | [n] => n
  | ns => .seq ns

def capWidth (w : Width) : Width :=
  (min w.1 (maxRepeat - 1), min w.2 maxRepeat)

mutual

/-- The fewest and most characters a node can match, given the widths of the closed groups. -/
def width (widths : List (Nat × Width)) : Node → Width
  | .empty | .lineStart _ | .lineEnd _ | .textStart | .textEnd | .boundary .. | .look .. => (0, 0)
  | .char .. | .any _ | .set .. => (1, 1)
  | .group _ b | .atomic b => width widths b
  | .seq items => capWidth (seqWidth widths items)
  | .alt bs => capWidth (altWidth widths bs)
  | .rep b lo hi _ =>
    let (i, j) := width widths b
    let top := match hi with
      | none => if j == 0 then 0 else maxRepeat
      | some h => j * h
    capWidth (i * lo, top)
  | .ref idx _ => (widths.lookup idx).getD (0, 0)
  | .cond _ yes no =>
    let (i, j) := width widths yes
    let (l, h) := width widths no
    (min i l, max j h)

def seqWidth (widths : List (Nat × Width)) : List Node → Width
  | [] => (0, 0)
  | n :: ns =>
    let (a, b) := width widths n
    let (c, d) := seqWidth widths ns
    (a + c, b + d)

def altWidth (widths : List (Nat × Width)) : List Node → Width
  | [] => (maxRepeat - 1, 0)
  | n :: ns =>
    let (a, b) := width widths n
    let (c, d) := altWidth widths ns
    (min a c, max b d)

end

end Node

/-- Whether a character is skipped between items of a verbose pattern. -/
def isVerboseBlank (c : Char) : Bool :=
  c == ' ' || c == '\t' || c == '\n' || c == '\r' || c.toNat == 11 || c.toNat == 12

section Reading

variable (pat : Array Char)

/-- Reads a numeric escape's digits after its letter `lead`; `start` is the backslash's position. -/
def hexEscape (start : Nat) (lead : Char) (width : Nat) : Parse Char := do
  let ds ← takeWhile pat isHexDigit width
  if ds.length != width then failAt s!"incomplete escape \\{lead}{ds}" start
  else
    let v := digitsIn 16 ds
    if v > 0x10FFFF then failAt s!"bad escape \\{lead}{ds}" start
    else pure (Char.ofNat v)

/-- Reads a name up to `stop`, `what` naming it in messages; a backslash takes the next character.
-/
def nameUntil (stop : Char) (what : String) : Nat → String → Parse String
  | 0, _ => do failAt s!"missing {what}" (← here)
  | fuel + 1, acc => do
    match ← peek pat with
    | none =>
      if acc.isEmpty then failAt s!"missing {what}" (← here)
      else failAt s!"missing {stop}, unterminated name" ((← here) - acc.length)
    | some c =>
      bump
      if c == stop then
        if acc.isEmpty then failAt s!"missing {what}" ((← here) - 1) else return acc
      else if c == '\\' then
        match ← peek pat with
        | none => failAt "bad escape (end of pattern)" (pat.size - 1)
        | some d =>
          bump
          nameUntil stop what fuel ((acc.push c).push d)
      else nameUntil stop what fuel (acc.push c)

def namedEscape (start : Nat) : Parse Char := do
  if !(← accept pat '{') then failAt "missing \x7b" (← here)
  let name ← nameUntil pat '}' "character name" (pat.size + 1) ""
  match Text.charOfName? name with
  | some c => pure c
  | none => failAt s!"undefined character name {Text.quote name}" start

/-- Reads an escape inside a class, its backslash (at `start`) and letter `c` read. -/
def classEscape (start : Nat) (c : Char) : Parse ClassItem := do
  if c == 'b' then return .char (Char.ofNat 8)
  match controlEscape c, categoryEscape (← get).flags.ascii c with
  | some ch, _ => return .char ch
  | _, some item => return item
  | none, none =>
    if c == 'x' then return .char (← hexEscape pat start 'x' 2)
    else if c == 'u' then return .char (← hexEscape pat start 'u' 4)
    else if c == 'U' then return .char (← hexEscape pat start 'U' 8)
    else if c == 'N' then return .char (← namedEscape pat start)
    else if isOctDigit c then
      let more ← takeWhile pat isOctDigit 2
      let v := digitsIn 8 (c.toString ++ more)
      if v > 0o377 then
        failAt s!"octal escape value \\{c}{more} outside of range 0-0o377" start
      else return .char (Char.ofNat v)
    else if isAsciiDigit c || isAsciiLetter c then failAt s!"bad escape \\{c}" start
    else return .char c

/-- Reads one class member, its first character `c` read: the item and its text in messages. -/
def classAtom (c : Char) : Parse (ClassItem × String) := do
  if c != '\\' then return (.char c, c.toString)
  let start := (← here) - 1
  match ← peek pat with
  | none => failAt "bad escape (end of pattern)" (pat.size - 1)
  | some e =>
    bump
    return (← classEscape pat start e, "\\" ++ e.toString)

def classItems (start : Nat) : Nat → List ClassItem → Parse (List ClassItem)
  | 0, _ => failAt "unterminated character set" start
  | fuel + 1, items => do
    match ← peek pat with
    | none => failAt "unterminated character set" start
    | some c =>
      bump
      if c == ']' && !items.isEmpty then return items.reverse
      let (item1, text1) ← classAtom pat c
      if ← accept pat '-' then
        match ← peek pat with
        | none => failAt "unterminated character set" start
        | some d =>
          bump
          if d == ']' then return (ClassItem.char '-' :: item1 :: items).reverse
          let (item2, text2) ← classAtom pat d
          let badRange : Parse (List ClassItem) := do
            failAt s!"bad character range {text1}-{text2}"
              ((← here) - (text1.length + 1 + text2.length))
          match item1, item2 with
          | .char lo, .char hi =>
            if hi < lo then badRange else classItems start fuel (.range lo hi :: items)
          | _, _ => badRange
      else classItems start fuel (item1 :: items)

def classNode (neg : Bool) (items : List ClassItem) : Parse Node := do
  let f := (← get).flags
  match neg, items with
  | false, [.char c] => return .char c (f.literalFold c)
  | _, _ => return .set neg items (f.setFold items)

/-- Refuses a reference from a look-behind to a group open or defined in the same look-behind. -/
def checkBehindRef (idx : Nat) : Parse Unit := do
  let r ← get
  if let some from_ := r.behindFrom then
    if !(r.widths.any (·.1 == idx)) then failAt "cannot refer to an open group" (← here)
    if idx > from_ then failAt "cannot refer to group defined in the same lookbehind subpattern" (← here)

def escape (start : Nat) : Parse Node := do
  let f := (← get).flags
  match ← peek pat with
  | none => failAt "bad escape (end of pattern)" (pat.size - 1)
  | some c =>
    bump
    match c with
    | 'A' => return .textStart
    | 'Z' => return .textEnd
    | 'b' => return .boundary false f.ascii
    | 'B' => return .boundary true f.ascii
    | _ =>
    match categoryEscape f.ascii c, controlEscape c with
    | some item, _ => return .set false [item] .exact
    | _, some ch => return .char ch (f.literalFold ch)
    | none, none =>
      let lit (ch : Char) : Node := .char ch (f.literalFold ch)
      if c == 'x' then return lit (← hexEscape pat start 'x' 2)
      else if c == 'u' then return lit (← hexEscape pat start 'u' 4)
      else if c == 'U' then return lit (← hexEscape pat start 'U' 8)
      else if c == 'N' then return lit (← namedEscape pat start)
      else if c == '0' then
        let more ← takeWhile pat isOctDigit 2
        return lit (Char.ofNat (digitsIn 8 more))
      else if isAsciiDigit c then
        let mut digits := c.toString
        if let some d := ← peek pat then
          if isAsciiDigit d then
            bump
            digits := digits.push d
            if let some e := ← peek pat then
              if isOctDigit c && isOctDigit d && isOctDigit e then
                bump
                let v := digitsIn 8 (digits.push e)
                if v > 0o377 then
                  return ← failAt s!"octal escape value \\{digits}{e} outside of range 0-0o377" start
                return lit (Char.ofNat v)
        let n := digitsIn 10 digits
        let r ← get
        if n ≤ r.groups then
          if r.widths.any (·.1 == n) then
            checkBehindRef n
            return .ref n (if !f.ignoreCase then .exact else if f.ascii then .ascii else .unicode)
          else failAt "cannot refer to an open group" start
        else failAt s!"invalid group reference {n}" (start + 1)
      else if isAsciiLetter c then failAt s!"bad escape \\{c}" start
      else return lit c

def checkName (name : String) : Parse Unit := do
  if !isIdentifier name then
    failAt s!"bad character in group name {Text.quote name}" ((← here) - name.length - 1)

def isFlag (c : Char) : Bool :=
  "aiLmstux".contains c

structure FlagChange where
  on : List Char := []
  off : List Char := []

/-- The flags after a change: turning on `a` or `u` replaces the other. -/
def Flags.apply (f : Flags) (ch : FlagChange) : Flags :=
  let has (c : Char) := ch.on.contains c
  let drop (c : Char) := ch.off.contains c
  let ascii := if has 'a' then true else if has 'u' then false else f.ascii
  { ignoreCase := (f.ignoreCase || has 'i') && !drop 'i'
    multiline := (f.multiline || has 'm') && !drop 'm'
    dotAll := (f.dotAll || has 's') && !drop 's'
    verbose := (f.verbose || has 'x') && !drop 'x'
    ascii }

/-- Reads inline flags after `c`: `none` for flags of the whole pattern, else the group's change. -/
def flagGroup (c : Char) : Parse (Option FlagChange) := do
  let fuel := pat.size + 1
  let typeFlag (x : Char) := x == 'a' || x == 'u' || x == 'L'
  let rec letters : Nat → Char → List Char → Parse (Char × List Char)
    | 0, ch, acc => pure (ch, acc)
    | f + 1, ch, acc => do
      if ch == 'L' then failAt "bad inline flags: cannot use 'L' flag with a str pattern" (← here)
      let acc := ch :: acc
      if typeFlag ch && acc.any (fun x => typeFlag x && x != ch) then
        failAt "bad inline flags: flags 'a', 'u' and 'L' are incompatible" (← here)
      match ← peek pat with
      | none => failAt "missing -, : or )" (← here)
      | some next =>
        bump
        if next == ')' || next == '-' || next == ':' then pure (next, acc)
        else if isFlag next then letters f next acc
        else if next.isAlpha then failAt "unknown flag" ((← here) - 1)
        else failAt "missing -, : or )" ((← here) - 1)
  let (last, on) ← if c == '-' then pure ('-', []) else letters fuel c []
  if last == ')' then
    modify fun r => { r with
      flags := r.flags.apply { on }
      template := r.template || on.contains 't'
      askedAscii := r.askedAscii || on.contains 'a'
      askedUnicode := r.askedUnicode || on.contains 'u' }
    return none
  if on.contains 't' then failAt "bad inline flags: cannot turn on global flag" ((← here) - 1)
  let mut off : List Char := []
  if last == '-' then
    let rec offLetters : Nat → List Char → Parse (List Char)
      | 0, _ => do failAt "missing :" (← here)
      | f + 1, acc => do
        match ← peek pat with
        | none => failAt "missing :" (← here)
        | some next =>
          bump
          if next == ':' then pure acc
          else if isFlag next then
            if typeFlag next then failAt "bad inline flags: cannot turn off flags 'a', 'u' and 'L'" (← here)
            else offLetters f (next :: acc)
          else if next.isAlpha then failAt "unknown flag" ((← here) - 1)
          else failAt "missing :" ((← here) - 1)
    match ← peek pat with
    | none => failAt "missing flag" (← here)
    | some first =>
      bump
      if !isFlag first then
        failAt (if first.isAlpha then "unknown flag" else "missing flag") ((← here) - 1)
      else if typeFlag first then
        failAt "bad inline flags: cannot turn off flags 'a', 'u' and 'L'" (← here)
      else off ← offLetters fuel [first]
  if off.contains 't' then failAt "bad inline flags: cannot turn off global flag" ((← here) - 1)
  if on.any off.contains then failAt "bad inline flags: flag turned on and off" ((← here) - 1)
  return some { on, off }

def skipComment (start : Nat) : Nat → Parse Unit
  | 0 => failAt "missing ), unterminated comment" start
  | f + 1 => do
    match ← peek pat with
    | none => failAt "missing ), unterminated comment" start
    | some d =>
      bump
      if d == ')' then pure () else skipComment start f

def skipLine : Nat → Parse Unit
  | 0 => pure ()
  | f + 1 => do
    match ← peek pat with
    | none => pure ()
    | some d =>
      bump
      if d == '\n' then pure () else skipLine f

/-- Reads a repetition's bounds after its `{` at `pos0`; `none` when ill-formed, the `{` then
standing for itself. -/
def bounds (pos0 : Nat) : Parse (Option (Nat × Option Nat)) := do
  if (← peek pat) == some '}' then return none
  let lo ← takeWhile pat isAsciiDigit pat.size
  let hi ← if ← accept pat ',' then takeWhile pat isAsciiDigit pat.size else pure lo
  if ← accept pat '}' then
    let min := if lo.isEmpty then 0 else digitsIn 10 lo
    if min ≥ maxRepeat then throw .tooLarge
    let max := if hi.isEmpty then Option.none else some (digitsIn 10 hi)
    match max with
    | some m =>
      if m ≥ maxRepeat then throw .tooLarge
      if m < min then failAt "min repeat greater than max repeat" (pos0 + 1)
      return some (min, max)
    | none => return some (min, max)
  else
    modify fun r => { r with pos := pos0 + 1 }
    return none

mutual

/-- Reads alternatives separated by `|` up to a `)` or the end; `atStart` says whether global flags
may still come. -/
def branches (atStart : Bool) : Nat → List Node → Parse Node
  | 0, _ => throw (.malformed "pattern too deeply nested" none)
  | fuel + 1, acc => do
    let b ← sequence atStart fuel []
    if ← accept pat '|' then branches false fuel (b :: acc)
    else
      match acc with
      | [] => return b
      | _ => return .alt (b :: acc).reverse

def sequence (atStart : Bool) : Nat → List Node → Parse Node
  | 0, _ => throw (.malformed "pattern too deeply nested" none)
  | fuel + 1, items => do
    match ← peek pat with
    | none | some '|' | some ')' => return Node.seqOf items.reverse
    | some c =>
      let pos0 ← here
      if (← get).flags.verbose && (isVerboseBlank c || c == '#') then
        bump
        if c == '#' then skipLine pat pat.size
        return ← sequence atStart fuel items
      if c == '*' || c == '+' || c == '?' || c == '{' then
        bump
        let bounds? : Option (Nat × Option Nat) ← match c with
          | '?' => pure (some (0, some 1))
          | '*' => pure (some (0, none))
          | '+' => pure (some (1, none))
          | _ => bounds pat pos0
        match bounds? with
        | none => sequence false fuel (.char '{' .exact :: items)
        | some (lo, hi) =>
          match items with
          | [] => failAt "nothing to repeat" pos0
          | last :: rest =>
            if last.isAnchor then failAt "nothing to repeat" pos0
            else if last.isRepeat then failAt "multiple repeat" pos0
            else
              let body := match last with
                | .seq ns => Node.seqOf ns
                | n => n
              let greed : Greed ←
                if ← accept pat '?' then pure .lazy
                else if ← accept pat '+' then pure .possessive
                else pure .greedy
              if (← get).template then
                let op := match greed with
                  | .lazy => "MIN_REPEAT"
                  | .possessive => "POSSESSIVE_REPEAT"
                  | .greedy => "MAX_REPEAT"
                modify fun r => { r with
                  late := r.late ++ [(pos0, s!"internal: unsupported template operator {op}")] }
              sequence false fuel (.rep body lo hi greed :: rest)
      else
        match ← atom (atStart && items.isEmpty) fuel c with
        | some n => sequence atStart fuel (n :: items)
        | none => sequence (atStart && items.isEmpty) fuel items

/-- Reads one item that begins with `c`; `none` for what adds no item (comments, flags). -/
def atom (atStart : Bool) : Nat → Char → Parse (Option Node)
  | 0, _ => throw (.malformed "pattern too deeply nested" none)
  | fuel + 1, c => do
    let start ← here
    bump
    let f := (← get).flags
    match c with
    | '.' => return some (.any f.dotAll)
    | '^' => return some (.lineStart f.multiline)
    | '$' => return some (.lineEnd f.multiline)
    | '\\' => return some (← escape pat start)
    | '[' =>
      let neg ← accept pat '^'
      return some (← classNode (neg) (← classItems pat start (pat.size + 1) []))
    | '(' => group atStart start fuel
    | _ => return some (.char c (f.literalFold c))

def group (atStart : Bool) (start : Nat) : Nat → Parse (Option Node)
  | 0 => throw (.malformed "pattern too deeply nested" none)
  | fuel + 1 => do
    let close (n : Node) : Parse Node := do
      if ← accept pat ')' then return n
      else failAt "missing ), unterminated subpattern" start
    let underFlags (ch : FlagChange) (body : Parse Node) : Parse Node := do
      let saved := (← get).flags
      modify fun r => { r with flags := saved.apply ch }
      let n ← body
      modify fun r => { r with flags := saved }
      return n
    let capture (name? : Option String) : Parse (Option Node) := do
      let r ← get
      let idx := r.groups + 1
      if let some name := name? then
        if let some old := r.names.lookup name then
          failAt s!"redefinition of group name {Text.quote name} as group {idx}; was group {old}"
            ((← here) - name.length - 1)
      set { r with groups := idx, names := r.names ++ (name?.map (·, idx)).toList }
      let body ← branches false fuel []
      let node ← close (.group idx body)
      modify fun r => { r with widths := (idx, Node.width r.widths body) :: r.widths }
      return some node
    -- an unknown extension is named by its token, an escape being its two characters
    let token (ch : Char) : Parse String := do
      if ch != '\\' then return ch.toString
      match ← peek pat with
      | none => failAt "bad escape (end of pattern)" (pat.size - 1)
      | some d =>
        bump
        return String.ofList [ch, d]
    if !(← accept pat '?') then return ← capture none
    match ← peek pat with
    | none => failAt "unexpected end of pattern" (← here)
    | some ch =>
      bump
      match ch with
      | 'P' =>
        if ← accept pat '<' then
          let name ← nameUntil pat '>' "group name" (pat.size + 1) ""
          checkName name
          capture (some name)
        else if ← accept pat '=' then
          let name ← nameUntil pat ')' "group name" (pat.size + 1) ""
          checkName name
          let r ← get
          match r.names.lookup name with
          | some idx =>
            if !(r.widths.any (·.1 == idx)) then
              failAt "cannot refer to an open group" ((← here) - name.length - 1)
            checkBehindRef idx
            let f := r.flags
            return some (.ref idx (if !f.ignoreCase then .exact else if f.ascii then .ascii else .unicode))
          | none => failAt s!"unknown group name {Text.quote name}" ((← here) - name.length - 1)
        else
          match ← peek pat with
          | none => failAt "unexpected end of pattern" (← here)
          | some x =>
            bump
            let x ← token x
            failAt s!"unknown extension ?P{x}" ((← here) - x.length - 2)
      | ':' => return some (← close (.seq [← branches false fuel []]))
      | '>' => return some (← close (.atomic (← branches false fuel [])))
      | '#' =>
        skipComment pat start (pat.size + 1)
        return none
      | '=' | '!' =>
        let body ← branches false fuel []
        return some (← close (.look false (ch == '!') 0 body))
      | '<' =>
        match ← peek pat with
        | none => failAt "unexpected end of pattern" (← here)
        | some d =>
          bump
          if d != '=' && d != '!' then
            let d ← token d
            failAt s!"unknown extension ?<{d}" ((← here) - d.length - 2)
          else
            let outer := (← get).behindFrom
            if outer.isNone then modify fun r => { r with behindFrom := some r.groups }
            let body ← branches false fuel []
            if outer.isNone then modify fun r => { r with behindFrom := none }
            let node ← close (.look true (d == '!') 0 body)
            let (lo, hi) := Node.width (← get).widths body
            if lo != hi then
              modify fun r => { r with late := r.late ++ [(start, "look-behind requires fixed-width pattern")] }
            return some (match node with
              | .look b n _ body => .look b n lo body
              | n => n)
      | '(' =>
        let name ← nameUntil pat ')' "group name" (pat.size + 1) ""
        let namePos := (← here) - name.length - 1
        let names := (← get).names
        let idx ← do
          if isIdentifier name then
            match names.lookup name with
            | some idx => pure idx
            | none => failAt s!"unknown group name {Text.quote name}" namePos
          else
            match groupNumber? name with
            | none => failAt s!"bad character in group name {Text.quote name}" namePos
            | some 0 => failAt "bad group number" namePos
            | some n =>
              if n ≥ 1073741823 then failAt s!"invalid group reference {n}" namePos
              let refs := (← get).condRefs
              let refs := if refs.any (·.1 == n) then refs else refs ++ [(n, namePos)]
              modify fun r => { r with condRefs := refs }
              pure n
        checkBehindRef idx
        let yes ← sequence false fuel []
        let no ← if (← accept pat '|') then sequence false fuel [] else pure Node.empty
        if (← peek pat) == some '|' then
          failAt "conditional backref with more than two branches" (← here)
        return some (← close (.cond idx yes no))
      | _ =>
        if isFlag ch || ch == '-' then
          match ← flagGroup pat ch with
          | none =>
            if !atStart then failAt "global flags not at the start of the expression" start
            return none
          | some change =>
            return some (← close (← underFlags change (do return .seq [← branches false fuel []])))
        else
          let t ← token ch
          failAt s!"unknown extension ?{t}" ((← here) - t.length - 1)

end

end Reading

/-- Compiles a pattern under starting flags; `askedUnicode` when Unicode classes were asked for. -/
def compileWith (pattern : String) (flags : Flags) (askedUnicode : Bool) : Except Failure Pattern := do
  let pat := pattern.toList.toArray
  let (root, r) ← (branches pat true (4 * pat.size + 8) []).run
    { flags, askedAscii := flags.ascii, askedUnicode }
  if r.askedAscii && r.askedUnicode then
    throw (.flagConflict "ASCII and UNICODE flags are incompatible")
  if r.pos < pat.size then throw (.malformed "unbalanced parenthesis" (some r.pos))
  for (g, pos) in r.condRefs do
    if g > r.groups then throw (.malformed s!"invalid group reference {g}" (some pos))
  match (r.late.toArray.qsort fun a b => a.1 < b.1).toList with
  | (_, msg) :: _ => throw (.malformed msg none)
  | [] => pure ()
  return { root, groups := r.groups, names := r.names }

def compile (pattern : String) (ignoreCase : Bool) : Except Failure Pattern :=
  compileWith pattern { ignoreCase } false

/-- Compiles a pattern under flag bits (`2` ignore case, `8` multiline, `16` dot-all, `64` verbose,
`256` ASCII, `32` Unicode). -/
def compileBits (pattern : String) (bits : Nat) : Except Failure Pattern :=
  let has (b : Nat) : Bool := bits / b % 2 == 1
  if has 4 then throw (.flagConflict "cannot use LOCALE flag with a str pattern")
  else
    compileWith pattern { ignoreCase := has 2, multiline := has 8, dotAll := has 16,
                          verbose := has 64, ascii := has 256 } (has 32)

end PipeQuery.Regex
