import PipeQuery.Regex.Replace

/-!
# Filling text into lines

A text is filled into lines of at most `width` characters: tabs are expanded and blanks become
spaces, the text is cut into runs of blanks and words (also after a hyphen between letters), lines
are filled greedily with whole chunks, a chunk longer than a line is cut, and blanks at the ends of
lines are dropped.
-/

namespace PipeQuery.Text

/-- How a text is filled into lines: line width, and the handling of tabs, blanks, long words and
hyphens. -/
structure Filling where
  width : Int
  expandTabs : Bool := true
  tabSize : Int := 8
  replaceBlanks : Bool := true
  dropBlanks : Bool := true
  breakLongWords : Bool := true
  breakOnHyphens : Bool := true

namespace Filling

def isBlank (c : Char) : Bool :=
  c == ' ' || c == '\t' || c == '\n' || c == '\r' || c.toNat == 11 || c.toNat == 12

/-- Tabs replaced by spaces up to the next multiple of `size` columns (removed when `size ≤ 0`); a
line break restarts the count. -/
def expandTabsIn (size : Int) (s : String) : String :=
  let step (acc : Array Char × Int) (c : Char) : Array Char × Int :=
    if c == '\t' then
      if size > 0 then
        let pad := size - acc.2 % size
        (acc.1 ++ (List.replicate pad.toNat ' ').toArray, acc.2 + pad)
      else acc
    else if c == '\n' || c == '\r' then (acc.1.push c, 0)
    else (acc.1.push c, acc.2 + 1)
  String.ofList (s.toList.foldl step (#[], 0)).1.toList

/-- The pattern cutting a text into chunks, hyphenated words split after hyphens when `hyphens`. -/
def chunkPattern (hyphens : Bool) : String :=
  let ws := "[\t\n\x0b\x0c\r ]"
  let nws := "[^\t\n\x0b\x0c\r ]"
  let wp := "[\\w!\"\x27&.,?]"
  let lt := "[^\\d\\W]"
  let dashes := "-\x7b2,\x7d"
  if hyphens then
    "(" ++ ws ++ "+|(?<=" ++ wp ++ ")" ++ dashes ++ "(?=\\w)|" ++ nws ++ "+?(?:-(?:(?<=" ++ lt ++
      lt ++ "-)|(?<=" ++ lt ++ "-" ++ lt ++ "-))(?=" ++ lt ++ "-?" ++ lt ++ ")|(?=" ++ ws ++
      "|\\Z)|(?<=" ++ wp ++ ")(?=" ++ dashes ++ "\\w)))"
  else "(" ++ ws ++ "+)"

def chunks (f : Filling) (s : String) : List String :=
  match Regex.compile (chunkPattern f.breakOnHyphens) false with
  | .ok re => (re.split s none).filterMap fun piece => piece.filter (!·.isEmpty)
  | .error _ => [s]

def blankChunk (s : String) : Bool := s.all isBlank

/-- The part of an over-long chunk that goes on the current line, given the room left there, and the
rest. -/
def cutLong (f : Filling) (chunk : String) (room : Nat) : String × String :=
  let cs := chunk.toList
  let atHyphen : Option Nat :=
    if f.breakOnHyphens && cs.length > room then
      let before := cs.take room
      match (List.range before.length).reverse.find? (fun i => before.getD i ' ' == '-') with
      | some h => if h > 0 && (cs.take h).any (· != '-') then some (h + 1) else none
      | none => none
    else none
  let stop := atHyphen.getD room
  (String.ofList (cs.take stop), String.ofList (cs.drop stop))

/-- Fills at most `fuel` lines from the chunks left: whole chunks while they fit, then a piece of
one too long for any line. -/
def fillLines (f : Filling) (width : Nat) : Nat → List String → List String → List String
  | 0, _, lines => lines.reverse
  | _, [], lines => lines.reverse
  | fuel + 1, rest, lines =>
    let rest := if f.dropBlanks && !lines.isEmpty && (rest.head?.map blankChunk).getD false then
        rest.tail else rest
    let (line, rest) := rest.foldl (fun (acc : List String × List String) ch =>
        if acc.2.isEmpty && (acc.1.map String.length).sum + ch.length ≤ width then
          (acc.1 ++ [ch], acc.2) else (acc.1, acc.2 ++ [ch]))
      ([], [])
    let (line, rest) := match rest with
      | ch :: more =>
        if ch.length > width then
          if f.breakLongWords then
            let room := if width < 1 then 1 else width - (line.map String.length).sum
            let (piece, left) := f.cutLong ch room
            (line ++ [piece], left :: more)
          else if line.isEmpty then ([ch], more)
          else (line, rest)
        else (line, rest)
      | [] => (line, rest)
    let line := if f.dropBlanks && (line.getLast?.map blankChunk).getD false then line.dropLast
      else line
    fillLines f width fuel rest (if line.isEmpty then lines else String.join line :: lines)

def wrap (f : Filling) (s : String) : Except String (List String) :=
  if f.width ≤ 0 then .error s!"invalid width {f.width} (must be > 0)"
  else
    let s := if f.expandTabs then expandTabsIn f.tabSize s else s
    let s := if f.replaceBlanks then String.ofList (s.toList.map fun c => if isBlank c then ' ' else c)
      else s
    let cs := f.chunks s
    .ok (fillLines f f.width.toNat (2 * (s.length + cs.length) + 2) cs [])

end Filling

end PipeQuery.Text
