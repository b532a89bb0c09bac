import PipeQuery.Query.Syntax.Forms
import PipeQuery.Value.Order
import PipeQuery.Text.Numeral
import PipeQuery.Text.Case
import PipeQuery.Text.Classes

/-!
# Reading the arguments of a command

A command is configured from a parsed stage or from plain words. This module holds what both
share: literal texts, identifier names, trimming quotes and commas, the yes-words of a flag, and
numbers read from texts, failing with the conversion's own message.
-/

namespace PipeQuery.Query

namespace Arg

def keyword? : Arg → Option (String × Expr)
  | .keyword k v _ => some (k, v)
  | _ => none

end Arg

namespace Expr

def word? : Expr → Option String
  | .lit v _ _ => some v.word
  | .ident n _ => some n
  | _ => none

def wordOrRender (e : Expr) : String :=
  match e.word? with
  | some w => w
  | none => e.render

end Expr

end PipeQuery.Query

namespace PipeQuery.Command

open Query

def stripQuotes (s : String) : String :=
  let isQ (c : Char) := c = '"' || c = '\''
  String.ofList ((s.toList.dropWhile isQ).reverse.dropWhile isQ).reverse

def stripCommas (s : String) : String :=
  String.ofList (s.toList.reverse.dropWhile (· = ',')).reverse

def isYes (s : String) : Bool :=
  let w := Text.lower s
  w == "true" || w == "1" || w == "yes"

def afterPrefix? (p s : String) : Option String :=
  if s.startsWith p then some (String.ofList (s.toList.drop p.length)) else none

def textToInt (s : String) : Outcome Int :=
  match Text.readInt? s with
  | some n => pure n
  | none => throw (Fault.invalid (Text.intFailure s))

def textToFloat (s : String) : Outcome Float :=
  match Text.readFloat? s with
  | some x => pure x
  | none => throw (Fault.invalid s!"could not convert string to float: {Text.quote s}")

/-- A literal as an integer: integers as they are, doubles cut toward zero, texts read. -/
def litToInt : LitValue → Outcome Int
  | .int n => pure n
  | .float x => Num.truncateFinite x
  | .text s => textToInt s

def litToFloat : LitValue → Outcome Float
  | .int n => pure (Num.intToFloat n)
  | .float x => pure x
  | .text s => textToFloat s

/-- A number read from a word: a double when it holds a point, else an integer; `none` when it is
neither. -/
def wordNumber? (s : String) : Option Value :=
  if s.contains '.' then (Text.readFloat? s).map Value.float
  else (Text.readInt? s).map Value.int

/-!
## Command lines as words

The word interface takes a command as one line: the first blank-separated word names the command,
and the rest of the line is split into words at spaces and tabs outside quotes. A quote opens a
quoted stretch that runs to the same quote; the quotes stay in the word, and inside the stretch a
backslash keeps itself and the character after it (a backslash at the very end is dropped).
-/

/-- The state of the word splitter: the words so far, the word being read (reversed), and the
quote of the open quoted stretch. -/
structure WordState where
  words : Array String := #[]
  current : List Char := []
  quote : Option Char := none

def WordState.flush (s : WordState) : WordState :=
  if s.current.isEmpty then s
  else { s with words := s.words.push (String.ofList s.current.reverse), current := [] }

def splitWordsFrom : List Char → WordState → Array String
  | [], s => s.flush.words
  | c :: rest, s =>
    match s.quote with
    | some q =>
      if c = q then splitWordsFrom rest { s with current := c :: s.current, quote := none }
      else if c = '\\' then
        match rest with
        | d :: rest2 => splitWordsFrom rest2 { s with current := d :: c :: s.current }
        | [] => splitWordsFrom [] s
      else splitWordsFrom rest { s with current := c :: s.current }
    | none =>
      if c = '"' || c = '\'' then splitWordsFrom rest { s with current := c :: s.current, quote := some c }
      else if c = ' ' || c = '\t' then splitWordsFrom rest s.flush
      else splitWordsFrom rest { s with current := c :: s.current }

def splitWords (s : String) : List String :=
  (splitWordsFrom s.toList {}).toList

/-- A command line's name and the rest of the line after the blanks that follow the name. -/
def splitLine (line : String) : String × String :=
  let cs := (line.toList.dropWhile Text.isBlank).reverse.dropWhile Text.isBlank |>.reverse
  let name := cs.takeWhile (!Text.isBlank ·)
  let rest := (cs.dropWhile (!Text.isBlank ·)).dropWhile Text.isBlank
  (String.ofList name, String.ofList rest)

end PipeQuery.Command
