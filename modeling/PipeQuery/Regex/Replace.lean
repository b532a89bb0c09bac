import PipeQuery.Regex.Match
import PipeQuery.Fault

/-!
# Regular expressions: replacing and splitting

A replacement is read into plain text and group references (`\1`, `\g<n>`, `\g<name>`), with the
character escapes; other escaped ASCII letters are refused. `Pattern.replace` puts it in place of
every match and `Pattern.split` cuts a text at the matches.
-/

namespace PipeQuery.Regex

def Failure.fault (source : String) : Failure → Fault
  | .tooLarge => Fault.inner .overflowError "the repetition number is too large"
  | .unknownGroup name => Fault.inner .indexError s!"unknown group name '{name}'"
  | .flagConflict msg => Fault.inner .valueError msg
  | e => Fault.inner .regexError (e.describe source)

inductive Piece
  | text (s : String)
  | group (n : Nat)
  deriving Inhabited

def refuse {α : Type} (msg : String) (pos : Nat) : Except Failure α :=
  throw (.malformed msg (some pos))

def template (groups : Nat) (names : List (String × Nat)) (repl : String) :
    Except Failure (List Piece) :=
  let cs := repl.toList.toArray
  let groupAt (n pos : Nat) : Except Failure Piece :=
    if n > groups then refuse s!"invalid group reference {n}" pos else pure (.group n)
  let rec go : Nat → Nat → List Piece → Except Failure (List Piece)
    | 0, _, acc => pure acc.reverse
    | fuel + 1, i, acc =>
      match cs[i]? with
      | none => pure acc.reverse
      | some '\\' =>
        match cs[i + 1]? with
        | none => refuse "bad escape (end of pattern)" i
        | some 'g' =>
          if cs[i + 2]? != some '<' then refuse "missing <" (i + 2)
          else
            let nameChars := ((cs.extract (i + 3) cs.size).toList.takeWhile (· != '>'))
            let name := String.ofList nameChars
            let after := i + 3 + nameChars.length
            if cs[after]? != some '>' then
              if name.isEmpty then refuse "missing group name" (i + 3)
              else refuse "missing >, unterminated name" (i + 3)
            else if name.isEmpty then refuse "missing group name" (i + 3)
            else
              let piece : Except Failure Piece :=
                if isIdentifier name then
                  match names.lookup name with
                  | some n => pure (.group n)
                  | none => throw (.unknownGroup name)
                else
                  match groupNumber? name with
                  | some n => groupAt n (i + 3)
                  | none => refuse s!"bad character in group name {Text.quote name}" (i + 3)
              match piece with
              | .ok p => go fuel (after + 1) (p :: acc)
              | .error e => throw e
        | some c =>
          if c == '0' then
            let oct := (cs.extract (i + 2) (i + 4)).toList.takeWhile isOctDigit
            let v := digitsIn 8 (String.ofList ('0' :: oct)) % 256
            go fuel (i + 2 + oct.length) (.text (Char.ofNat v).toString :: acc)
          else if isAsciiDigit c then
            match cs[i + 2]? with
            | some d =>
              if isAsciiDigit d then
                match cs[i + 3]? with
                | some e =>
                  if isOctDigit c && isOctDigit d && isOctDigit e then
                    let v := digitsIn 8 (String.ofList [c, d, e])
                    if v > 0o377 then
                      refuse s!"octal escape value \\{c}{d}{e} outside of range 0-0o377" i
                    else go fuel (i + 4) (.text (Char.ofNat v).toString :: acc)
                  else
                    match groupAt (digitsIn 10 (String.ofList [c, d])) (i + 1) with
                    | .ok p => go fuel (i + 3) (p :: acc)
                    | .error e => throw e
                | none =>
                  match groupAt (digitsIn 10 (String.ofList [c, d])) (i + 1) with
                  | .ok p => go fuel (i + 3) (p :: acc)
                  | .error e => throw e
              else
                match groupAt (digitsIn 10 c.toString) (i + 1) with
                | .ok p => go fuel (i + 2) (p :: acc)
                | .error e => throw e
            | none =>
              match groupAt (digitsIn 10 c.toString) (i + 1) with
              | .ok p => go fuel (i + 2) (p :: acc)
              | .error e => throw e
          else
            match controlEscape c with
            | some ch => go fuel (i + 2) (.text ch.toString :: acc)
            | none =>
              if c == 'b' then go fuel (i + 2) (.text (Char.ofNat 8).toString :: acc)
              else if isAsciiLetter c then refuse s!"bad escape \\{c}" i
              else go fuel (i + 2) (.text ("\\" ++ c.toString) :: acc)
      | some c => go fuel (i + 1) (.text c.toString :: acc)
  go (cs.size + 1) 0 []

/-- A replacement filled in from a match; a group that took no part gives nothing. -/
def fill (text : Array Char) (h : Hit) (pieces : List Piece) : String :=
  String.join (pieces.map fun p =>
    match p with
    | .text s => s
    | .group n => (h.group? text n).getD "")

namespace Pattern

/-- Replaces every match (the first `limit`) by the filled-in replacement. -/
def replace (re : Pattern) (repl : String) (s : String) (limit : Option Nat) :
    Except Failure String := do
  let pieces ← if repl.contains '\\' then template re.groups re.names repl else pure [.text repl]
  let text := s.toList.toArray
  let hits := re.findAll text limit
  let (out, last) := hits.foldl (fun (acc : String × Nat) h =>
    (acc.1 ++ String.ofList (text.extract acc.2 h.start).toList ++ fill text h pieces, h.stop))
    ("", 0)
  return out ++ String.ofList (text.extract last text.size).toList

/-- The pieces of a text between the matches, each followed by its groups. -/
def split (re : Pattern) (s : String) (limit : Option Nat) : List (Option String) :=
  let text := s.toList.toArray
  let piece (a b : Nat) : Option String := some (String.ofList (text.extract a b).toList)
  let (acc, last) := (re.findAll text limit).foldl (fun (acc : List (Option String) × Nat) h =>
    (acc.1 ++ piece acc.2 h.start :: (List.range re.groups).map fun i => h.group? text (i + 1),
      h.stop)) ([], 0)
  acc ++ [piece last text.size]

end Pattern

end PipeQuery.Regex
