import PipeQuery.Text.CharName
import PipeQuery.Regex.Parse

/-!
# Calculations: the values of text literals

`unescape` reads the body of a text literal (the usual escapes, octal, `\x`, `\u`, `\U` and
`\N{name}`; any other escaped character keeps its backslash) and `unescapeBytes` that of a byte
string. A failure gives its place as the decoder sees the body, where a character outside ASCII
takes ten places: `(unicode error) 'unicodeescape' codec can't decode bytes in position a-b: why`.
-/

namespace PipeQuery.Calc

def placeWidth (c : Char) : Nat :=
  if c.toNat < 128 then 1 else 10

/-- The places a stretch of a body takes for the decoder: a backslash takes the next character
along, six places when it is not ASCII. -/
def bufferPlaces : List Char → Nat
  | [] => 0
  | ['\\'] => 6
  | '\\' :: c :: rest => (if c.toNat < 128 then 2 else 16) + bufferPlaces rest
  | c :: rest => placeWidth c + bufferPlaces rest

def decodeFailure (a b : Nat) (why : String) : String :=
  s!"(unicode error) 'unicodeescape' codec can't decode bytes in position {a}-{b}: {why}"

def simpleEscape? (c : Char) : Option Char :=
  match c with
  | '\\' => some '\\' | '\'' => some '\'' | '"' => some '"'
  | 'a' => some (Char.ofNat 7) | 'b' => some (Char.ofNat 8) | 'f' => some (Char.ofNat 12)
  | 'n' => some '\n' | 'r' => some '\r' | 't' => some '\t' | 'v' => some (Char.ofNat 11)
  | _ => none

/-- The octal digits of an escape that starts with digit `c`, at most three in all, and their value.
-/
def octalRun (c : Char) (more : List Char) : List Char × Nat :=
  let ds := c :: (more.takeWhile Regex.isOctDigit).take 2
  (ds, Regex.digitsIn 8 (String.ofList ds))

def unescapeFrom : Nat → List Char → Nat → String → Except String String
  | 0, _, _, acc => pure acc
  | _ + 1, [], _, acc => pure acc
  | fuel + 1, '\\' :: rest, pos, acc =>
    match rest with
    | [] => pure (acc.push '\\')
    | c :: more =>
      if c.toNat ≥ 128 then unescapeFrom fuel more (pos + 16) ((acc.push '\\').push c)
      else if c == '\n' then unescapeFrom fuel more (pos + 2) acc
      else
        match simpleEscape? c with
        | some ch => unescapeFrom fuel more (pos + 2) (acc.push ch)
        | none =>
          if Regex.isOctDigit c then
            let (ds, v) := octalRun c more
            unescapeFrom fuel (more.drop (ds.length - 1)) (pos + 1 + ds.length)
              (acc.push (Char.ofNat v))
          else if c == 'x' || c == 'u' || c == 'U' then
            let (width, why) :=
              if c == 'x' then (2, "truncated \\xXX escape")
              else if c == 'u' then (4, "truncated \\uXXXX escape")
              else (8, "truncated \\UXXXXXXXX escape")
            let ds := (more.take width).takeWhile Regex.isHexDigit
            if ds.length < width then throw (decodeFailure pos (pos + 1 + ds.length) why)
            else
              let v := Regex.digitsIn 16 (String.ofList ds)
              if v > 0x10FFFF then throw (decodeFailure pos (pos + 1 + width) "illegal Unicode character")
              else unescapeFrom fuel (more.drop width) (pos + 2 + width) (acc.push (Char.ofNat v))
          else if c == 'N' then
            let malformed := "malformed \\N character escape"
            match more with
            | '{' :: after =>
              let name := after.takeWhile (· != '}')
              if name.length == after.length then
                throw (decodeFailure pos (pos + 2 + bufferPlaces after) malformed)
              else if name.isEmpty then throw (decodeFailure pos (pos + 2) malformed)
              else
                let width := 3 + bufferPlaces name
                match Text.charOfName? (String.ofList name) with
                | some ch => unescapeFrom fuel (after.drop (name.length + 1)) (pos + width + 1) (acc.push ch)
                | none => throw (decodeFailure pos (pos + width) "unknown Unicode character name")
            | _ => throw (decodeFailure pos (pos + 1) malformed)
          else unescapeFrom fuel more (pos + 2) ((acc.push '\\').push c)
  | fuel + 1, c :: rest, pos, acc => unescapeFrom fuel rest (pos + placeWidth c) (acc.push c)

def unescape (body : String) : Except String String :=
  unescapeFrom (body.length + 1) body.toList 0 ""

def unescapeBytesFrom : Nat → List Char → Nat → String → Except String String
  | 0, _, _, acc => pure acc
  | _ + 1, [], _, acc => pure acc
  | fuel + 1, '\\' :: rest, pos, acc =>
    match rest with
    | [] => pure (acc.push '\\')
    | c :: more =>
      if c == '\n' then unescapeBytesFrom fuel more (pos + 2) acc
      else
        match simpleEscape? c with
        | some ch => unescapeBytesFrom fuel more (pos + 2) (acc.push ch)
        | none =>
          if Regex.isOctDigit c then
            let (ds, v) := octalRun c more
            unescapeBytesFrom fuel (more.drop (ds.length - 1)) (pos + 1 + ds.length)
              (acc.push (Char.ofNat (v % 256)))
          else if c == 'x' then
            match more with
            | h :: l :: after =>
              if Regex.isHexDigit h && Regex.isHexDigit l then
                unescapeBytesFrom fuel after (pos + 4)
                  (acc.push (Char.ofNat (Regex.digitsIn 16 (String.ofList [h, l]))))
              else throw s!"(value error) invalid \\x escape at position {pos}"
            | _ => throw s!"(value error) invalid \\x escape at position {pos}"
          else unescapeBytesFrom fuel more (pos + 2) ((acc.push '\\').push c)
  | fuel + 1, c :: rest, pos, acc => unescapeBytesFrom fuel rest (pos + 1) (acc.push c)

def bytesNotAscii : String :=
  "bytes can only contain ASCII literal characters"

/-- The value of a byte string's body, raw or not: each character's code is a byte. -/
def unescapeBytes (body : String) (raw : Bool) : Except String String :=
  if body.toList.any (fun c => c.toNat ≥ 128) then throw bytesNotAscii
  else if raw then pure body
  else unescapeBytesFrom (body.length + 1) body.toList 0 ""

end PipeQuery.Calc
