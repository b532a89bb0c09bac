import PipeQuery.Decimal.Double
import PipeQuery.Text.Classes

/-!
# JSON documents

The documents that requests and answers are written in. Integers and doubles are distinct
numbers: an integer is written with its digits, a double with the shortest digits that read
back, always with a point or an exponent, so that the text tells the two apart. Object members
keep the order in which they were given.
-/

namespace PipeQuery

inductive Json
  | null
  | bool (b : Bool)
  | int (n : Int)
  | float (x : Float)
  | str (s : String)
  | arr (items : List Json)
  | obj (members : List (String × Json))
  deriving Inhabited

namespace Json

def escapeChar (c : Char) : String :=
  if c = '"' then "\\\""
  else if c = '\\' then "\\\\"
  else if c = '\n' then "\\n"
  else if c = '\r' then "\\r"
  else if c = '\t' then "\\t"
  else if c.toNat < 0x20 then "\\u" ++ Text.hexPadded 4 c.toNat
  else c.toString

def quoteString (s : String) : String :=
  "\"" ++ String.join (s.toList.map escapeChar) ++ "\""

mutual

def render : Json → String
  | null => "null"
  | bool b => if b then "true" else "false"
  | int n => toString n
  | float x => Decimal.showFloat x
  | str s => quoteString s
  | arr items => "[" ++ renderItems items ++ "]"
  | obj members => "\x7b" ++ renderMembers members ++ "\x7d"

def renderItems : List Json → String
  | [] => ""
  | [x] => render x
  | x :: xs => render x ++ "," ++ renderItems xs

def renderMembers : List (String × Json) → String
  | [] => ""
  | [(k, v)] => quoteString k ++ ":" ++ render v
  | (k, v) :: ms => quoteString k ++ ":" ++ render v ++ "," ++ renderMembers ms

end

def get? (j : Json) (key : String) : Option Json :=
  match j with
  | obj members => (members.find? (·.1 == key)).map (·.2)
  | _ => none

def str? : Json → Option String
  | str s => some s
  | _ => none

def arr? : Json → Option (List Json)
  | arr items => some items
  | _ => none

def obj? : Json → Option (List (String × Json))
  | obj members => some members
  | _ => none

end Json

end PipeQuery

/-!
## Reading JSON documents

`Json.parse` reads one document, with blanks around it. A number with a fraction or an exponent
is a double, rounded to nearest from its exact decimal value; any other number is an integer of
any size. `\u` escapes that form a surrogate pair join into one character; a lone surrogate
becomes U+FFFD.

The reader is total: every step consumes input, and the recursion carries a budget of twice the
input's length.
-/

namespace PipeQuery.Json

def skipBlanks : List Char → List Char
  | c :: r => if c = ' ' || c = '\t' || c = '\n' || c = '\r' then skipBlanks r else c :: r
  | [] => []

def hexValue? (c : Char) : Option Nat :=
  if '0' ≤ c ∧ c ≤ '9' then some (c.toNat - '0'.toNat)
  else if 'a' ≤ c ∧ c ≤ 'f' then some (c.toNat - 'a'.toNat + 10)
  else if 'A' ≤ c ∧ c ≤ 'F' then some (c.toNat - 'A'.toNat + 10)
  else none

def hexQuad (a b c d : Char) : Option Nat := do
  let va ← hexValue? a
  let vb ← hexValue? b
  let vc ← hexValue? c
  let vd ← hexValue? d
  pure (((va * 16 + vb) * 16 + vc) * 16 + vd)

def simpleEscape? (e : Char) : Option Char :=
  if e = '"' then some '"' else if e = '\\' then some '\\' else if e = '/' then some '/'
  else if e = 'b' then some (Char.ofNat 8) else if e = 'f' then some (Char.ofNat 12)
  else if e = 'n' then some '\n' else if e = 'r' then some '\r' else if e = 't' then some '\t'
  else none

def replacementChar : Char := Char.ofNat 0xFFFD

/-- The body of a string literal after its opening quote, reversed; a budget of the input's length
suffices. -/
def stringBody : Nat → List Char → List Char → Except String (String × List Char)
  | 0, _, _ => .error "Unterminated string"
  | _ + 1, [], _ => .error "Unterminated string"
  | _ + 1, '"' :: r, acc => .ok (String.ofList acc.reverse, r)
  | fuel + 1, '\\' :: 'u' :: a :: b :: c :: d :: r, acc =>
    match hexQuad a b c d with
    | none => .error "Invalid \\uXXXX escape"
    | some hi =>
      if 0xD800 ≤ hi ∧ hi < 0xDC00 then
        match r with
        | '\\' :: 'u' :: a2 :: b2 :: c2 :: d2 :: r2 =>
          match hexQuad a2 b2 c2 d2 with
          | some lo =>
            if 0xDC00 ≤ lo ∧ lo < 0xE000 then
              stringBody fuel r2 (Char.ofNat (0x10000 + (hi - 0xD800) * 0x400 + (lo - 0xDC00)) :: acc)
            else stringBody fuel r (replacementChar :: acc)
          | none => .error "Invalid \\uXXXX escape"
        | _ => stringBody fuel r (replacementChar :: acc)
      else if 0xDC00 ≤ hi ∧ hi < 0xE000 then stringBody fuel r (replacementChar :: acc)
      else stringBody fuel r (Char.ofNat hi :: acc)
  | fuel + 1, '\\' :: e :: r, acc =>
    match simpleEscape? e with
    | some c => stringBody fuel r (c :: acc)
    | none => .error "Invalid \\escape"
  | fuel + 1, c :: r, acc => stringBody fuel r (c :: acc)

def digitsOf (cs : List Char) : List Char × List Char :=
  (cs.takeWhile Char.isDigit, cs.dropWhile Char.isDigit)

def digitValue (ds : List Char) : Nat :=
  ds.foldl (fun n c => 10 * n + (c.toNat - '0'.toNat)) 0

def number (cs : List Char) : Except String (Json × List Char) :=
  let (neg, cs) := match cs with
    | '-' :: r => (true, r)
    | r => (false, r)
  let (whole, r) := digitsOf cs
  if whole.isEmpty then .error "Expecting value" else
  let (frac, r) := match r with
    | '.' :: r2 => digitsOf r2
    | _ => ([], r)
  let (expo, expNeg, isExp, r) := match r with
    | e :: r2 =>
      if e = 'e' || e = 'E' then
        match r2 with
        | '-' :: r3 => let (d, r4) := digitsOf r3; (d, true, true, r4)
        | '+' :: r3 => let (d, r4) := digitsOf r3; (d, false, true, r4)
        | _ => let (d, r4) := digitsOf r2; (d, false, true, r4)
      else ([], false, false, r)
    | [] => ([], false, false, [])
  let isFloat := isExp || (match cs.dropWhile Char.isDigit with | '.' :: _ => true | _ => false)
  if !isFloat then
    let n : Int := digitValue whole
    .ok (.int (if neg then -n else n), r)
  else
    let mant := digitValue (whole ++ frac)
    let e : Int := (if expNeg then -(digitValue expo : Int) else digitValue expo) - frac.length
    let x : Float := if e < 0 then Float.ofScientific mant true e.natAbs
      else Float.ofScientific mant false e.toNat
    .ok (.float (if neg then -x else x), r)

mutual

def value : Nat → List Char → Except String (Json × List Char)
  | 0, _ => .error "Too deeply nested"
  | fuel + 1, cs =>
    match skipBlanks cs with
    | 'n' :: 'u' :: 'l' :: 'l' :: r => .ok (.null, r)
    | 't' :: 'r' :: 'u' :: 'e' :: r => .ok (.bool true, r)
    | 'f' :: 'a' :: 'l' :: 's' :: 'e' :: r => .ok (.bool false, r)
    | 'N' :: 'a' :: 'N' :: r => .ok (.float (0.0 / 0.0), r)
    | 'I' :: 'n' :: 'f' :: 'i' :: 'n' :: 'i' :: 't' :: 'y' :: r => .ok (.float (1.0 / 0.0), r)
    | '-' :: 'I' :: 'n' :: 'f' :: 'i' :: 'n' :: 'i' :: 't' :: 'y' :: r => .ok (.float (-1.0 / 0.0), r)
    | '"' :: r => (stringBody r.length r []).map fun (s, r2) => (.str s, r2)
    | '[' :: r =>
      match skipBlanks r with
      | ']' :: r2 => .ok (.arr [], r2)
      | _ => items fuel r []
    | '{' :: r =>
      match skipBlanks r with
      | '}' :: r2 => .ok (.obj [], r2)
      | _ => members fuel r []
    | cs2 => number cs2

def items : Nat → List Char → List Json → Except String (Json × List Char)
  | 0, _, _ => .error "Too deeply nested"
  | fuel + 1, cs, acc => do
    let (v, r) ← value fuel cs
    match skipBlanks r with
    | ',' :: r2 => items fuel r2 (v :: acc)
    | ']' :: r2 => .ok (.arr (v :: acc).reverse, r2)
    | _ => .error "Expecting ',' delimiter"

def members : Nat → List Char → List (String × Json) → Except String (Json × List Char)
  | 0, _, _ => .error "Too deeply nested"
  | fuel + 1, cs, acc =>
    match skipBlanks cs with
    | '"' :: r => do
      let (k, r2) ← stringBody r.length r []
      match skipBlanks r2 with
      | ':' :: r3 => do
        let (v, r4) ← value fuel r3
        match skipBlanks r4 with
        | ',' :: r5 => members fuel r5 ((k, v) :: acc)
        | '}' :: r5 => .ok (.obj ((k, v) :: acc).reverse, r5)
        | _ => .error "Expecting ',' delimiter"
      | _ => .error "Expecting ':' delimiter"
    | _ => .error "Expecting property name enclosed in double quotes"

end

def parse (s : String) : Except String Json := do
  let cs := s.toList
  let (v, r) ← value (2 * cs.length + 2) cs
  if (skipBlanks r).isEmpty then pure v else .error "Extra data"

end PipeQuery.Json
