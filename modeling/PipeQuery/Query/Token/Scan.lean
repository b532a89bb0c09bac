import PipeQuery.Query.Token
import PipeQuery.Text.Classes

/-!
# Reading a query into tokens

`Token.scan` splits a query into quoted texts (with the escapes `\n \t \r \\ \" \'`; a backslash
before any other character is kept, so `\d` reaches a regex unchanged), numbers, names and
operators, skipping blanks, and ends the list with `eof`. Every step consumes a character, so
`scan` is well founded on the length of the rest.
-/

namespace PipeQuery.Query

open PipeQuery.Text

inductive LexError
  /-- A quoted text that has no closing quote. -/
  | unterminated (quote : Char) (pos line column : Nat)
  /-- A character that starts no token. -/
  | unexpected (c : Char) (pos line column : Nat)
  /-- A `!` that no `=` follows. -/
  | bareBang (pos line column : Nat)
  deriving Repr, DecidableEq

def LexError.message : LexError → String
  | .unterminated q _ l c => s!"Unterminated string starting with {q} at line {l}, column {c}"
  | .unexpected ch _ l c => s!"Unexpected character: {quote ch.toString} at line {l}, column {c}"
  | .bareBang _ l c => s!"Unexpected character: ! at line {l}, column {c}"

namespace Token

def isSpace (c : Char) : Bool :=
  c = ' ' || c = '\t' || c = '\r' || c = '\n'

def isNameChar (c : Char) : Bool :=
  isAlnum c || c = '_'

def unescape (e : Char) : List Char :=
  if e = 'n' then ['\n']
  else if e = 't' then ['\t']
  else if e = 'r' then ['\r']
  else if e = '\\' || e = '"' || e = '\'' then [e]
  else ['\\', e]

/-- Reads the body of a quoted text after its opening quote `q`, or the place where the text ran
out. -/
def quoted (q : Char) : List Char → Cursor → List Char → Except Cursor (List Char × List Char × Cursor)
  | [], cur, _ => .error cur
  | c :: r, cur, acc =>
    if c = q then .ok (acc.reverse, r, cur.next c)
    else if c = '\\' then
      match r with
      | [] => .error (cur.next c)
      | e :: r2 => quoted q r2 ((cur.next c).next e) ((unescape e).reverse ++ acc)
    else quoted q r (cur.next c) (c :: acc)

theorem quoted_rest_length {q : Char} {cs : List Char} {cur : Cursor} {acc v rest : List Char}
    {cur2 : Cursor} (h : quoted q cs cur acc = .ok (v, rest, cur2)) : rest.length < cs.length := by
  fun_induction quoted q cs cur acc generalizing v rest cur2 with
  | case1 => cases h
  | case2 => cases h; simp
  | case3 => cases h
  | case4 cur acc e r2 hq ih => have := ih h; simp; omega
  | case5 c r cur acc hq hb ih => have := ih h; simp; omega

theorem dropWhile_length_le (p : Char → Bool) (cs : List Char) :
    (cs.dropWhile p).length ≤ cs.length :=
  (List.dropWhile_suffix p).length_le

/-- Splits off the digits of a number after its first character. -/
def numberTail (cs : List Char) : List Char × List Char :=
  match cs.dropWhile isDigitChar with
  | '.' :: d :: r =>
    if isDigitChar d then
      (cs.takeWhile isDigitChar ++ '.' :: (d :: r).takeWhile isDigitChar, (d :: r).dropWhile isDigitChar)
    else (cs.takeWhile isDigitChar, cs.dropWhile isDigitChar)
  | _ => (cs.takeWhile isDigitChar, cs.dropWhile isDigitChar)

theorem numberTail_rest_length (cs : List Char) : (numberTail cs).2.length ≤ cs.length := by
  have h1 := dropWhile_length_le isDigitChar cs
  unfold numberTail
  split
  · rename_i d r hrest
    split
    · have h2 := dropWhile_length_le isDigitChar (d :: r)
      rw [hrest] at h1
      simp at h1 h2 ⊢
      omega
    · exact h1
  · exact h1

def ofSpan (kind : TokenKind) (body : List Char) (start stop : Cursor) : Token :=
  { kind, text := String.ofList body, pos := start.pos, line := stop.line, column := start.column }

/-- The kind of a name: a keyword when its ASCII lower-case form is one. -/
def nameKind (body : List Char) : TokenKind :=
  (TokenKind.keyword? (String.ofList (body.map Char.toLower))).getD .ident

/-- The comparison or assignment operator that starts with `c`: `k1` alone, or `k2` when `=`
follows. -/
def operator (c : Char) (r : List Char) (k1 k2 : TokenKind) : TokenKind × List Char × List Char :=
  match r with
  | '=' :: r2 => (k2, [c, '='], r2)
  | _ => (k1, [c], r)

theorem operator_rest_length (c : Char) (r : List Char) (k1 k2 : TokenKind) :
    (operator c r k1 k2).2.2.length ≤ r.length := by
  unfold operator; split <;> simp

def scanFrom (cs : List Char) (cur : Cursor) (acc : Array Token) : Except LexError (Array Token) :=
  match cs with
  | [] => .ok (acc.push { kind := .eof, text := "", pos := cur.pos, line := cur.line, column := cur.column })
  | c :: r =>
    if isSpace c then scanFrom r (cur.next c) acc
    else if c = '"' || c = '\'' then
      match h : quoted c r (cur.next c) [] with
      | .error stop => .error (.unterminated c cur.pos stop.line cur.column)
      | .ok (body, rest, stop) =>
        have := quoted_rest_length h
        scanFrom rest stop (acc.push (ofSpan .str body cur stop))
    else if isDigitChar c || (c = '-' && (match r with | d :: _ => isDigitChar d | [] => false)) then
      have := numberTail_rest_length r
      let body := c :: (numberTail r).1
      let stop := cur.skip body
      scanFrom (numberTail r).2 stop (acc.push (ofSpan .num body cur stop))
    else if isLetter c || c = '_' then
      have := dropWhile_length_le isNameChar r
      let body := c :: r.takeWhile isNameChar
      let stop := cur.skip body
      scanFrom (r.dropWhile isNameChar) stop (acc.push (ofSpan (nameKind body) body cur stop))
    else
      match TokenKind.single? c with
      | some k => scanFrom r (cur.next c) (acc.push (ofSpan k [c] cur (cur.next c)))
      | none =>
        match TokenKind.comparison? c with
        | some (k1, k2) =>
          have := operator_rest_length c r k1 k2
          let op := operator c r k1 k2
          let stop := cur.skip op.2.1
          scanFrom op.2.2 stop (acc.push (ofSpan op.1 op.2.1 cur stop))
        | none =>
          if c = '!' then
            match r with
            | '=' :: r2 =>
              let stop := cur.skip [c, '=']
              scanFrom r2 stop (acc.push (ofSpan .ne [c, '='] cur stop))
            | _ => .error (.bareBang cur.pos cur.line cur.column)
          else if c = '-' then scanFrom r (cur.next c) (acc.push (ofSpan .minus [c] cur (cur.next c)))
          else .error (.unexpected c cur.pos cur.line cur.column)
termination_by cs.length
decreasing_by all_goals simp_all <;> omega

def scan (s : String) : Except LexError (Array Token) :=
  scanFrom s.toList {} #[]

end Token

/-!
## Cutting a query at its top-level pipes

`segments` cuts a query at every `|` that stands outside quotes and outside square brackets,
without reading tokens. Inside quotes a backslash protects the next character. Brackets are
counted up and down (a stray `]` makes the count negative, and no pipe cuts until it is back at
zero). Every segment is kept, empty ones included, except an empty last one.
-/

/-- The state of the cutter: the quote it is inside, if any, and the bracket depth. -/
structure CutState where
  quote : Option Char := none
  depth : Int := 0

/-- Cuts `cs` from state `st`; `cur` is the current segment (reversed) and `done` the finished
segments (reversed). -/
def cutFrom : List Char → CutState → List Char → List String → List String
  | [], _, cur, done =>
    (if cur.isEmpty then done else String.ofList cur.reverse :: done).reverse
  | c :: r, st, cur, done =>
    match st.quote with
    | some q =>
      if c = '\\' then
        match r with
        | e :: r2 => cutFrom r2 st (e :: c :: cur) done
        | [] => cutFrom [] st (c :: cur) done
      else if c = q then cutFrom r { st with quote := none } (c :: cur) done
      else cutFrom r st (c :: cur) done
    | none =>
      if c = '"' || c = '\'' then cutFrom r { st with quote := some c } (c :: cur) done
      else if c = '[' then cutFrom r { st with depth := st.depth + 1 } (c :: cur) done
      else if c = ']' then cutFrom r { st with depth := st.depth - 1 } (c :: cur) done
      else if c = '|' && st.depth == 0 then cutFrom r st [] (String.ofList cur.reverse :: done)
      else cutFrom r st (c :: cur) done

def segments (s : String) : List String :=
  cutFrom s.toList {} [] []

end PipeQuery.Query
