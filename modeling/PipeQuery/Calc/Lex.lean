import PipeQuery.Calc.Syntax
import PipeQuery.Text.Classes
import PipeQuery.Text.Normal
import PipeQuery.Text.Numeral
import PipeQuery.Regex.Parse
import PipeQuery.Text.Case

/-!
# Calculations: tokens

A formula is cut into names, numbers, texts and operators; adjacent texts are joined and keep
their bodies as written. Cutting fails with the language's message for the first problem in the
whole formula; brackets left open are reported by the parser.
-/

namespace PipeQuery.Calc

def keywords : List String :=
  ["False", "None", "True", "and", "as", "assert", "async", "await", "break", "class", "continue",
   "def", "del", "elif", "else", "except", "finally", "for", "from", "global", "if", "import", "in",
   "is", "lambda", "nonlocal", "not", "or", "pass", "raise", "return", "try", "while", "with",
   "yield"]

inductive Tok
  | name (s : String)
  /-- A name beyond ASCII whose compatibility form spells a keyword: a name all the same. -/
  | word (s : String)
  | number (text : String)
  | text (body : String) (raw isBytes isFormat : Bool)
  | op (s : String)
  | newline
  | stop
  deriving Inhabited, BEq, Repr

def operators : List String :=
  ["**=", "//=", ">>=", "<<=", "...", "->", ":=", "**", "//", "<<", ">>", "<=", ">=", "==", "!=",
   "+=", "-=", "*=", "/=", "%=", "&=", "|=", "^=", "@=", "+", "-", "*", "/", "%", "@", "&", "|",
   "^", "~", "<", ">", "(", ")", "[", "]", "\x7b", "\x7d", ",", ":", ";", ".", "=", "!"]

/-- Characters that may begin a name as the formula is cut: ASCII letters, `_`, and all beyond
ASCII. -/
def isNameStart (c : Char) : Bool :=
  c == '_' || ('a' ≤ c && c ≤ 'z') || ('A' ≤ c && c ≤ 'Z') || c.toNat ≥ 128

def isNameChar (c : Char) : Bool :=
  isNameStart c || ('0' ≤ c && c ≤ '9')

/-- The failure of a misplaced character, named by its code and shown when printable. -/
def invalidCharacter (c : Char) : String :=
  let code := (Text.hexPadded 4 c.toNat).toUpper
  if Text.isPrintable c then s!"invalid character '{c}' (U+{code})"
  else s!"invalid non-printable character U+{code}"

/-- Reads a text from its opening quote: its body and the position after it. -/
def readText (cs : Array Char) (start : Nat) : Except String (String × Nat) :=
  let q := cs.getD start '"'
  let triple := cs[start + 1]? == some q && cs[start + 2]? == some q
  let bodyStart := if triple then start + 3 else start + 1
  let rec go : Nat → Nat → String → Except String (String × Nat)
    | 0, _, _ => throw "unterminated string literal (detected at line 1)"
    | fuel + 1, i, acc =>
      match cs[i]? with
      | none =>
        throw (if triple then "unterminated triple-quoted string literal (detected at line 1)"
          else "unterminated string literal (detected at line 1)")
      | some c =>
        if c == q && (!triple || (cs[i + 1]? == some q && cs[i + 2]? == some q)) then
          pure (acc, if triple then i + 3 else i + 1)
        else if c == '\n' && !triple then throw "unterminated string literal (detected at line 1)"
        else if c == '\\' then
          match cs[i + 1]? with
          | some d => go fuel (i + 2) ((acc.push c).push d)
          | none => go fuel (i + 1) (acc.push c)
        else go fuel (i + 1) (acc.push c)
  go (cs.size + 1) bodyStart ""

/-- Whether letters right after a number begin a keyword that may follow it. -/
def keywordAfterNumber (cs : List Char) : Bool :=
  ["if", "in", "is"].any (fun w => w.toList.isPrefixOf cs) ||
    ["and", "else", "for", "or", "not"].any fun w =>
      w.toList.isPrefixOf cs && !((cs.drop w.length).head?.map isNameChar).getD false

def readNumber (cs : Array Char) (start : Nat) : Except String (String × Nat) :=
  let digitsFrom (i : Nat) (ok : Char → Bool) : Nat :=
    let rec go : Nat → Nat → Nat
      | 0, j => j
      | fuel + 1, j =>
        match cs[j]? with
        | some c =>
          if ok c then go fuel (j + 1)
          else if c == '_' && j > i && (cs[j + 1]?.map ok).getD false then go fuel (j + 1)
          else j
        | none => j
    go (cs.size + 1) i
  let textOf (i j : Nat) := String.ofList (cs.extract i j).toList
  let endCheck (j : Nat) (kind : String) : Except String (String × Nat) :=
    match cs[j]? with
    | some c =>
      if c.toNat < 128 && isNameChar c && !keywordAfterNumber (cs.extract j (j + 5)).toList then
        throw s!"invalid {kind} literal"
      else pure (textOf start j, j)
    | none => pure (textOf start j, j)
  let c0 := cs.getD start '0'
  let c1 := cs.getD (start + 1) ' '
  if c0 == '0' && (c1 == 'x' || c1 == 'X' || c1 == 'o' || c1 == 'O' || c1 == 'b' || c1 == 'B') then
    let (ok, kind) : (Char → Bool) × String :=
      if c1 == 'x' || c1 == 'X' then (Regex.isHexDigit, "hexadecimal")
      else if c1 == 'o' || c1 == 'O' then (Regex.isOctDigit, "octal")
      else (fun c => c == '0' || c == '1', "binary")
    -- a decimal digit outside the base is named; hexadecimal has no such digit
    let wrongDigit (c : Char) : Bool := Regex.isAsciiDigit c && !ok c
    let rec groups : Nat → Nat → Except String (String × Nat)
      | 0, j => endCheck j kind
      | fuel + 1, j =>
        let j := if cs[j]? == some '_' then j + 1 else j
        let c := cs.getD j ' '
        if !ok c then
          if wrongDigit c then throw s!"invalid digit '{c}' in {kind} literal"
          else throw s!"invalid {kind} literal"
        else
          let k := (cs.extract j cs.size).toList.takeWhile ok |>.length
          let next := cs.getD (j + k) ' '
          if next == '_' then groups fuel (j + k)
          else if wrongDigit next then throw s!"invalid digit '{next}' in {kind} literal"
          else endCheck (j + k) kind
    groups cs.size (start + 2)
  else
    let intEnd := if c0 == '.' then start else digitsFrom start Regex.isAsciiDigit
    let (j, isFloat) :=
      if cs[intEnd]? == some '.' then
        let k := digitsFrom (intEnd + 1) Regex.isAsciiDigit
        (k, true)
      else (intEnd, false)
    let (j, isFloat) :=
      match cs[j]? with
      | some 'e' | some 'E' =>
        let k := if cs[j + 1]? == some '+' || cs[j + 1]? == some '-' then j + 2 else j + 1
        let m := digitsFrom k Regex.isAsciiDigit
        if m > k then (m, true) else (j, isFloat)
      | _ => (j, isFloat)
    let (j, isImag) :=
      match cs[j]? with
      | some 'j' | some 'J' => (j + 1, true)
      | _ => (j, false)
    if !isFloat && !isImag && c0 == '0' &&
        (cs.extract start intEnd).toList.any (fun c => c != '0' && c != '_') then
      throw "leading zeros in decimal integer literals are not permitted; use an 0o prefix for octal integers"
    else
      let count := ((cs.extract start j).toList.filter Regex.isAsciiDigit).length
      match endCheck j (if isImag then "imaginary" else "decimal") with
      | .ok r =>
        if !isFloat && !isImag && count > Text.maxIntDigits then
          throw s!"{Text.digitLimitMessage count} - Consider hexadecimal for huge integer literals to avoid decimal conversion limits."
        else pure r
      | .error e => throw e

def textPrefixes : List String :=
  ["r", "u", "b", "f", "br", "rb", "fr", "rf"]

/-- Cuts a formula into tokens with their places; brackets nest at most 200 deep. -/
def tokenizeAt (src : String) : Except (String × Nat) (Array (Tok × Nat)) :=
  let cs := src.toList.toArray
  let lineAt (i : Nat) : Nat := ((cs.extract 0 i).toList.filter (· == '\n')).length + 1
  let rec go : Nat → Nat → List (Char × Nat) → Array (Tok × Nat) →
      Except (String × Nat) (Array (Tok × Nat))
    | 0, _, _, acc => pure (acc.push (.stop, cs.size))
    | fuel + 1, i, opens, acc =>
      let acc' := acc
      let acc := fun (t : Tok) => acc'.push (t, i)
      let throw {α : Type} (e : String) : Except (String × Nat) α := .error (e, i)
      match cs[i]? with
      | none => pure (acc .stop)
      | some c =>
        if c == ' ' || c == '\t' || c == Char.ofNat 12 then go fuel (i + 1) opens acc'
        else if c == '\n' then
          -- a line with nothing but blanks and a comment ends no line of the formula
          let blank := match acc'.back? with
            | some (.newline, _) | none => true
            | _ => false
          go fuel (i + 1) opens (if opens.isEmpty && !blank then acc .newline else acc')
        else if c == '#' then
          let rest := (cs.extract i cs.size).toList.takeWhile (· != '\n')
          go fuel (i + rest.length) opens acc'
        else if c == '\\' then
          if cs[i + 1]? == some '\n' then go fuel (i + 2) opens acc'
          else throw "unexpected character after line continuation character"
        else if isNameStart c then
          let word := (cs.extract i cs.size).toList.takeWhile isNameChar
          let w := String.ofList word
          let next := cs[i + word.length]?
          if (next == some '"' || next == some '\'') && textPrefixes.contains (Text.lower w) then
            let lw := Text.lower w
            match readText cs (i + word.length) with
            | .ok (v, j) =>
              go fuel j opens (acc (.text v (lw.contains 'r') (lw.contains 'b') (lw.contains 'f')))
            | .error e => .error (e, i)
          else
            match Text.firstNonIdent? word with
            | some k => throw (invalidCharacter (word.getD k ' '))
            | none =>
              let n := Text.nameForm w
              let tok := if n != w && keywords.contains n then Tok.word n else Tok.name n
              go fuel (i + word.length) opens (acc tok)
        else if Regex.isAsciiDigit c || (c == '.' && (cs[i + 1]?.map Regex.isAsciiDigit).getD false) then
          match readNumber cs i with
          | .ok (t, j) => go fuel j opens (acc (.number t))
          | .error e => .error (e, i)
        else if c == '"' || c == '\'' then
          match readText cs i with
          | .ok (v, j) => go fuel j opens (acc (.text v false false false))
          | .error e => .error (e, i)
        else
          match operators.find? fun op => (cs.extract i (i + op.length)).toList == op.toList with
          | some op =>
            let opens' : Except (String × Nat) (List (Char × Nat)) :=
              if op == "(" || op == "[" || op == "\x7b" then
                if opens.length ≥ 200 then throw "too many nested parentheses"
                else pure ((c, i) :: opens)
              else if op == ")" || op == "]" || op == "\x7d" then
                match opens with
                | [] => throw s!"unmatched '{c}'"
                | (o, place) :: rest =>
                  if (o == '(' && c == ')') || (o == '[' && c == ']') || (o == '\x7b' && c == '\x7d') then
                    pure rest
                  else if lineAt place != lineAt i then
                    let opened := lineAt place
                    throw s!"closing parenthesis '{c}' does not match opening parenthesis '{o}' on line {opened}"
                  else throw s!"closing parenthesis '{c}' does not match opening parenthesis '{o}'"
              else pure opens
            match opens' with
            | .ok o => go fuel (i + op.length) o (acc (.op op))
            | .error e => .error e
          | none =>
            if Text.isPrintable c then go fuel (i + 1) opens (acc (.op c.toString))
            else throw (invalidCharacter c)
  go (cs.size + 1) 0 [] #[]

end PipeQuery.Calc
