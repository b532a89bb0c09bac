import PipeQuery.Calc.Syntax
import PipeQuery.Calc.Literal
import PipeQuery.Text.Classes

/-!
# Calculations: the fields of formatted texts

`formattedPieces` cuts the body of an `f'…'` text into text and fields (`{expr=!r:spec}`, with
fields in the specification at most two levels deep), reading each expression as soon as it ends
so that a malformed one is reported before what follows. `templateStep` reads a template of the
`format` method one field at a time, since a field is filled before the next is read.
-/

namespace PipeQuery.Calc

def flushText {α : Type} (raw : Bool) (lit : List Char) (pieces : List (FormatPiece α)) :
    Except String (List (FormatPiece α)) :=
  if lit.isEmpty then pure pieces
  else do
    let s ← if raw then pure (String.ofList lit) else unescape (String.ofList lit)
    pure (pieces ++ [.text s])

/-- A field's expression up to the `}`, `!`, `:` or `=` ending it outside brackets and quotes: its
characters and the rest. -/
def fieldSource : Nat → List Char → List Char → Option (Char × Bool) → List Char →
    Except String (List Char × List Char)
  | 0, _, _, _, _ => throw "f-string: expecting '\x7d'"
  | _ + 1, [], opens, quote, _ =>
    if quote.isSome then throw "f-string: unterminated string"
    else match opens with
      | o :: _ => throw s!"f-string: unmatched '{o}'"
      | [] => throw "f-string: expecting '\x7d'"
  | fuel + 1, c :: rest, opens, quote, acc =>
    let tripled : Bool := rest.length ≥ 2 && rest.take 2 == [c, c]
    if c == '\\' then throw "f-string expression part cannot include a backslash"
    else match quote with
    | some (q, triple) =>
      if c == q && triple && tripled then
        fieldSource fuel (rest.drop 2) opens none (acc ++ [c, c, c])
      else if c == q && !triple then fieldSource fuel rest opens none (acc ++ [c])
      else fieldSource fuel rest opens quote (acc ++ [c])
    | none =>
      if c == '\'' || c == '"' then
        if tripled then fieldSource fuel (rest.drop 2) opens (some (c, true)) (acc ++ [c, c, c])
        else fieldSource fuel rest opens (some (c, false)) (acc ++ [c])
      else if c == '(' || c == '[' || c == '\x7b' then
        if opens.length ≥ 200 then throw "f-string: too many nested parenthesis"
        else fieldSource fuel rest (c :: opens) none (acc ++ [c])
      else if c == '#' then throw "f-string expression part cannot include '#'"
      else if opens.isEmpty && "!:\x7d=<>".contains c then
        if rest.head? == some '=' && "!=<>".contains c then
          fieldSource fuel rest.tail opens none (acc ++ [c, '='])
        else if c == '<' || c == '>' then fieldSource fuel rest opens none (acc ++ [c])
        else pure (acc, c :: rest)
      else if c == ')' || c == ']' || c == '\x7d' then
        match opens with
        | [] => throw s!"f-string: unmatched '{c}'"
        | o :: more =>
          if (o == '(' && c == ')') || (o == '[' && c == ']') || (o == '\x7b' && c == '\x7d') then
            fieldSource fuel rest more none (acc ++ [c])
          else throw s!"f-string: closing parenthesis '{c}' does not match opening parenthesis '{o}'"
      else fieldSource fuel rest opens none (acc ++ [c])

section Formatted

variable {α ε : Type} (oops : String → ε) (read : String → Except ε α)

mutual

/-- Reads plain text and fields; in a format specification reading stops before the closing `}`. -/
def formattedFrom : Nat → Bool → Nat → Bool → List Char → List Char → List (FormatPiece α) →
    Except ε (List (FormatPiece α) × List Char)
  | 0, _, _, _, _, _, _ => throw (oops "f-string: expecting '\x7d'")
  | _ + 1, raw, _, inSpec, [], lit, pieces =>
    if inSpec then throw (oops "f-string: expecting '\x7d'")
    else do return (← (flushText raw lit pieces).mapError oops, [])
  | fuel + 1, raw, nest, inSpec, c :: rest, lit, pieces =>
    if c == '\\' && !raw && rest.take 2 == ['N', '{'] then
      -- a named character: its braces are not a field
      let name := (rest.drop 2).takeWhile (· != '}')
      let taken := min rest.length (name.length + 3)
      formattedFrom fuel raw nest inSpec (rest.drop taken) (lit ++ c :: rest.take taken) pieces
    else if c == '{' then
      if !inSpec && rest.head? == some '{' then
        formattedFrom fuel raw nest inSpec rest.tail (lit ++ ['{']) pieces
      else do
        let pieces ← (flushText raw lit pieces).mapError oops
        let (piece, after) ← formattedField fuel raw (nest + 1) rest
        formattedFrom fuel raw nest inSpec after [] (pieces ++ [piece])
    else if c == '}' then
      if inSpec then do return (← (flushText raw lit pieces).mapError oops, c :: rest)
      else if rest.head? == some '}' then
        formattedFrom fuel raw nest inSpec rest.tail (lit ++ ['}']) pieces
      else throw (oops "f-string: single '\x7d' is not allowed")
    else formattedFrom fuel raw nest inSpec rest (lit ++ [c]) pieces

def formattedField : Nat → Bool → Nat → List Char → Except ε (FormatPiece α × List Char)
  | 0, _, _, _ => throw (oops "f-string: expecting '\x7d'")
  | fuel + 1, raw, nest, cs => do
    if nest > 2 then throw (oops "f-string: expressions nested too deeply")
    let (expr, rest) ← (fieldSource (cs.length + 1) cs [] none []).mapError oops
    let src := String.ofList expr
    -- only spaces, tabs, line feeds and form feeds count as nothing
    if expr.all (fun c => c == ' ' || c == '\t' || c == '\n' || c.toNat == 12) then
      match rest.head? with
      | some '!' | some ':' | some '=' =>
        let mark := rest.headD ' '
        throw (oops s!"f-string: expression required before '{mark}'")
      | _ => throw (oops "f-string: empty expression not allowed")
    let what ← read src
    let (echo, rest) := match rest with
      | '=' :: r =>
        let blanks := r.takeWhile fun c => c == ' ' || ('\t' ≤ c && c ≤ '\r')
        (some (src ++ "=" ++ String.ofList blanks), r.drop blanks.length)
      | r => (none, r)
    let (conv, rest) ← match rest with
      | '!' :: c :: r =>
        if c == 'r' || c == 's' || c == 'a' then
          match r with
          | ':' :: _ | '}' :: _ => pure (some c, r)
          | _ => throw (oops "f-string: expecting '\x7d'")
        else throw (oops "f-string: invalid conversion character: expected 's', 'r', or 'a'")
      | ['!'] => throw (oops "f-string: expecting '\x7d'")
      | r => pure (none, r)
    -- an echoing field shows the value's form with kind unless told otherwise
    let conv := if echo.isSome && conv.isNone && rest.head? != some ':' then some 'r' else conv
    match rest with
    | ':' :: r => do
      let (spec, after) ← formattedFrom fuel raw nest true r [] []
      match after with
      | '}' :: after => pure (.field what echo conv spec, after)
      | _ => throw (oops "f-string: expecting '\x7d'")
    | '}' :: after => pure (.field what echo conv [], after)
    | _ => throw (oops "f-string: expecting '\x7d'")

end

def formattedPieces (body : String) (raw : Bool) : Except ε (List (FormatPiece α)) := do
  let cs := body.toList
  return (← formattedFrom oops read (cs.length + 2) raw 0 false cs [] []).1

end Formatted

/-- A field of a `format` template: its name, conversion, specification, and whether that holds
fields of its own. -/
structure TemplateField where
  name : List Char
  conv : Option Char
  spec : List Char
  nested : Bool
  deriving Inhabited

/-- The field name after a field's `{`, with the character that ends it and what follows. -/
def fieldNameEnd : Nat → List Char → List Char → Except String (List Char × Option Char × List Char)
  | 0, _, acc => pure (acc, none, [])
  | _ + 1, [], acc => pure (acc, none, [])
  | fuel + 1, c :: rest, acc =>
    if c == '\x7b' then throw "unexpected '\x7b' in field name"
    else if c == '[' then
      let inner := rest.takeWhile (· != ']')
      fieldNameEnd fuel (rest.drop inner.length) (acc ++ c :: inner)
    else if c == '\x7d' || c == ':' || c == '!' then pure (acc, some c, rest)
    else fieldNameEnd fuel rest (acc ++ [c])

/-- A field's specification up to the `}` closing the field, inner braces counted: the
specification, whether it has a brace, the rest. -/
def fieldSpecEnd : Nat → List Char → Nat → List Char → Bool →
    Except String (List Char × Bool × List Char)
  | 0, _, _, _, _ => throw "unmatched '\x7b' in format spec"
  | _ + 1, [], _, _, _ => throw "unmatched '\x7b' in format spec"
  | fuel + 1, c :: rest, depth, acc, nested =>
    if c == '\x7b' then fieldSpecEnd fuel rest (depth + 1) (acc ++ [c]) true
    else if c == '\x7d' then
      if depth ≤ 1 then pure (acc, nested, rest)
      else fieldSpecEnd fuel rest (depth - 1) (acc ++ [c]) nested
    else fieldSpecEnd fuel rest depth (acc ++ [c]) nested

def templateField (cs : List Char) : Except String (TemplateField × List Char) := do
  let (name, stop, rest) ← fieldNameEnd (cs.length + 1) cs []
  match stop with
  | none => throw "expected '\x7d' before end of string"
  | some '\x7d' => pure ({ name, conv := none, spec := [], nested := false }, rest)
  | some c =>
    let (conv, rest, closed) ← if c == '!' then
        match rest with
        | [] => throw "end of string while looking for conversion specifier"
        | k :: r =>
          match r with
          | '\x7d' :: r => pure (some k, r, true)
          | ':' :: r => pure (some k, r, false)
          | [] => pure (some k, [], false)
          | _ => throw "expected ':' after conversion specifier"
      else pure (none, rest, false)
    if closed then pure ({ name, conv, spec := [], nested := false }, rest)
    else
      let (spec, nested, rest) ← fieldSpecEnd (rest.length + 1) rest 1 [] false
      pure ({ name, conv, spec, nested }, rest)

/-- One step through a template: plain text, the field if one follows, and the rest; a lone brace
fails. -/
def templateStep (cs : List Char) : Except String (Option (String × Option TemplateField × List Char)) :=
  if cs.isEmpty then pure none
  else
    let lit := cs.takeWhile fun c => c != '\x7b' && c != '\x7d'
    match cs.drop lit.length with
    | [] => pure (some (String.ofList lit, none, []))
    | c :: rest =>
      if c == '\x7d' then
        if rest.head? == some '\x7d' then pure (some (String.ofList (lit ++ [c]), none, rest.tail))
        else throw "Single '\x7d' encountered in format string"
      else if rest.isEmpty then throw "Single '\x7b' encountered in format string"
      else if rest.head? == some '\x7b' then pure (some (String.ofList (lit ++ [c]), none, rest.tail))
      else do
        let (field, rest) ← templateField rest
        pure (some (String.ofList lit, some field, rest))

end PipeQuery.Calc
