import PipeQuery.Value.Arith
import PipeQuery.Decimal.Double
import PipeQuery.Time.Strftime
import PipeQuery.Text.Numeral

/-!
# Formatting values by specification

`Shown.formatBy spec x` writes a value by a format specification
`[[fill]align][sign][z][#][0][width][grouping][.precision][type]`, each kind taking its own types
(texts `s`, integers `b c d o x X n`, doubles `e f g n %` and the shortest form) with padding and
digit grouping. `percentFormat` is the older `template % values`.
-/

namespace PipeQuery

/-- A value about to be formatted: the value, its plain text, its form with kind, and its kind's
name. -/
structure Shown where
  value : Value
  text : String
  repr : String
  kind : String
  deriving Inhabited

def Shown.ofValue (v : Value) : Shown :=
  { value := v, text := v.text, repr := v.repr, kind := v.typeName }

abbrev FormatFailure := FaultKind × String

/-- A format specification, read. `sign` is `none` when not given; `width` is `0` when not
given. -/
structure FormatSpec where
  fill : Char := ' '
  fillGiven : Bool := false
  align : Option Char := none
  sign : Option Char := none
  noNegZero : Bool := false
  alternate : Bool := false
  width : Nat := 0
  grouping : Option Char := none
  precision : Option Nat := none
  kind : Option Char := none
  deriving Inhabited

namespace FormatSpec

def isAlign (c : Char) : Bool := c == '<' || c == '>' || c == '=' || c == '^'

/-- Reads decimal digits of any script at the front: their value, if any, and the rest; too large a
width fails. -/
def digitsAt (cs : List Char) : Except FormatFailure (Option Nat × List Char) := do
  let ds := cs.takeWhile Text.isDecimalDigit
  let n ← ds.foldlM (fun (n : Nat) d =>
    if n > (9223372036854775807 - Text.decimalValue d) / 10 then
      throw (.valueError, "Too many decimal digits in format string")
    else pure (10 * n + Text.decimalValue d)) 0
  pure (if ds.isEmpty then none else some n, cs.drop ds.length)

/-- Reads a specification for a value of kind `kind`, aligned `>` by default when `numeric`. -/
def read (spec kind : String) (numeric : Bool) : Except FormatFailure FormatSpec := do
  let cs := spec.toList
  let (s, cs) : FormatSpec × List Char :=
    match cs with
    | f :: a :: rest =>
      if isAlign a then ({ fill := f, fillGiven := true, align := some a }, rest)
      else if isAlign f then ({ align := some f }, a :: rest)
      else ({}, cs)
    | [a] => if isAlign a then ({ align := some a }, []) else ({}, cs)
    | [] => ({}, [])
  let (s, cs) := match cs with
    | c :: rest => if c == '+' || c == '-' || c == ' ' then ({ s with sign := some c }, rest) else (s, cs)
    | [] => (s, cs)
  let (s, cs) := match cs with
    | 'z' :: rest => ({ s with noNegZero := true }, rest)
    | _ => (s, cs)
  let (s, cs) := match cs with
    | '#' :: rest => ({ s with alternate := true }, rest)
    | _ => (s, cs)
  let (s, cs) := match cs with
    | '0' :: rest =>
      if !s.fillGiven then
        ({ s with fill := '0', fillGiven := true,
                  align := if s.align.isNone && numeric then some '=' else s.align }, rest)
      else (s, cs)
    | _ => (s, cs)
  let (w, cs) ← digitsAt cs
  let s := { s with width := w.getD 0 }
  let (s, cs) := match cs with
    | ',' :: rest => ({ s with grouping := some ',' }, rest)
    | _ => (s, cs)
  let (s, cs) ← match cs with
    | '_' :: rest =>
      if s.grouping.isSome then throw (.valueError, "Cannot specify both ',' and '_'.")
      else pure ({ s with grouping := some '_' }, rest)
    | _ => pure (s, cs)
  if cs.head? == some ',' && s.grouping == some '_' then
    throw (.valueError, "Cannot specify both ',' and '_'.")
  let (s, cs) ← match cs with
    | '.' :: rest =>
      match ← digitsAt rest with
      | (some p, rest) => pure ({ s with precision := some p }, rest)
      | (none, _) => throw (.valueError, "Format specifier missing precision")
    | _ => pure (s, cs)
  match cs with
  | [] => pure s
  | [t] =>
    let s := { s with kind := some t }
    if s.grouping.isSome && !"defgEGF%".contains t && !("boxX".contains t && s.grouping == some '_') then
      let sep := s.grouping.getD ','
      throw (.valueError, s!"Cannot specify '{sep}' with '{t}'.")
    pure s
  | _ => throw (.valueError, s!"Invalid format specifier '{spec}' for object of type '{kind}'")

end FormatSpec

def fillText (c : Char) (n : Nat) : String :=
  String.ofList (List.replicate n c)

def groupDigits (digits : List Char) (sep : Char) (every : Nat) : List Char :=
  let rev := digits.reverse
  let rec go : List Char → Nat → List Char → List Char
    | [], _, acc => acc
    | d :: ds, k, acc =>
      if k == every then go ds 1 (d :: sep :: acc) else go ds (k + 1) (d :: acc)
  go rev 0 []

def groupPadded (digits : List Char) (sep : Char) (every minWidth : Nat) : List Char :=
  let rec go : Nat → List Char → List Char
    | 0, ds => groupDigits ds sep every
    | fuel + 1, ds =>
      let g := groupDigits ds sep every
      if g.length ≥ minWidth then g else go fuel ('0' :: ds)
  go (minWidth + 1) digits

/-- Lays out a number: sign, prefix, digits and the rest, padded as specified, grouped when asked.
-/
def layoutNumber (s : FormatSpec) (sign lead : String) (digits : List Char) (rest : String)
    (every : Nat) : String :=
  let head := sign ++ lead
  let align := s.align.getD '>'
  let digits :=
    match s.grouping with
    | some sep =>
      if align == '=' && s.fill == '0' then
        groupPadded digits sep every (s.width - min s.width (head.length + rest.length))
      else groupDigits digits sep every
    | none => digits
  let body := String.ofList digits ++ rest
  let len := head.length + body.length
  if s.width ≤ len then head ++ body
  else
    let n := s.width - len
    match align with
    | '<' => head ++ body ++ fillText s.fill n
    | '^' => fillText s.fill (n / 2) ++ head ++ body ++ fillText s.fill (n - n / 2)
    | '=' => head ++ fillText s.fill n ++ body
    | _ => fillText s.fill n ++ head ++ body

def signFor (negative : Bool) (sign : Option Char) : String :=
  if negative then "-"
  else match sign with
    | some '+' => "+"
    | some ' ' => " "
    | _ => ""

def digitsIn (base : Nat) (n : Nat) : List Char :=
  Nat.toDigits base n

/-- The failure of an unknown type letter: the letter when printable ASCII, else its code in
hexadecimal. -/
def unknownCode (c : Char) (kind : String) : FormatFailure :=
  let shown := if 32 < c.toNat && c.toNat < 128 then c.toString
    else "\\x" ++ String.ofList (digitsIn 16 c.toNat)
  (.valueError, s!"Unknown format code '{shown}' for object of type '{kind}'")

def formatInt (s : FormatSpec) (n : Int) : Except FormatFailure String := do
  if s.precision.isSome then throw (.valueError, "Precision not allowed in integer format specifier")
  if s.noNegZero then
    throw (.valueError, "Negative zero coercion (z) not allowed in integer format specifier")
  let t := s.kind.getD 'd'
  if t == 'c' then
    if s.sign.isSome then throw (.valueError, "Sign not allowed with integer format specifier 'c'")
    if s.alternate then
      throw (.valueError, "Alternate form (#) not allowed with integer format specifier 'c'")
    if n < 0 || n > 0x10FFFF then throw (.overflowError, "%c arg not in range(0x110000)")
    let ch := (Char.ofNat n.toNat).toString
    let s := { s with grouping := none, align := if s.align == some '=' then some '=' else s.align }
    return layoutNumber s "" "" ch.toList "" 3
  let (base, lead) : Nat × String := match t with
    | 'b' => (2, "0b")
    | 'o' => (8, "0o")
    | 'x' => (16, "0x")
    | 'X' => (16, "0X")
    | _ => (10, "")
  let ds := digitsIn base n.natAbs
  let ds := if t == 'X' then ds.map Char.toUpper else ds
  let every := if base == 10 then 3 else 4
  return layoutNumber s (signFor (n < 0) s.sign) (if s.alternate then lead else "") ds "" every

/-- The digits and exponent of `x ≠ 0` to `p ≥ 1` significant digits: `x ≈ d * 10^e`, `d` of exactly
`p` digits. -/
def significant (x : Float) (p : Nat) : Nat × Int :=
  let b := Decimal.Binary.ofBits x.toBits
  let ex := b.exact
  let lead := Decimal.leadExp ex.digits ex.exp
  let shift : Int := lead - (p : Int) + 1
  let n :=
    if shift ≤ ex.exp then ex.digits * Nat.pow 10 (ex.exp - shift).toNat
    else Decimal.roundDiv ex.digits (Nat.pow 10 (shift - ex.exp).toNat)
  if n ≥ Nat.pow 10 p then (n / 10, shift + 1) else (n, shift)

def dropTrailingZeros (s : String) : String :=
  if !s.contains '.' then s
  else
    let t := (s.toList.reverse.dropWhile (· == '0')).reverse
    let t := if t.getLast? == some '.' then t.dropLast else t
    String.ofList t

/-- A finite double's magnitude in the `g` form to `p` digits; `alt` keeps trailing zeros, `dot0` a
digit after the point. -/
def generalParts (x : Float) (p : Nat) (alt dot0 : Bool) : String × String :=
  let p := max p 1
  let ax := x.abs
  let (_, e) := if ax == 0.0 then (0, 0) else significant ax p
  let decpt : Int := if ax == 0.0 then 1 else e + p
  -- keeping a digit after the point moves the switch to the exponent form one place earlier
  if decpt ≤ -4 || decpt > (p : Int) - (if dot0 then 1 else 0) then
    let t := Decimal.sciText ax (p - 1) false
    let (mant, expo) := match t.splitOn "e" with
      | [m, x] => (m, "e" ++ x)
      | _ => (t, "")
    let mant := if alt then (if mant.contains '.' then mant else mant ++ ".") else dropTrailingZeros mant
    let (whole, frac) := match mant.splitOn "." with
      | [w, f] => (w, "." ++ f)
      | _ => (mant, "")
    (whole, frac ++ expo)
  else
    let decimals := (p - decpt).toNat
    let t := Decimal.fixedText ax decimals false
    let t := if alt then (if t.contains '.' then t else t ++ ".") else dropTrailingZeros t
    let t := if dot0 && !t.contains '.' then t ++ ".0" else t
    match t.splitOn "." with
    | [w, f] => (w, "." ++ f)
    | _ => (t, "")

def formatFloat (s : FormatSpec) (kind : String) (x : Float) : Except FormatFailure String := do
  let t := s.kind
  if let some c := t then
    if !"eEfFgGn%".contains c then
      throw (unknownCode c kind)
  let upper := t == some 'E' || t == some 'F' || t == some 'G'
  let x := if t == some '%' then x * 100.0 else x
  let negative := Num.signBit x && !x.isNaN
  if x.isNaN || x.isInf then
    let word := if x.isNaN then "nan" else "inf"
    let word := if upper then word.toUpper else word
    let s := if s.fill == '0' && !s.fillGiven then s else s
    return layoutNumber { s with grouping := none } (signFor negative s.sign) "" word.toList
      (if t == some '%' then "%" else "") 3
  let ax := x.abs
  let (whole, rest) : String × String :=
    match t, s.precision with
    | none, none =>
      let txt := Decimal.showFloat ax
      match txt.splitOn "e" with
      | [m, e] =>
        match m.splitOn "." with
        | [w, f] => (w, "." ++ f ++ "e" ++ e)
        | _ => (m, (if s.alternate then "." else "") ++ "e" ++ e)
      | _ =>
        match txt.splitOn "." with
        | [w, f] => (w, "." ++ f)
        | _ => (txt, "")
    | none, some p => generalParts ax p s.alternate true
    | some c, p =>
      let p := p.getD 6
      if c == 'f' || c == 'F' || c == '%' then
        let txt := Decimal.fixedText ax p false
        let txt := if s.alternate && p == 0 then txt ++ "." else txt
        match txt.splitOn "." with
        | [w, f] => (w, "." ++ f)
        | _ => (txt, "")
      else if c == 'e' || c == 'E' then
        let txt := Decimal.sciText ax p false
        let txt := if s.alternate && p == 0 then txt.replace "e" ".e" else txt
        let txt := if c == 'E' then txt.toUpper else txt
        match txt.splitOn "." with
        | [w, f] => (w, "." ++ f)
        | _ =>
          match txt.splitOn (if c == 'E' then "E" else "e") with
          | [w, e] => (w, (if c == 'E' then "E" else "e") ++ e)
          | _ => (txt, "")
      else
        let (w, r) := generalParts ax (if p == 0 then 1 else p) s.alternate false
        (w, if c == 'G' then r.toUpper else r)
  -- a negative zero after rounding loses its sign when asked
  let isZero := (whole ++ rest).all fun ch => ch == '0' || ch == '.' || ch == 'e' || ch == 'E' ||
    ch == '+' || ch == '-'
  let negative := negative && !(s.noNegZero && isZero)
  let rest := if t == some '%' then rest ++ "%" else rest
  return layoutNumber s (signFor negative s.sign) "" whole.toList rest 3

/-- One part of a complex number under type `t` and precision `p`; no `.0` for whole numbers. -/
def complexPart (t : Option Char) (p : Option Nat) (alt : Bool) (ax : Float) : String × String :=
  let split (txt : String) : String × String :=
    let whole := txt.toList.takeWhile fun c => c != '.' && c != 'e' && c != 'E'
    (String.ofList whole, String.ofList (txt.toList.drop whole.length))
  let upper := t == some 'E' || t == some 'F' || t == some 'G'
  if ax.isNaN || ax.isInf then
    let w := if ax.isNaN then "nan" else "inf"
    ((if upper then w.toUpper else w), "")
  else
    match t, p with
    | none, none =>
      let txt := Value.partText ax
      let txt := if alt && !txt.contains '.' then
          match txt.splitOn "e" with
          | [m, e] => m ++ ".e" ++ e
          | _ => txt ++ "."
        else txt
      split txt
    | none, some q => generalParts ax q alt false
    | some c, q =>
      let q := q.getD 6
      if c == 'f' || c == 'F' then
        let txt := Decimal.fixedText ax q false
        split (if alt && q == 0 then txt ++ "." else txt)
      else if c == 'e' || c == 'E' then
        let txt := Decimal.sciText ax q false
        let txt := if alt && q == 0 then txt.replace "e" ".e" else txt
        split (if c == 'E' then txt.toUpper else txt)
      else
        let (w, r) := generalParts ax (if q == 0 then 1 else q) alt false
        (w, if c == 'G' then r.toUpper else r)

/-- A complex number by a specification; without a type, its own text. Zero padding and `=` are
refused. -/
def formatComplex (s : FormatSpec) (kind : String) (re im : Float) : Except FormatFailure String := do
  if let some c := s.kind then
    if !"eEfFgGn".contains c then
      throw (unknownCode c kind)
  if s.fill == '0' && s.fillGiven then
    throw (.valueError, "Zero padding is not allowed in complex format specifier")
  if s.align == some '=' then
    throw (.valueError, "'=' alignment flag is not allowed in complex format specifier")
  let bare := s.kind.isNone
  let skipRe := bare && re == 0.0 && !Num.signBit re
  let t := if s.kind == some 'n' then some 'g' else s.kind
  let part (x : Float) : Bool × String × String :=
    let negative := Num.signBit x && !x.isNaN
    let (w, r) := complexPart t s.precision s.alternate x.abs
    let isZero := (w ++ r).all fun ch => ch == '0' || ch == '.' || ch == 'e' || ch == 'E' ||
      ch == '+' || ch == '-'
    (negative && !(s.noNegZero && isZero), w, r)
  let group (w : String) : String := match s.grouping with
    | some sep => String.ofList (groupDigits w.toList sep 3)
    | none => w
  let (nr, wr, rr) := part re
  let (ni, wi, ri) := part im
  let reText := if skipRe then "" else signFor nr s.sign ++ group wr ++ rr
  let imSign := if skipRe then signFor ni s.sign else if ni then "-" else "+"
  let body := reText ++ imSign ++ group wi ++ ri ++ "j"
  let body := if bare && !skipRe then "(" ++ body ++ ")" else body
  let n := s.width - min s.width body.length
  return match s.align.getD '>' with
    | '<' => body ++ fillText s.fill n
    | '^' => fillText s.fill (n / 2) ++ body ++ fillText s.fill (n - n / 2)
    | _ => fillText s.fill n ++ body

def formatText (s : FormatSpec) (kind text : String) : Except FormatFailure String := do
  let sep := s.grouping.getD ','
  if s.grouping.isSome && s.kind.isNone then throw (.valueError, s!"Cannot specify '{sep}' with 's'.")
  match s.kind with
  | some 's' | none => pure ()
  | some c => throw (unknownCode c kind)
  if let some c := s.sign then
    throw (.valueError, if c == ' ' then "Space not allowed in string format specifier"
      else "Sign not allowed in string format specifier")
  if s.noNegZero then
    throw (.valueError, "Negative zero coercion (z) not allowed in string format specifier")
  if s.alternate then throw (.valueError, "Alternate form (#) not allowed in string format specifier")
  if s.align == some '=' then throw (.valueError, "'=' alignment not allowed in string format specifier")
  let cs := text.toList
  let cs := match s.precision with
    | some p => cs.take p
    | none => cs
  let n := s.width - min s.width cs.length
  let body := String.ofList cs
  return match s.align.getD '<' with
    | '>' => fillText s.fill n ++ body
    | '^' => fillText s.fill (n / 2) ++ body ++ fillText s.fill (n - n / 2)
    | _ => body ++ fillText s.fill n

namespace Shown

def formatBy (spec : String) (x : Shown) : Except FormatFailure String := do
  let asNumber (numeric : Bool) := FormatSpec.read spec x.kind numeric
  match x.value with
  | .str s => formatText (← asNumber false) x.kind s
  | .int n =>
    if spec.isEmpty then return x.text
    let s ← asNumber true
    match s.kind with
    | some c =>
      if "eEfFgG%".contains c then
        match Num.intToFloat? n with
        | some v => formatFloat s x.kind v
        | none => throw Num.tooLargeForFloat
      else if "bcdoxXn".contains c then formatInt s n
      else throw (unknownCode c x.kind)
    | none => formatInt s n
  | .bool b =>
    if spec.isEmpty then return x.text
    let s ← asNumber true
    let n : Int := if b then 1 else 0
    match s.kind with
    | some c =>
      if "eEfFgG%".contains c then formatFloat s x.kind (if b then 1.0 else 0.0)
      else if "bcdoxXn".contains c then formatInt s n
      else throw (unknownCode c x.kind)
    | none => formatInt s n
  | .float f =>
    if spec.isEmpty then return x.text
    formatFloat (← asNumber true) x.kind f
  | .complex re im =>
    if spec.isEmpty then return x.text
    formatComplex (← asNumber true) x.kind re im
  | .time ns => if spec.isEmpty then return x.text else return Time.strftime spec ns
  | .zoned ns off => if spec.isEmpty then return x.text else return Time.strftimeAt spec ns off
  | _ =>
    if spec.isEmpty then return x.text
    throw (.typeError, s!"unsupported format string passed to {x.kind}.__format__")

end Shown

/-- One conversion of a `%` template once read. A width taken from a negative value adds the flag
`-`. -/
structure PercentField where
  flags : List Char := []
  width : Nat := 0
  precision : Option Nat := none
  kind : Char := 's'
  index : Nat := 0
  deriving Inhabited

def isPercentFlag (c : Char) : Bool :=
  c == '-' || c == '+' || c == ' ' || c == '#' || c == '0'

/-- The length of a key up to its closing parenthesis, inner ones balanced; `depth` counts those
still open. -/
def keyLength : List Char → Nat → Nat → Option Nat
  | [], _, _ => none
  | c :: rest, depth, n =>
    if c == ')' then (if depth ≤ 1 then some n else keyLength rest (depth - 1) (n + 1))
    else if c == '(' then keyLength rest (depth + 1) (n + 1)
    else keyLength rest depth (n + 1)

/-- Reads ASCII digits at the front as a number at most `limit`: it (`0` if none) and the rest, or
`failure`. -/
def boundedDigits (cs : List Char) (limit : Nat) (failure : String) :
    Except FormatFailure (Nat × List Char) := do
  let ds := cs.takeWhile fun c => '0' ≤ c && c ≤ '9'
  let n ← ds.foldlM (fun (n : Nat) c =>
    let d := c.toNat - '0'.toNat
    if 10 * n + d > limit then throw (.valueError, failure) else pure (10 * n + d)) 0
  pure (n, cs.drop ds.length)

/-- The values a `%` template takes: a tuple, a single value, or a value subscriptable by a text. -/
inductive PercentArgs
  | items (xs : List Shown)
  | single (x : Shown)
  | keyed (x : Shown) (lookup : String → Except FormatFailure Shown)

/-- Where a `%` template's next value comes from: a tuple's items from `index`, a single value at
`-2`. -/
structure PercentCursor where
  items : List Shown
  tuple : Bool
  index : Int

namespace PercentCursor

def next (c : PercentCursor) : Except FormatFailure (Shown × PercentCursor) :=
  if c.tuple then
    match c.items[c.index.toNat]? with
    | some x => pure (x, { c with index := c.index + 1 })
    | none => throw (.typeError, "not enough arguments for format string")
  else if c.index < -1 then
    match c.items with
    | x :: _ => pure (x, { c with index := -1 })
    | [] => throw (.typeError, "not enough arguments for format string")
  else throw (.typeError, "not enough arguments for format string")

def leftOver (c : PercentCursor) : Bool :=
  if c.tuple then decide (c.index < c.items.length) else c.index < -1

end PercentCursor

/-- A value taken for a `*`: an integer (a boolean counting as one), refused by `* wants int`
otherwise. -/
def starValue (x : Shown) : Except FormatFailure Int :=
  match x.value with
  | .int n => pure n
  | .bool b => pure (if b then 1 else 0)
  | _ => throw (.typeError, "* wants int")

/-- Reads a conversion after its `%`: key, flags, width, precision, length and type, values taken as
met. -/
def readPercentField (args : PercentArgs) (cs : List Char) (start : Nat) (cur : PercentCursor) :
    Except FormatFailure (PercentField × PercentCursor × List Char) := do
  let total := cs.length
  let (cur, cs) ← match cs with
    | '(' :: rest =>
      match args with
      | .keyed _ lookup =>
        match keyLength rest 1 0 with
        | none => throw (.valueError, "incomplete format key")
        | some n =>
          let x ← lookup (String.ofList (rest.take n))
          pure ({ items := [x], tuple := false, index := -2 }, rest.drop (n + 1))
      | _ => throw (.typeError, "format requires a mapping")
    | _ => pure (cur, cs)
  let flags := cs.takeWhile isPercentFlag
  let cs := cs.drop flags.length
  let (width, flags, cur, cs) ← match cs with
    | '*' :: rest => do
      let (w, cur) ← cur.next
      let n ← starValue w
      if n ≥ 9223372036854775808 || n < -9223372036854775808 then
        throw (.overflowError, "Python int too large to convert to C ssize_t")
      pure (n.natAbs, (if n < 0 then '-' :: flags else flags), cur, rest)
    | _ => do
      let (w, rest) ← boundedDigits cs 9223372036854775807 "width too big"
      pure (w, flags, cur, rest)
  let (precision, cur, cs) ← match cs with
    | '.' :: '*' :: rest => do
      let (p, cur) ← cur.next
      let n ← starValue p
      if n ≥ 2147483648 || n < -2147483648 then
        throw (.overflowError, "Python int too large to convert to C int")
      pure (some n.toNat, cur, rest)
    | '.' :: rest => do
      let (p, rest) ← boundedDigits rest 2147483647 "precision too big"
      pure (some p, cur, rest)
    | _ => pure (none, cur, cs)
  let cs := match cs with
    | c :: rest => if c == 'h' || c == 'l' || c == 'L' then rest else cs
    | [] => []
  match cs with
  | [] => throw (.valueError, "incomplete format")
  | c :: rest =>
    pure ({ flags, width, precision, kind := c, index := start + (total - cs.length) }, cur, rest)

/-- Pads a converted value to a width: right with `-`, zeros after sign and prefix for numbers with
`0`, else left. -/
def percentPad (f : PercentField) (width : Nat) (numeric : Bool) (head body : String) : String :=
  let len := head.length + body.length
  if width ≤ len then head ++ body
  else
    let n := width - len
    if f.flags.contains '-' then head ++ body ++ fillText ' ' n
    else if numeric && f.flags.contains '0' then head ++ fillText '0' n ++ body
    else fillText ' ' n ++ head ++ body

def percentSign (f : PercentField) (negative : Bool) : String :=
  if negative then "-" else if f.flags.contains '+' then "+" else if f.flags.contains ' ' then " " else ""

/-- A whole number for `%d`, `%x` and the like: `%d` takes doubles cut toward zero, others integers
only. -/
def percentWhole (f : PercentField) (x : Shown) : Except FormatFailure Int :=
  let kindName := f.kind.toString
  match x.value with
  | .int n => pure n
  | .bool b => pure (if b then 1 else 0)
  | .float v =>
    if f.kind == 'd' || f.kind == 'i' || f.kind == 'u' then
      if v.isNaN then throw (.valueError, "cannot convert float NaN to integer")
      else if v.isInf then throw (.overflowError, "cannot convert float infinity to integer")
      else pure (Num.truncate v)
    else throw (.typeError, s!"%{kindName} format: an integer is required, not {x.kind}")
  | _ =>
    if f.kind == 'd' || f.kind == 'i' || f.kind == 'u' then
      throw (.typeError, s!"%{kindName} format: a real number is required, not {x.kind}")
    else throw (.typeError, s!"%{kindName} format: an integer is required, not {x.kind}")

def percentConvert (f : PercentField) (x : Shown) : Except FormatFailure String := do
  let width := f.width
  let prec := f.precision
  match f.kind with
  | 's' | 'r' | 'a' =>
    let t := if f.kind == 's' then x.text else if f.kind == 'r' then x.repr else Text.asciiEscaped x.repr
    let t := match prec with
      | some p => String.ofList (t.toList.take p)
      | none => t
    return percentPad f width false "" t
  | 'c' =>
    let ch ← match x.value with
      | .int n =>
        if n < 0 || n > 0x10FFFF then throw (.overflowError, "%c arg not in range(0x110000)")
        else pure (Char.ofNat n.toNat).toString
      | .bool b => pure (Char.ofNat (if b then 1 else 0)).toString
      | .str s => if s.length == 1 then pure s else throw (.typeError, "%c requires int or char")
      | _ => throw (.typeError, "%c requires int or char")
    return percentPad f width false "" ch
  | 'd' | 'i' | 'u' | 'o' | 'x' | 'X' =>
    let n ← percentWhole f x
    if prec.getD 0 > 2147483644 then throw (.overflowError, "precision too large")
    let base := if f.kind == 'o' then 8 else if f.kind == 'x' || f.kind == 'X' then 16 else 10
    let ds := digitsIn base n.natAbs
    let ds := if f.kind == 'X' then ds.map Char.toUpper else ds
    let ds := match prec with
      | some p => List.replicate (p - min p ds.length) '0' ++ ds
      | none => ds
    let lead :=
      if f.flags.contains '#' then
        if f.kind == 'o' then "0o" else if f.kind == 'x' then "0x" else if f.kind == 'X' then "0X" else ""
      else ""
    return percentPad f width true (percentSign f (n < 0) ++ lead) (String.ofList ds)
  | _ =>
    let v ← match x.value with
      | .float v => pure v
      | .int n =>
        match Num.intToFloat? n with
        | some v => pure v
        | none => throw Num.tooLargeForFloat
      | .bool b => pure (if b then 1.0 else 0.0)
      | _ => throw (.typeError, s!"must be real number, not {x.kind}")
    let spec : FormatSpec :=
      { kind := some f.kind, precision := some (prec.getD 6), alternate := f.flags.contains '#' }
    let body ← formatFloat spec "float" v.abs
    let negative := Num.signBit v && !v.isNaN
    return percentPad f width true (percentSign f negative) body

def percentFormat (template : String) (args : PercentArgs) : Except FormatFailure String := do
  let start : PercentCursor := match args with
    | .items xs => { items := xs, tuple := true, index := 0 }
    | .single x | .keyed x _ => { items := [x], tuple := false, index := -2 }
  let rec go : Nat → List Char → Nat → PercentCursor → String →
      Except FormatFailure (String × PercentCursor)
    | 0, _, _, cur, acc => pure (acc, cur)
    | _ + 1, [], _, cur, acc => pure (acc, cur)
    | fuel + 1, c :: rest, pos, cur, acc =>
      if c != '%' then go fuel rest (pos + 1) cur (acc.push c)
      else if rest.head? == some '%' then go fuel rest.tail (pos + 2) cur (acc.push '%')
      else do
        let (f, cur, after) ← readPercentField args rest (pos + 1) cur
        let (x, cur) ← cur.next
        -- a `%` with flags, width or precision is a conversion of its own, known to none
        if !"diuoxXeEfFgGcrsa".contains f.kind then
          let c := f.kind
          let shown := if 31 ≤ c.toNat && c.toNat ≤ 126 then c else '?'
          let code := String.ofList (Nat.toDigits 16 c.toNat)
          throw (.valueError, s!"unsupported format character '{shown}' (0x{code}) at index {f.index}")
        let text ← percentConvert f x
        go fuel after (pos + 1 + (rest.length - after.length)) cur (acc ++ text)
  let (out, cur) ← go (template.length + 1) template.toList 0 start ""
  let keyed := match args with
    | .keyed .. => true
    | _ => false
  if cur.leftOver && !keyed then
    throw (.typeError, "not all arguments converted during string formatting")
  return out

end PipeQuery
