import PipeQuery.Text.Numeral

/-!
# Decimals read by scaling

`readScaled?` reads a decimal as a column reader does: at most seventeen digits gathered into a
double one by one, then one multiplication or division by a power of ten. The value is not always
the nearest double: `9e26` reads as `9 * 1e26`, one unit above it. A number without point or
exponent is marked integral.
-/

namespace PipeQuery.Decimal

def tenPowers : Array Float :=
  (Array.range 309).map fun (k : Nat) => Text.scaledFloat 1 (Int.ofNat k)

def tenPower (k : Nat) : Float :=
  tenPowers.getD k 0.0

/-- Blanks allowed around a scaled number: the space and the controls tab to carriage return. -/
def scaledBlank (c : Char) : Bool :=
  c == ' ' || (9 ≤ c.toNat && c.toNat ≤ 13)

def asciiDigit? (c : Char) : Option Nat :=
  if '0' ≤ c && c ≤ '9' then some (c.toNat - '0'.toNat) else none

def gatheredDigits : Nat := 17

/-- The digits before the point: the first seventeen gathered, later ones raising the exponent. -/
def gatherWhole : List Char → Float → Nat → Int → Float × Nat × Int × List Char
  | [], x, n, e => (x, n, e, [])
  | c :: r, x, n, e =>
    match asciiDigit? c with
    | some d =>
      if n < gatheredDigits then gatherWhole r (x * 10.0 + Float.ofNat d) (n + 1) e
      else gatherWhole r x n (e + 1)
    | none => (x, n, e, c :: r)

/-- The digits after the point: gathered while fewer than seventeen, each lowering the exponent; the
rest skipped. -/
def gatherFraction : List Char → Float → Nat → Int → Float × Nat × Int × List Char
  | [], x, n, e => (x, n, e, [])
  | c :: r, x, n, e =>
    match asciiDigit? c with
    | some d =>
      if n < gatheredDigits then gatherFraction r (x * 10.0 + Float.ofNat d) (n + 1) (e - 1)
      else (x, n, e, (c :: r).dropWhile fun c => (asciiDigit? c).isSome)
    | none => (x, n, e, c :: r)

def wrap32 (n : Int) : Int :=
  let m := n % 4294967296
  if m ≥ 2147483648 then m - 4294967296 else m

def exponentDigits : List Char → Nat → Int → Nat × Int × List Char
  | [], k, v => (k, v, [])
  | c :: r, k, v =>
    match asciiDigit? c with
    | some d => if k < gatheredDigits then exponentDigits r (k + 1) (wrap32 (v * 10 + d)) else (k, v, c :: r)
    | none => (k, v, c :: r)

/-- An exponent part after a number: the change to the exponent and the rest. -/
def exponentPart (cs : List Char) : Option Int × List Char :=
  match cs with
  | c :: r =>
    if c == 'e' || c == 'E' then
      let (neg, signed, body) := match r with
        | '-' :: b => (true, true, b)
        | '+' :: b => (false, true, b)
        | b => (false, false, b)
      let (k, v, rest) := exponentDigits body 0 0
      if k == 0 then
        (some 0, if signed then r else c :: r)
      else (some (if neg then -v else v), rest)
    else (none, cs)
  | [] => (none, [])

def scaleByTen (x : Float) (e : Int) : Float :=
  if e > 0 then x * tenPower e.toNat
  else if e < -308 then
    if e < -616 then 0.0 else x / tenPower (-308 - e).toNat / tenPower 308
  else x / tenPower (-e).toNat

/-- A text read as a scaled decimal: the double and whether it is integral. -/
def readScaled? (s : String) : Option (Float × Bool) :=
  let cs := s.toList.dropWhile scaledBlank
  let (neg, cs) := match cs with
    | '-' :: r => (true, r)
    | '+' :: r => (false, r)
    | r => (false, r)
  let (x, n, e, rest) := gatherWhole cs 0.0 0 0
  let (point, x, n, e, rest) := match rest with
    | '.' :: r =>
      let (x, n, e, rest) := gatherFraction r x n e
      (true, x, n, e, rest)
    | _ => (false, x, n, e, rest)
  if n == 0 then none
  else
    let x := if neg then -x else x
    let (shift, rest) := exponentPart rest
    let e := e + shift.getD 0
    if e > 308 then none
    else
      let y := scaleByTen x e
      if y.isInf then none
      else if !(rest.dropWhile scaledBlank).isEmpty then none
      else some (y, !point && shift.isNone)

end PipeQuery.Decimal
