import PipeQuery.Text.Classes

/-!
# Numbers in text, slices and splits

## Reading numbers from text

`readInt?` and `readFloat?` read a whole text as a decimal number: blanks around, a sign, any
Unicode decimal digits, single `_` between digits, and for floats a fraction, an exponent, `inf`
or `nan`, rounded to nearest. Integers past `maxIntDigits` digits are refused; `intFailure` says
why a text is not an integer.
-/

namespace PipeQuery.Text

def decimalValue (c : Char) : Nat :=
  match decimalRanges.toList.find? (fun r => r.1 ≤ c.toNat ∧ c.toNat ≤ r.2) with
  | some (lo, _) => (c.toNat - lo) % 10
  | none => 0

def trimBlanks (s : String) : String :=
  String.ofList ((s.toList.dropWhile isBlank).reverse.dropWhile isBlank).reverse

/-- A run of digits in which a single `_` may stand between two digits. -/
def digitRun (cs : List Char) : Option (List Nat × List Char) :=
  let rec go : List Char → List Nat → Option (List Nat × List Char)
    | c :: r, acc =>
      if isDecimalDigit c then go r (decimalValue c :: acc)
      else if c = '_' then
        match r with
        | d :: r2 => if isDecimalDigit d && !acc.isEmpty then go r2 (decimalValue d :: acc) else none
        | [] => none
      else if acc.isEmpty then none else some (acc.reverse, c :: r)
    | [], acc => if acc.isEmpty then none else some (acc.reverse, [])
  go cs []

def digitsValue (ds : List Nat) : Nat :=
  ds.foldl (fun n d => 10 * n + d) 0

def signOf : List Char → Bool × List Char
  | '-' :: r => (true, r)
  | '+' :: r => (false, r)
  | r => (false, r)

def maxIntDigits : Nat := 4300

def readInt? (s : String) : Option Int :=
  let (neg, cs) := signOf (trimBlanks s).toList
  match digitRun cs with
  | some (ds, []) =>
    if ds.length > maxIntDigits then none
    else let n : Int := digitsValue ds; some (if neg then -n else n)
  | _ => none

/-- The count of digits in the leading run of digits and underscores, after blanks and a sign. -/
def leadingDigitCount (s : String) : Nat :=
  ((signOf (trimBlanks s).toList).2.takeWhile (fun c => isDecimalDigit c || c = '_')).countP
    isDecimalDigit

def digitLimitMessage (n : Nat) : String :=
  s!"Exceeds the limit ({maxIntDigits} digits) for integer string conversion: value has {n} digits; use sys.set_int_max_str_digits() to increase the limit"

def intFailure (s : String) : String :=
  let n := leadingDigitCount s
  if n > maxIntDigits then digitLimitMessage n
  else
    let shown := String.ofList ((quote s).toList.take 200)
    s!"invalid literal for int() with base 10: {shown}"

/-- The double nearest `mant * 10^exp`; huge and tiny exponents are settled first, so no power
leaves the range of doubles. -/
def scaledFloat (mant : Nat) (exp : Int) : Float :=
  if mant = 0 then 0.0
  else
    let size : Int := (Nat.toDigits 10 mant).length
    if exp + size > 400 then 1.0 / 0.0
    else if exp + size < -400 then 0.0
    else if exp < 0 then Float.ofScientific mant true exp.natAbs
    else Float.ofScientific mant false exp.toNat

def decimalBody? (cs : List Char) : Option Float := do
  let (whole, r) ← match digitRun cs with
    | some p => some p
    | none => match cs with
      | '.' :: _ => some ([], cs)
      | _ => none
  let (frac, r) ← match r with
    | '.' :: r2 =>
      match digitRun r2 with
      | some p => some p
      | none => some ([], r2)
    | _ => some ([], r)
  if whole.isEmpty && frac.isEmpty then none
  let exp ← match r with
    | e :: r2 =>
      if e = 'e' || e = 'E' then
        let (eneg, r3) := signOf r2
        match digitRun r3 with
        | some (ds, []) => let n : Int := digitsValue ds; some (if eneg then -n else n)
        | _ => none
      else none
    | [] => some 0
  pure (scaledFloat (digitsValue (whole ++ frac)) (exp - frac.length))

def readFloat? (s : String) : Option Float :=
  let (neg, cs) := signOf (trimBlanks s).toList
  let word := String.ofList (cs.map Char.toLower)
  let x? : Option Float :=
    if word = "inf" || word = "infinity" then some (1.0 / 0.0)
    else if word = "nan" then some (0.0 / 0.0)
    else decimalBody? cs
  x?.map fun x => if neg then -x else x

/-!
## Cutting and joining texts

Slices by character position, where a negative position counts from the end and positions past
either end are clamped; splitting at every occurrence of a separator; and replacing every
occurrence of a text, where the empty text occurs before every character and at the end.
-/

/-- A slice position in a text of `n` characters: negative ones count from the end; the result is
within `0` and `n`. -/
def slicePoint (n : Nat) (i : Int) : Nat :=
  if i < 0 then (i + n).toNat else min i.toNat n

def slice (s : String) (lo : Int) (hi : Option Int) : String :=
  let cs := s.toList
  let a := slicePoint cs.length lo
  let b := match hi with
    | some h => slicePoint cs.length h
    | none => cs.length
  String.ofList ((cs.drop a).take (b - a))

def startsWithList (cs pat : List Char) : Bool :=
  cs.take pat.length == pat

def splitList (sep : List Char) (cs : List Char) : List (List Char) :=
  let rec go : Nat → List Char → List Char → List (List Char)
    | 0, cur, rest => [cur.reverse ++ rest]
    | fuel + 1, cur, rest =>
      match rest with
      | [] => [cur.reverse]
      | c :: tail =>
        if !sep.isEmpty && startsWithList rest sep then cur.reverse :: go fuel [] (rest.drop sep.length)
        else go fuel (c :: cur) tail
  go (cs.length + 1) [] cs

def splitText (s sep : String) : List String :=
  (splitList sep.toList s.toList).map String.ofList

/-- Every occurrence of `old` replaced by `new`, left to right; an empty `old` puts `new` before
every character and at the end. -/
def replaceAll (s old new : String) : String :=
  if old.isEmpty then
    new ++ String.join (s.toList.map fun c => c.toString ++ new)
  else new.intercalate (splitText s old)

def words (s : String) : List String :=
  ((s.toList.splitBy fun a b => isBlank a == isBlank b).filter fun run =>
    !run.all isBlank).map String.ofList

end PipeQuery.Text
