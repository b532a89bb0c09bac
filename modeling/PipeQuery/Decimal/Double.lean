/-!
# Doubles as decimal text

A finite double is written with the shortest decimal that reads back, or rounded to a fixed
number of digits, and laid out with or without an exponent.
-/

/-!
## Shortest decimals of binary doubles

`Binary.shortest` picks, among the decimals that round to a finite double (the interval between
the halfway points to its neighbours, ends included when the mantissa is even), one with the
fewest significant digits, and of those the nearest, a tie going to the even digit. It tries
`n = 1, 2, …` digits with exact comparisons of naturals (`Binary.readsBack`).
-/

namespace PipeQuery.Decimal

/-- A finite non-negative double, `m * 2^q`. -/
structure Binary where
  m : Nat
  q : Int
  /-- The gap to the value below is half the gap to the value above (a power of two). -/
  narrowBelow : Bool
  deriving Repr, DecidableEq

def Binary.ofBits (b : UInt64) : Binary :=
  let e := ((b >>> 52) &&& 0x7FF).toNat
  let f := (b &&& 0xFFFFFFFFFFFFF).toNat
  if e == 0 then ⟨f, -1074, false⟩ else ⟨Nat.pow 2 52 + f, (e : Int) - 1075, f == 0 && e > 1⟩

/-- The decimal `digits * 10^exp`. -/
structure Dec where
  digits : Nat
  exp : Int
  deriving Repr, DecidableEq, Inhabited

def cmpScaled (a : Nat) (i : Int) (n : Nat) (j : Int) : Ordering :=
  compare (a * Nat.pow 10 i.toNat * Nat.pow 2 (-j).toNat) (n * Nat.pow 2 j.toNat * Nat.pow 10 (-i).toNat)

/-- The decimal `d` lies among the reals that round to `x` (to nearest, ties to even). -/
def Binary.readsBack (x : Binary) (d : Dec) : Bool :=
  let lo := if x.narrowBelow then 4 * x.m - 1 else 4 * x.m - 2
  let hi := 4 * x.m + 2
  let incl := x.m % 2 == 0
  let cl := cmpScaled d.digits d.exp lo (x.q - 2)
  let ch := cmpScaled d.digits d.exp hi (x.q - 2)
  (cl == .gt || (incl && cl == .eq)) && (ch == .lt || (incl && ch == .eq))

/-- The exact value of `x` as a decimal: `m * 2^q`, or `(m * 5^-q) * 10^q` when `q < 0`. -/
def Binary.exact (x : Binary) : Dec :=
  if 0 ≤ x.q then ⟨x.m * Nat.pow 2 x.q.toNat, 0⟩ else ⟨x.m * Nat.pow 5 (-x.q).toNat, x.q⟩

def digitCount (n : Nat) : Nat :=
  (Nat.toDigits 10 n).length

/-- The decimal of `n` significant digits for `x`, if that grid meets `x`'s interval: the neighbour
that reads back, the nearer if both, the even on a tie. -/
def Binary.onGrid (x : Binary) (n : Nat) : Option Dec :=
  let ex := x.exact
  let len := digitCount ex.digits
  if len ≤ n then some ex
  else
    let p := Nat.pow 10 (len - n)
    let d := ex.digits / p
    let r := ex.digits % p
    let e := ex.exp + ((len - n : Nat) : Int)
    let below : Dec := ⟨d, e⟩
    let above : Dec := ⟨d + 1, e⟩
    match x.readsBack below, x.readsBack above with
    | true, true =>
      if 2 * r < p then some below
      else if p < 2 * r then some above
      else if d % 2 == 0 then some below else some above
    | true, false => some below
    | false, true => some above
    | false, false => none

def Dec.strip (d : Dec) : Dec :=
  if d.digits = 0 then d
  else if d.digits % 10 = 0 then Dec.strip ⟨d.digits / 10, d.exp + 1⟩
  else d
termination_by d.digits
decreasing_by omega

/-- The shortest decimal of a non-zero `x`, with no trailing zeros. -/
def Binary.shortest (x : Binary) : Dec :=
  ((List.range 17).findSome? (fun i => x.onGrid (i + 1))).getD x.exact |>.strip

/-!
## Writing a decimal

A `Layout` fixes how a decimal `digits * 10^exp` is written: which exponents of the leading digit
are written with all their digits and a point, whether a whole number keeps `.0`, and the shape
of the exponent in the scientific form. `Layout.render` has three positional cases (the point
after, inside or before the digits) and one scientific case.
-/

/-- The decisions of a written form of decimals. -/
structure Layout where
  /-- The leading digit's exponent `e` is written positionally when `plainFrom ≤ e < plainBelow`. -/
  plainFrom : Int
  plainBelow : Int
  /-- A whole number is written with `.0`. -/
  pointZero : Bool
  /-- The exponent carries a sign also when it is positive. -/
  expPlus : Bool
  /-- The least number of exponent digits. -/
  expWidth : Nat

def zeros (n : Nat) : String :=
  String.ofList (List.replicate n '0')

/-- The text of a decimal whose digits have no trailing zero, and are not zero. -/
def Layout.render (L : Layout) (d : Dec) : String :=
  let ds := Nat.repr d.digits
  let n := ds.length
  let lead : Int := d.exp + n - 1
  if L.plainFrom ≤ lead ∧ lead < L.plainBelow then
    if 0 ≤ d.exp then
      ds ++ zeros d.exp.toNat ++ (if L.pointZero then ".0" else "")
    else if 0 ≤ lead then
      let k := (lead + 1).toNat
      String.ofList (ds.toList.take k) ++ "." ++ String.ofList (ds.toList.drop k)
    else
      "0." ++ zeros (-lead - 1).toNat ++ ds
  else
    let mant := match ds.toList with
      | c :: rest@(_ :: _) => String.ofList (c :: '.' :: rest)
      | cs => String.ofList cs
    let e := Nat.repr lead.natAbs
    let sign := if lead < 0 then "-" else if L.expPlus then "+" else ""
    mant ++ "e" ++ sign ++ zeros (L.expWidth - e.length) ++ e

/-!
## The text of a double

`Float.text L x` writes a double with the shortest digits that read back (`Binary.shortest`) laid
out by `L`, with a leading `-` for negative values and negative zero; NaN and the infinities are
written `nan`, `inf` and `-inf`.
-/

/-- How doubles are written: positional for exponents `-4` to `15`, `.0` after a whole number, else
a signed exponent of two digits or more (`1e+16`). -/
def standard : Layout :=
  { plainFrom := -4, plainBelow := 16, pointZero := true, expPlus := true, expWidth := 2 }

def floatText (L : Layout) (x : Float) : String :=
  if x.isNaN then "nan"
  else if x.isInf then (if x < 0 then "-inf" else "inf")
  else
    let bits := x.toBits
    let neg := bits >>> 63 == 1
    let b := Binary.ofBits bits
    let body := if b.m = 0 then (if L.pointZero then "0.0" else "0") else L.render b.shortest
    if neg then "-" ++ body else body

def showFloat (x : Float) : String :=
  floatText standard x

/-!
## Doubles with a fixed number of digits

`fixedText x d` writes `x` with `d` digits after the point, `sciText x d` in scientific form; both
round the exact binary value correctly, ties to even. Negative values, negative zero included,
get a `-`, and `plus` puts a blank before the others.
-/

/-- `n / d` rounded to the nearest natural, a tie to the even one. -/
def roundDiv (n d : Nat) : Nat :=
  let q := n / d
  let r := n % d
  if 2 * r < d then q
  else if 2 * r > d then q + 1
  else if q % 2 == 0 then q else q + 1

def Binary.scaled (x : Binary) (d : Nat) : Nat :=
  if 0 ≤ x.q then x.m * Nat.pow 2 x.q.toNat * Nat.pow 10 d
  else roundDiv (x.m * Nat.pow 10 d) (Nat.pow 2 (-x.q).toNat)

def signText (x : Float) (plus : Bool) : String :=
  if x.toBits >>> 63 == 1 then "-" else if plus then " " else ""

def pointed (n d : Nat) : String :=
  let s := Nat.repr n
  let s := if s.length ≤ d then zeros (d + 1 - s.length) ++ s else s
  if d == 0 then s
  else String.ofList (s.toList.take (s.length - d)) ++ "." ++ String.ofList (s.toList.drop (s.length - d))

def fixedText (x : Float) (d : Nat) (plus : Bool) : String :=
  if x.isNaN then (if plus then " nan" else "nan")
  else if x.isInf then signText x plus ++ "inf"
  else signText x plus ++ pointed ((Binary.ofBits x.toBits).scaled d) d

/-- The exponent of the leading digit of a positive decimal `digits * 10^exp`. -/
def leadExp (digits : Nat) (exp : Int) : Int :=
  exp + (digitCount digits : Int) - 1

/-- A double in scientific form with `d` digits after the point and an exponent of at least two
digits. -/
def sciText (x : Float) (d : Nat) (plus : Bool) : String :=
  if x.isNaN then (if plus then " nan" else "nan")
  else if x.isInf then signText x plus ++ "inf"
  else
    let b := Binary.ofBits x.toBits
    let (mant, e) : Nat × Int :=
      if b.m == 0 then (0, 0)
      else
        let ex := b.exact
        let lead := leadExp ex.digits ex.exp
        let shift : Int := lead - d
        let n :=
          if shift ≤ ex.exp then ex.digits * Nat.pow 10 (ex.exp - shift).toNat
          else roundDiv ex.digits (Nat.pow 10 (shift - ex.exp).toNat)
        if n ≥ Nat.pow 10 (d + 1) then (n / 10, lead + 1) else (n, lead)
    let es := Nat.repr e.natAbs
    signText x plus ++ pointed mant d ++ "e" ++ (if e < 0 then "-" else "+") ++
      zeros (2 - min 2 es.length) ++ es

end PipeQuery.Decimal
