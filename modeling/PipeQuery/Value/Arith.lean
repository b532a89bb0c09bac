import PipeQuery.Value.Order

/-!
# Numbers and arithmetic

Complex numbers, and the arithmetic of the formula language on single values.
-/

/-!
## Complex numbers

Complex numbers are pairs of doubles with the formula language's own arithmetic: schoolbook
products, quotients scaled by the divisor's larger part, powers by repeated squaring for whole
exponents up to 100 and through the polar form otherwise. Arrays divide by a slightly different
formula (`quotientOfArrays`), where a zero divisor gives infinities.
-/

namespace PipeQuery.Num

abbrev Pair := Float × Float

def pairAdd (a b : Pair) : Pair := (a.1 + b.1, a.2 + b.2)

def pairSub (a b : Pair) : Pair := (a.1 - b.1, a.2 - b.2)

def pairMul (a b : Pair) : Pair := (a.1 * b.1 - a.2 * b.2, a.1 * b.2 + a.2 * b.1)

/-- The quotient of two complex numbers, `none` for a zero divisor. -/
def pairQuotient? (a b : Pair) : Option Pair :=
  let absRe := b.1.abs
  let absIm := b.2.abs
  if absRe ≥ absIm then
    if absRe == 0.0 then none
    else
      let ratio := b.2 / b.1
      let denom := b.1 + b.2 * ratio
      some ((a.1 + a.2 * ratio) / denom, (a.2 - a.1 * ratio) / denom)
  else if absIm ≥ absRe then
    let ratio := b.1 / b.2
    let denom := b.1 * ratio + b.2
    some ((a.1 * ratio + a.2) / denom, (a.2 * ratio - a.1) / denom)
  else some (0.0 / 0.0, 0.0 / 0.0)

/-- The quotient of two complex numbers as arrays compute it. -/
def quotientOfArrays (a b : Pair) : Pair :=
  let absRe := b.1.abs
  let absIm := b.2.abs
  if absRe ≥ absIm then
    if absRe == 0.0 && absIm == 0.0 then (a.1 / absRe, a.2 / absRe)
    else
      let rat := b.2 / b.1
      let scl := 1.0 / (b.1 + b.2 * rat)
      ((a.1 + a.2 * rat) * scl, (a.2 - a.1 * rat) * scl)
  else
    let rat := b.1 / b.2
    let scl := 1.0 / (b.2 + b.1 * rat)
    ((a.1 * rat + a.2) * scl, (a.2 * rat - a.1) * scl)

def pairAbs (a : Pair) : Float :=
  if a.1.isInf || a.2.isInf then 1.0 / 0.0
  else Float.sqrt (a.1 * a.1 + a.2 * a.2)

/-- `x ^ n` for a whole `n ≥ 0`, by squaring: the bits of `n` from the lowest, at most 64. -/
def pairPowNat (x : Pair) (n : Nat) : Pair :=
  let rec go : Nat → Pair → Pair → Nat → Pair
    | 0, r, _, _ => r
    | fuel + 1, r, p, k =>
      if k == 0 then r
      else go fuel (if k % 2 == 1 then pairMul r p else r) (pairMul p p) (k / 2)
  go 64 (1.0, 0.0) x n

def pairPowPolar? (a b : Pair) : Option Pair :=
  if b.1 == 0.0 && b.2 == 0.0 then some (1.0, 0.0)
  else if a.1 == 0.0 && a.2 == 0.0 then
    if b.2 != 0.0 || b.1 < 0.0 then none else some (0.0, 0.0)
  else
    let vabs := pairAbs a
    let len := Float.pow vabs b.1
    let angle := Float.atan2 a.2 a.1
    let phase := angle * b.1
    let (len, phase) :=
      if b.2 != 0.0 then (len / Float.exp (angle * b.2), phase + b.2 * Float.log vabs) else (len, phase)
    some (len * Float.cos phase, len * Float.sin phase)

def pairPow (a b : Pair) : Except (FaultKind × String) Pair := do
  let zero : FaultKind × String := (.zeroDivisionError, "0.0 to a negative or complex power")
  let r ← if b.2 == 0.0 && b.1 == b.1.floor && b.1.abs ≤ 100.0 then
      let n := b.1.abs.toUInt64.toNat
      let p := pairPowNat a n
      if b.1 > 0.0 then pure p
      else
        match pairQuotient? (1.0, 0.0) p with
        | some q => pure q
        | none => throw zero
    else
      match pairPowPolar? a b with
      | some q => pure q
      | none => throw zero
  if r.1.isInf || r.2.isInf then throw (.overflowError, "complex exponentiation")
  pure r

end PipeQuery.Num

/-!
## Arithmetic on single values

The arithmetic of `eval`'s formula language on single values: integers stay exact under
`+ - * // %` and `/` gives a double; `//` rounds down and `%` takes the divisor's sign; `**`
gives integers, doubles or complex numbers; booleans count as `0` and `1`; texts and lists join
and repeat; instants and durations subtract and add. Dividing by zero and mismatched kinds fail
with the language's messages.
-/

namespace PipeQuery

inductive ArithOp
  | add | sub | mul | div | floorDiv | mod | pow
  deriving DecidableEq, Repr, Inhabited

def ArithOp.symbol : ArithOp → String
  | .add => "+" | .sub => "-" | .mul => "*" | .div => "/" | .floorDiv => "//" | .mod => "%"
  | .pow => "**"

namespace Num

def tooLargeForFloat : FaultKind × String :=
  (.overflowError, "int too large to convert to float")

def toFloatChecked (x : Num) : Except (FaultKind × String) Float :=
  match x.toFloat? with
  | some v => pure v
  | none => throw tooLargeForFloat

/-- Whether the sign bit of a double is set (also for `-0.0`). -/
def signBit (x : Float) : Bool :=
  x.toBits >>> 63 == 1

def signedZero (x : Float) : Float :=
  if signBit x then -0.0 else 0.0

/-- The remainder of `x / y` truncated toward zero, exactly. -/
def fmod (x y : Float) : Float :=
  if x.isNaN || y.isNaN || x.isInf || y == 0.0 then 0.0 / 0.0
  else if y.isInf then x
  else
    let (neg, mx, ex) := floatParts x
    let (_, my, ey) := floatParts y
    let e := min ex ey
    let r := (mx * Nat.pow 2 (ex - e).toNat) % (my * Nat.pow 2 (ey - e).toNat)
    let mag := (Float.ofNat r).scaleB e
    if neg then -mag else mag

def floatDivMod (x y : Float) : Float × Float :=
  let m := fmod x y
  if y == 0.0 then (x / y, m)
  else
    let d := (x - m) / y
    let (d, m) :=
      if m != 0.0 then
        if (y < 0.0) != (m < 0.0) then (d - 1.0, m + y) else (d, m)
      else (d, signedZero y)
    let q :=
      if d != 0.0 then
        let f := d.floor
        if d - f > 0.5 then f + 1.0 else f
      else signedZero (x / y)
    (q, m)

/-- An operation on two numbers, or its failure: division by zero, or an integer too large for its
double. -/
def arith? (op : ArithOp) : Num → Num → Except (FaultKind × String) Num
  | int a, int b =>
    let byZero (msg : String) : Except (FaultKind × String) Num := throw (.zeroDivisionError, msg)
    match op with
    | .add => pure (int (a + b))
    | .sub => pure (int (a - b))
    | .mul => pure (int (a * b))
    | .div =>
      if b == 0 then byZero "division by zero"
      else
        match intRatio? a b with
        | some q => pure (float q)
        | none => throw (.overflowError, "integer division result too large for a float")
    | .floorDiv =>
      if b == 0 then byZero "integer division or modulo by zero" else pure (int (Int.fdiv a b))
    | .mod => if b == 0 then byZero "integer modulo by zero" else pure (int (Int.fmod a b))
    | .pow =>
      if b ≥ 0 then pure (int (Int.pow a b.toNat))
      else if a == 0 then byZero "0.0 cannot be raised to a negative power"
      else do
        let x ← toFloatChecked (int a)
        let y ← toFloatChecked (int b)
        pure (float (Float.pow x y))
  | x, y => do
    let a ← toFloatChecked x
    let b ← toFloatChecked y
    let byZero (msg : String) : Except (FaultKind × String) Num := throw (.zeroDivisionError, msg)
    match op with
    | .add => pure (float (a + b))
    | .sub => pure (float (a - b))
    | .mul => pure (float (a * b))
    | .div => if b == 0.0 then byZero "float division by zero" else pure (float (a / b))
    | .floorDiv =>
      if b == 0.0 then byZero "float floor division by zero" else pure (float (floatDivMod a b).1)
    | .mod => if b == 0.0 then byZero "float modulo" else pure (float (floatDivMod a b).2)
    | .pow =>
      if a == 0.0 && b < 0.0 then byZero "0.0 cannot be raised to a negative power"
      else pure (float (Float.pow a b))

end Num

namespace Value

def unsupported (op : ArithOp) (a b : Value) : Fault :=
  Fault.inner .typeError
    s!"unsupported operand type(s) for {op.symbol}: '{a.typeName}' and '{b.typeName}'"

def repeatList {α : Type} (xs : List α) (n : Int) : List α :=
  (List.replicate n.toNat xs).flatten

def pair? : Value → Option Num.Pair
  | complex re im => some (re, im)
  | v => v.num?.map fun n => (n.toFloat, 0.0)

def complexArith (op : ArithOp) (a b : Value) (x y : Num.Pair) : Outcome Value :=
  let out (p : Num.Pair) : Value := complex p.1 p.2
  match op with
  | .add => pure (out (Num.pairAdd x y))
  | .sub => pure (out (Num.pairSub x y))
  | .mul => pure (out (Num.pairMul x y))
  | .div =>
    match Num.pairQuotient? x y with
    | some q => pure (out q)
    | Option.none => throw (Fault.inner .zeroDivisionError "complex division by zero")
  | .pow =>
    match Num.pairPow x y with
    | .ok p => pure (out p)
    | .error (kind, msg) => throw (Fault.inner kind msg)
  | _ => throw (unsupported op a b)

/-- Whether `a ** b` is a negative double to a fractional power, which gives a complex number. -/
def complexPower (x y : Num) : Bool :=
  match x, y with
  | .int _, .int _ => false
  | _, _ =>
    let a := x.toFloat
    let b := y.toFloat
    a < 0.0 && !a.isInf && !b.isNaN && !b.isInf && b != b.floor

def arith (op : ArithOp) (a b : Value) : Outcome Value :=
  match a.num?, b.num? with
  | some x, some y =>
    if op == .pow && complexPower x y then complexArith op a b (x.toFloat, 0.0) (y.toFloat, 0.0)
    else
      match Num.arith? op x y with
      | .ok r =>
        match op, r, x, y with
        | .pow, .float z, _, _ =>
          if z.isInf && !x.toFloat.isInf && !y.toFloat.isInf then
            throw (Fault.inner .overflowError "(34, 'Numerical result out of range')")
          else pure (ofNum r)
        | _, _, _, _ => pure (ofNum r)
      | .error (kind, msg) => throw (Fault.inner kind msg)
  | _, _ =>
    match a, b with
    | complex _ _, _ | _, complex _ _ =>
      match a.pair?, b.pair? with
      | some x, some y => complexArith op a b x y
      | _, _ => throw (unsupported op a b)
    | _, _ =>
      match op, a, b with
      | .add, str s, str t => pure (str (s ++ t))
      | .add, str _, _ =>
        throw (Fault.inner .typeError s!"can only concatenate str (not \"{b.typeName}\") to str")
      | .add, list xs _, list ys _ => pure (list (xs ++ ys) 0)
      | .add, list _ _, _ =>
        throw (Fault.inner .typeError s!"can only concatenate list (not \"{b.typeName}\") to list")
      | .mul, str s, _ =>
        match b with
        | int n => pure (str (String.join (List.replicate n.toNat s)))
        | bool t => pure (str (if t then s else ""))
        | _ => throw (Fault.inner .typeError s!"can't multiply sequence by non-int of type '{b.typeName}'")
      | .mul, _, str s =>
        match a with
        | int n => pure (str (String.join (List.replicate n.toNat s)))
        | bool t => pure (str (if t then s else ""))
        | _ => throw (Fault.inner .typeError s!"can't multiply sequence by non-int of type '{a.typeName}'")
      | .mul, list xs _, int n => pure (list (repeatList xs n) 0)
      | .mul, int n, list xs _ => pure (list (repeatList xs n) 0)
      | .sub, time s, time t => pure (span (s - t))
      | .add, time s, span d => pure (time (s + d))
      | .add, span d, time s => pure (time (s + d))
      | .sub, time s, span d => pure (time (s - d))
      | .add, span d, span e => pure (span (d + e))
      | .sub, span d, span e => pure (span (d - e))
      | _, _, _ => throw (unsupported op a b)

end Value

end PipeQuery
