import PipeQuery.Value.Basic
import PipeQuery.Fault
import PipeQuery.Decimal.Double

/-!
# Comparing values

Values compare as the engine's host language compares them: numbers by exact value (NaN equal to
and ordered with nothing), texts by code points, instants and durations by nanoseconds, lists item
by item. Other kinds are never equal, and ordering them fails with a `typeError` naming both.
-/

namespace PipeQuery

/-- A number: an integer of any size or a double. -/
inductive Num
  | int (n : Int)
  | float (x : Float)
  deriving Inhabited

inductive CmpOp
  | eq | ne | lt | le | gt | ge
  deriving DecidableEq, Repr, Inhabited

namespace CmpOp

def symbol : CmpOp → String
  | eq => "==" | ne => "!=" | lt => "<" | le => "<=" | gt => ">" | ge => ">="

def holds : CmpOp → Ordering → Bool
  | eq, o => o == .eq
  | ne, o => o != .eq
  | lt, o => o == .lt
  | le, o => o != .gt
  | gt, o => o == .gt
  | ge, o => o != .lt

/-- The comparison with its sides swapped: `a op b` is `b op.swap a`. -/
def swap : CmpOp → CmpOp
  | lt => gt | le => ge | gt => lt | ge => le | o => o

end CmpOp

namespace Num

/-- A double as `± m * 2^q`: its sign, mantissa and exponent. -/
def floatParts (x : Float) : Bool × Nat × Int :=
  let b := Decimal.Binary.ofBits x.toBits
  (x.toBits >>> 63 == 1, b.m, b.q)

def cmpIntFloat (n : Int) (x : Float) : Ordering :=
  if x.isInf then (if x > 0 then .lt else .gt)
  else
    let (neg, m, q) := floatParts x
    let mi : Int := if neg then -(m : Int) else m
    if 0 ≤ q then compare n (mi * (Nat.pow 2 q.toNat : Int))
    else compare (n * (Nat.pow 2 (-q).toNat : Int)) mi

def cmpFloat (x y : Float) : Option Ordering :=
  if x.isNaN || y.isNaN then none
  else if x < y then some .lt
  else if x == y then some .eq
  else some .gt

def compare? : Num → Num → Option Ordering
  | int a, int b => some (compare a b)
  | int a, float y => if y.isNaN then none else some (cmpIntFloat a y)
  | float x, int b => if x.isNaN then none else some (cmpIntFloat b x).swap
  | float x, float y => cmpFloat x y

/-- The integer part of a finite double, rounded toward zero, exactly. -/
def truncate (x : Float) : Int :=
  if x.isNaN || x.isInf then 0
  else
    let (neg, m, q) := floatParts x
    let mag : Nat := if 0 ≤ q then m * Nat.pow 2 q.toNat else m / Nat.pow 2 (-q).toNat
    if neg then -(mag : Int) else mag

/-- The integer part of a double, failing on NaN and the infinities. -/
def truncateFinite (x : Float) : Outcome Int :=
  if x.isNaN then throw (Fault.invalid "cannot convert float NaN to integer")
  else if x.isInf then throw (Fault.raised .overflowError "cannot convert float infinity to integer")
  else pure (truncate x)

def intToFloat (n : Int) : Float :=
  Float.ofInt n

/-- The double nearest an integer, `none` from `2^1024 - 2^970` on, which would round to infinity.
-/
def intToFloat? (n : Int) : Option Float :=
  let x := intToFloat n
  if x.isInf then none else some x

def toFloat : Num → Float
  | int n => intToFloat n
  | float x => x

def toFloat? : Num → Option Float
  | int n => intToFloat? n
  | float x => some x

/-- The double nearest `num / den`, ties to even, `none` when too large or `den = 0`; a quotient of
55 bits or more and its exactness settle the rounding. -/
def ratioToFloat? (num den : Nat) : Option Float :=
  if den == 0 then none
  else if num == 0 then some 0.0
  else
    let scale : Int := (num.log2 : Int) - den.log2
    if scale - 1 ≥ 1024 then none
    else if scale + 1 ≤ -1075 then some 0.0
    else
      let k : Int := 55 - scale
      let (n, d) := if k ≥ 0 then (num * Nat.pow 2 k.toNat, den) else (num, den * Nat.pow 2 (-k).toNat)
      let q := n / d
      let exact := n % d == 0
      -- bits of `q` cut off: enough to leave 53, more where the result is below the normal range
      let cut := (max ((q.log2 : Int) + 1 - 53) (k - 1074)).toNat
      let m := q / Nat.pow 2 cut
      let rest := q % Nat.pow 2 cut
      let half := Nat.pow 2 (cut - 1)
      let m := if rest > half || (rest == half && (!exact || m % 2 == 1)) then m + 1 else m
      let e : Int := cut - k
      if m == 0 then some 0.0
      else if (m.log2 : Int) + e ≥ 1024 then none
      else some ((Float.ofNat m).scaleB e)

/-- The quotient of two integers as the nearest double, or `none` when too large (or the divisor is
zero). -/
def intRatio? (a b : Int) : Option Float :=
  (ratioToFloat? a.natAbs b.natAbs).map fun x => if (a < 0) != (b < 0) then -x else x

def roundHalfEven (y : Float) : Int :=
  let fl := y.floor
  let base := Num.truncate fl
  let d := y - fl
  if d > 0.5 then base + 1
  else if d < 0.5 then base
  else if base % 2 == 0 then base else base + 1

end Num

namespace Value

/-- A missing value: nothing, a NaN, "not a time", or the missing marker. -/
def isMissing : Value → Bool
  | none | nat | na => true
  | float x => x.isNaN
  | _ => false

/-- The number a value stands for: booleans count as `0` and `1`. -/
def num? : Value → Option Num
  | bool b => some (.int (if b then 1 else 0))
  | int n => some (.int n)
  | float x => some (.float x)
  | _ => Option.none

def ofNum : Num → Value
  | .int n => int n
  | .float x => float x

def truthy : Value → Bool
  | none => false
  | bool b => b
  | int n => n != 0
  | float x => x != 0.0
  | str s => !s.isEmpty
  | span ns => ns != 0
  | list items _ => !items.isEmpty
  | dict members => !members.isEmpty
  | complex re im => re != 0.0 || im != 0.0
  | _ => true

def unordered (op : CmpOp) (a b : Value) : Fault :=
  Fault.inner .typeError
    s!"'{op.symbol}' not supported between instances of '{a.typeName}' and '{b.typeName}'"

/-- The order of two values of one kind that have an order, lists aside; `none` for anything else.
-/
def atomOrder? : Value → Value → Option Ordering
  | str a, str b => some (compare a b)
  | time a, time b => some (compare a b)
  | zoned a _, zoned b _ => some (compare a b)
  | span a, span b => some (compare a b)
  | _, _ => Option.none

/-- Equality of values: numbers by value (NaN equal to nothing), lists by items, different kinds
never equal. -/
def same : Value → Value → Bool
  | none, none => true
  | str a, str b => a == b
  | time a, time b => a == b
  | zoned a _, zoned b _ => a == b
  | span a, span b => a == b
  | list as _, list bs _ => sameItems as bs
  | complex a b, complex c d => a == c && b == d
  | complex a b, v | v, complex a b =>
    match v.num? with
    | some x => b == 0.0 && x.toFloat == a
    | Option.none => false
  | other k s, other l t => k == l && s == t
  | a, b =>
    match a.num?, b.num? with
    | some x, some y => Num.compare? x y == some .eq
    | _, _ => false
where
  sameItems : List Value → List Value → Bool
    | [], [] => true
    | x :: xs, y :: ys => same x y && sameItems xs ys
    | _, _ => false

/-- The order of two lists: the first unequal pair of items decides; a prefix comes first. -/
def listOrder? : List Value → List Value → Option Ordering
  | [], [] => some .eq
  | [], _ => some .lt
  | _, [] => some .gt
  | x :: xs, y :: ys =>
    if same x y then listOrder? xs ys
    else
      match x.num?, y.num? with
      | some p, some q => Num.compare? p q
      | _, _ => atomOrder? x y

/-- The order of two values of one ordered kind (texts, instants, durations, lists); `none` else. -/
def order? : Value → Value → Option Ordering
  | list as _, list bs _ => listOrder? as bs
  | a, b => atomOrder? a b

/-- A comparison of two values; order tests of values without a common order fail. -/
def compareBy (op : CmpOp) (a b : Value) : Outcome Bool :=
  match op with
  | .eq => pure (same a b)
  | .ne => pure (!same a b)
  | _ =>
    match a.num?, b.num? with
    | some x, some y =>
      match Num.compare? x y with
      | some o => pure (op.holds o)
      | Option.none => pure false
    | _, _ =>
      match order? a b with
      | some o => pure (op.holds o)
      | Option.none => throw (unordered op a b)

end Value

end PipeQuery
