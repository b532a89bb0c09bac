import PipeQuery.Value.Order

/-!
# Elementary functions of doubles

The functions of doubles that the platform's library lacks or computes less precisely than the
array library: `log1p` and `expm1`, accurate near zero; `hypot` and `cbrt`, rounded once by taking
roots on exact integers; and the conversions between degrees and radians.
-/

namespace PipeQuery.Num

/-- `⌊√n⌋` by Newton's steps from a power of two above `√n`; `fuel` bounds them. -/
def sqrtFloorWith (n : Nat) : Nat → Nat → Nat
  | 0, x => x
  | fuel + 1, x =>
    let y := (x + n / x) / 2
    if y < x then sqrtFloorWith n fuel y else x

def sqrtFloor (n : Nat) : Nat :=
  if n == 0 then 0 else sqrtFloorWith n (n.log2 + 2) (Nat.pow 2 (n.log2 / 2 + 1))

/-- `⌊∛n⌋` by Newton's steps from a power of two above `∛n`; `fuel` bounds them. -/
def cbrtFloorWith (n : Nat) : Nat → Nat → Nat
  | 0, x => x
  | fuel + 1, x =>
    let y := (2 * x + n / (x * x)) / 3
    if y < x then cbrtFloorWith n fuel y else x

def cbrtFloor (n : Nat) : Nat :=
  if n == 0 then 0 else cbrtFloorWith n (n.log2 + 2) (Nat.pow 2 (n.log2 / 3 + 1))

/-- The double nearest `r · 2^e`, `exact` telling whether the root `r` was exact (one sticky bit).
-/
def rootToFloat (r : Nat) (exact : Bool) (e : Int) : Float :=
  let sticky := if exact then 0 else 1
  let t : Int := e - 1
  let (num, den) := if 0 ≤ t then ((2 * r + sticky) * Nat.pow 2 t.toNat, 1)
    else (2 * r + sticky, Nat.pow 2 (-t).toNat)
  (ratioToFloat? num den).getD (1.0 / 0.0)

def cbrt (x : Float) : Float :=
  if x.isNaN || x.isInf || x == 0.0 then x
  else
    let (neg, m, q) := floatParts x
    -- x = n · 8^j exactly, with n large enough for a root of at least 60 bits
    let j : Int := (q + (m.log2 : Int) - 183) / 3
    let n := m * Nat.pow 2 (q - 3 * j).toNat
    let r := cbrtFloor n
    let root := rootToFloat r (r * r * r == n) j
    if neg then -root else root

/-- `a · b + c` rounded once, as a fused multiply-add, ties to even. -/
def fusedMulAdd (a b c : Float) : Float :=
  if a.isNaN || b.isNaN || c.isNaN || a.isInf || b.isInf || c.isInf then a * b + c
  else
    let (na, ma, qa) := floatParts a
    let (nb, mb, qb) := floatParts b
    let (nc, mc, qc) := floatParts c
    let prod : Int := if na != nb then -((ma * mb : Nat) : Int) else ((ma * mb : Nat) : Int)
    let addend : Int := if nc then -(mc : Int) else mc
    let qp := qa + qb
    let e := min qp qc
    let exact : Int := prod * ((Nat.pow 2 (qp - e).toNat : Nat) : Int) +
      addend * ((Nat.pow 2 (qc - e).toNat : Nat) : Int)
    if exact == 0 then a * b + c
    else
      let (num, den) := if 0 ≤ e then (exact.natAbs * Nat.pow 2 e.toNat, 1)
        else (exact.natAbs, Nat.pow 2 (-e).toNat)
      let mag := (ratioToFloat? num den).getD (1.0 / 0.0)
      if exact < 0 then -mag else mag

def highBits (x : Float) : Nat :=
  (x.toBits >>> 32).toNat

def withHighBits (x : Float) (h : Int) : Float :=
  let hi : UInt64 := (h % 4294967296).toNat.toUInt64
  Float.ofBits ((hi <<< 32) ||| (x.toBits &&& 0xffffffff))

/-- `ln 2` as two doubles: the first's low 32 bits are clear, so its product with a small integer is
exact. -/
def lnTwoHi : Float := Float.ofBits 0x3fe62e42fee00000

def lnTwoLo : Float := Float.ofBits 0x3dea39ef35793c76

/-- The coefficients of the series `R(z)` of `log1p`, `z = s²`, `s = f / (2 + f)`:
`log (1 + f) = 2s + s·R(z)` near zero. -/
def logSeries : Array Float :=
  #[Float.ofBits 0x3fe5555555555593, Float.ofBits 0x3fd999999997fa04,
    Float.ofBits 0x3fd2492494229359, Float.ofBits 0x3fcc71c51d8e78af,
    Float.ofBits 0x3fc7466496cb03de, Float.ofBits 0x3fc39a09d078c69f,
    Float.ofBits 0x3fc2f112df3e5244]

/-- `log (1 + x)` as the platform library computes it, by fused multiply-adds, to the last bit. -/
def log1p (x : Float) : Float :=
  let raw := highBits x
  let hx : Int := if raw ≥ 2147483648 then (raw : Int) - 4294967296 else raw
  let ax := raw % 2147483648
  let lp (i : Nat) : Float := logSeries.getD (i - 1) 0.0
  if hx < 0x3FDA827A && ax ≥ 0x3ff00000 then
    if x == -1.0 then -(1.0 / 0.0) else 0.0 / 0.0
  else if hx < 0x3FDA827A && ax < 0x3e200000 then
    if ax < 0x3c900000 then x else x - x * x * 0.5
  else if hx ≥ 0x7ff00000 then x + x
  else
    let (k, f, hu, c) : Int × Float × Nat × Float :=
      if hx < 0x3FDA827A && (hx > 0 || hx ≤ -1076707645) then (0, x, 1, 0.0)
      else
        let u := if hx < 0x43400000 then 1.0 + x else x
        let hu := highBits u
        let k : Int := ((hu / 1048576 : Nat) : Int) - 1023
        let c := if hx < 0x43400000 then
            (if k > 0 then 1.0 - (u - x) else x - (u - 1.0)) / u
          else 0.0
        let m := hu % 1048576
        if m < 0x6a09e then (k, withHighBits u (m + 0x3ff00000) - 1.0, m, c)
        else (k + 1, withHighBits u (m + 0x3fe00000) - 1.0, (1048576 - m) / 4, c)
    let hfsq := 0.5 * f * f
    let kf := Float.ofInt k
    if hu == 0 then
      if f == 0.0 then
        if k == 0 then 0.0 else fusedMulAdd kf lnTwoHi (fusedMulAdd kf lnTwoLo c)
      else
        let r := fusedMulAdd (-f) (Float.ofBits 0x3fe5555555555555) 1.0 * hfsq
        if k == 0 then f - r
        else fusedMulAdd kf lnTwoHi (-((r - fusedMulAdd kf lnTwoLo c) - f))
    else
      let s := f / (2.0 + f)
      let z := s * s
      let z2 := z * z
      let z4 := z2 * z2
      let z6 := z2 * z4
      let r := fusedMulAdd z (lp 1) (z2 * fusedMulAdd z (lp 3) (lp 2))
      let r := fusedMulAdd z4 (fusedMulAdd z (lp 5) (lp 4)) r
      let r := fusedMulAdd z6 (fusedMulAdd z (lp 7) (lp 6)) r
      let t := (r + hfsq) * s
      if k == 0 then f - (hfsq - t)
      else fusedMulAdd kf lnTwoHi (-((hfsq - (fusedMulAdd kf lnTwoLo c + t)) - f))

def expSeries : Array Float :=
  #[Float.ofBits 0xbfa11111111110f4, Float.ofBits 0x3f5a01a019fe5585,
    Float.ofBits 0xbf14ce199eaadbb7, Float.ofBits 0x3ed0cfca86e65239,
    Float.ofBits 0xbe8afdb76e09c32d]

/-- `exp x - 1` as the platform's library computes it, by fused multiply-adds. -/
def expm1 (x : Float) : Float :=
  let raw := highBits x
  let neg := raw ≥ 2147483648
  let hx := raw % 2147483648
  let q (i : Nat) : Float := expSeries.getD (i - 1) 0.0
  if hx ≥ 0x7ff00000 then
    if x.isNaN then x + x else if neg then -1.0 else x
  else if hx ≥ 0x40862E42 && x > Float.ofBits 0x40862e42fefa39ef then 1.0 / 0.0
  else if hx ≥ 0x4043687A && neg then -1.0
  else if hx < 0x3c900000 then x
  else
    let (k, x, c) : Int × Float × Float :=
      if hx > 0x3fd62e42 then
        let (k, hi, lo) : Int × Float × Float :=
          if hx < 0x3FF0A2B2 then
            if neg then (-1, x + lnTwoHi, -lnTwoLo) else (1, x - lnTwoHi, lnTwoLo)
          else
            let k := truncate (Float.ofBits 0x3ff71547652b82fe * x + (if neg then -0.5 else 0.5))
            let t := Float.ofInt k
            (k, fusedMulAdd (-t) lnTwoHi x, t * lnTwoLo)
        let r := hi - lo
        (k, r, (hi - r) - lo)
      else (0, x, 0.0)
    let hfx := 0.5 * x
    let hxs := x * hfx
    let h2 := hxs * hxs
    let h4 := h2 * h2
    let r1 := fusedMulAdd hxs (q 1) 1.0
    let r1 := fusedMulAdd h2 (fusedMulAdd hxs (q 3) (q 2)) r1
    let r1 := fusedMulAdd h4 (fusedMulAdd hxs (q 5) (q 4)) r1
    let t := fusedMulAdd (-r1) hfx 3.0
    let e := hxs * ((r1 - t) / fusedMulAdd (-x) t 6.0)
    if k == 0 then x - fusedMulAdd e x (-hxs)
    else
      let e := fusedMulAdd (e - c) x (-c) - hxs
      let shifted (y : Float) : Float := withHighBits y ((highBits y : Int) + k * 1048576)
      if k == -1 then fusedMulAdd 0.5 (x - e) (-0.5)
      else if k == 1 then
        if x < -0.25 then -2.0 * (e - (x + 0.5)) else fusedMulAdd (x - e) 2.0 1.0
      else if k ≤ -2 || k > 56 then shifted (1.0 - (e - x)) - 1.0
      else if k < 20 then
        let t := withHighBits 0.0 (0x3ff00000 - (0x200000 / Nat.pow 2 k.toNat : Nat))
        shifted (t - (e - x))
      else
        let t := withHighBits 0.0 ((0x3ff - k) * 1048576)
        shifted (x - (e + t) + 1.0)

/-- `√(x² + y²)` correctly rounded: infinite when either side is, NaN when either is NaN otherwise.
-/
def hypot (x y : Float) : Float :=
  if x.isInf || y.isInf then 1.0 / 0.0
  else if x.isNaN || y.isNaN then 0.0 / 0.0
  else if x == 0.0 && y == 0.0 then 0.0
  else
    let (_, mx, ex) := floatParts x
    let (_, my, ey) := floatParts y
    let e := min ex ey
    -- x² + y² = n · 4^e exactly
    let n := mx * mx * Nat.pow 4 (ex - e).toNat + my * my * Nat.pow 4 (ey - e).toNat
    -- scaled by 4^s so that the root has at least 60 bits
    let s : Nat := 60 - n.log2 / 2
    let scaled := n * Nat.pow 4 s
    let r := sqrtFloor scaled
    rootToFloat r (r * r == scaled) (e - s)

def toRadians (x : Float) : Float :=
  x * (3.141592653589793 / 180.0)

def toDegrees (x : Float) : Float :=
  x * (180.0 / 3.141592653589793)

end PipeQuery.Num
