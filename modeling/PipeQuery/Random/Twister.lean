/-!
# The Mersenne Twister

`Twister` is MT19937: 624 words of state, twisted all at once when used up, each word tempered on
the way out, seeded by `Twister.ofSeed`. `Twister.below m` draws from `[0, m]` by masking words and
drawing again while above `m`; `Twister.shuffle` swaps each position `i`, from the last down to
the second, with one drawn from `[0, i]`.
-/

namespace PipeQuery

/-- The state of the generator: 624 words and the position of the next word to hand out. -/
structure Twister where
  key : Array UInt32
  pos : Nat
  deriving Inhabited

namespace Twister

def size : Nat := 624

def shift : Nat := 397

def ofSeed (seed : UInt32) : Twister :=
  let words := (List.range size).foldl (fun (acc : List UInt32 × UInt32) i =>
    let (ws, x) := acc
    (x :: ws, (1812433253 : UInt32) * (x ^^^ (x >>> 30)) + (i + 1).toUInt32)) ([], seed)
  { key := words.1.reverse.toArray, pos := size }

/-- The word that replaces word `i`, made from words `i`, `i + 1` and `i + 397` (cyclically). -/
def mixed (key : Array UInt32) (i : Nat) : UInt32 :=
  let y := (key.getD i 0 &&& 0x80000000) ||| (key.getD ((i + 1) % size) 0 &&& 0x7fffffff)
  let twist := if y &&& 1 == 1 then (0x9908b0df : UInt32) else 0
  key.getD ((i + shift) % size) 0 ^^^ (y >>> 1) ^^^ twist

/-- All words replaced in order, each replacement seeing the words already replaced. -/
def twist (key : Array UInt32) : Array UInt32 :=
  (List.range size).foldl (fun k i => k.set! i (mixed k i)) key

/-- A word scrambled before it is handed out. -/
def temper (y : UInt32) : UInt32 :=
  let y := y ^^^ (y >>> 11)
  let y := y ^^^ ((y <<< 7) &&& 0x9d2c5680)
  let y := y ^^^ ((y <<< 15) &&& 0xefc60000)
  y ^^^ (y >>> 18)

def next32 (g : Twister) : UInt32 × Twister :=
  let g := if g.pos ≥ size then { key := twist g.key, pos := 0 } else g
  (temper (g.key.getD g.pos 0), { g with pos := g.pos + 1 })

def next64 (g : Twister) : UInt64 × Twister :=
  let (hi, g) := g.next32
  let (lo, g) := g.next32
  ((hi.toUInt64 <<< 32) ||| lo.toUInt64, g)

/-- A double drawn evenly from `[0, 1)`: 27 bits of one word and 26 of the next, as a fraction of
`2^53`. -/
def nextDouble (g : Twister) : Float × Twister :=
  let (a, g) := g.next32
  let (b, g) := g.next32
  ((Float.ofNat (a >>> 5).toNat * 67108864.0 + Float.ofNat (b >>> 6).toNat) / 9007199254740992.0, g)

def maskFor (m : Nat) : Nat :=
  Nat.pow 2 (Nat.log2 m + 1) - 1

/-- A number in `[0, m]`, drawn as the module describes; after `fuel` rejected draws the last is
taken modulo `m + 1`. -/
def belowWith (m : Nat) : Nat → Twister → Nat × Twister
  | 0, g => (0, g)
  | fuel + 1, g =>
    let mask := maskFor m
    let (v, g) :=
      if m < 4294967296 then
        let (w, g) := g.next32
        (w.toNat &&& mask, g)
      else
        let (w, g) := g.next64
        (w.toNat &&& mask, g)
    if v ≤ m then (v, g)
    else if fuel == 0 then (v % (m + 1), g)
    else belowWith m fuel g

def below (m : Nat) (g : Twister) : Nat × Twister :=
  if m == 0 then (0, g) else belowWith m 256 g

/-- The list permuted by swapping each position, last down to second, with one drawn at or before
it. -/
def shuffle {α : Type} [Inhabited α] (xs : Array α) (g : Twister) : Array α × Twister :=
  ((List.range xs.size).drop 1).reverse.foldl (fun (acc : Array α × Twister) i =>
    let (xs, g) := acc
    let (j, g) := g.below i
    (xs.swapIfInBounds i j, g)) (xs, g)

end Twister

end PipeQuery
