import PipeQuery.Calc.Datum

/-!
# Calculations: hashes and the order of sets

A set lists its members in the order of the slots of its table, so its order follows from the
members' hashes (`hashOf?`: an integer modulo `2^61 - 1` with its sign, a double by its exact
value, a tuple from its items; `fallbackHash` for the values hashed anew on every run) and from
the table's history. `SetTable.add` probes the slot the hash picks, the nine after it, then
`5 * i + 1 + perturb`; the table grows once three fifths of it are taken. `SetTable.merge`
copies slot for slot when the other set never lost a member.
-/

namespace PipeQuery.Calc

/-- The prime the hashes of numbers are taken modulo: `2^61 - 1`. -/
def hashPrime : Nat := 2305843009213693951

def hashWord (h : Int) : Nat :=
  (h % (Nat.pow 2 64 : Int)).toNat

def signedWord (w : UInt64) : Int :=
  if w.toNat ≥ Nat.pow 2 63 then (w.toNat : Int) - (Nat.pow 2 64 : Int) else w.toNat

/-- A number's hash from the residue of its magnitude and its sign; `-1` is taken as `-2`. -/
def signedHash (negative : Bool) (r : Nat) : Int :=
  let h : Int := if negative then -(r : Int) else r
  if h == -1 then -2 else h

def intHash (n : Int) : Int :=
  signedHash (n < 0) (n.natAbs % hashPrime)

/-- A double's hash: its exact value modulo `hashPrime`; infinities `± 314159`, an integral double
as its integer. -/
def floatHash? (x : Float) : Option Int :=
  if x.isNaN then none
  else if x.isInf then some (if x > 0 then 314159 else -314159)
  else
    let (neg, m, q) := Num.floatParts x
    let e := (q % 61).toNat
    some (signedHash neg (m % hashPrime * Nat.pow 2 e % hashPrime))

/-- A complex number's hash: the real part's plus `1000003` times the imaginary part's, in 64-bit
words. -/
def complexHash? (re im : Float) : Option Int := do
  let a ← floatHash? re
  let b ← floatHash? im
  let w := UInt64.ofNat (hashWord a) + UInt64.ofNat 1000003 * UInt64.ofNat (hashWord b)
  let h := signedWord w
  return if h == -1 then -2 else h

/-- A tuple's hash from its items' hashes, mixed in by large primes and rotation; then the length is
added. -/
def tupleHash (lanes : List Int) : Int :=
  let p1 : UInt64 := 11400714785074694791
  let p2 : UInt64 := 14029467366897019727
  let p5 : UInt64 := 2870177450012600261
  let acc := lanes.foldl (fun (acc : UInt64) h =>
    let acc := acc + UInt64.ofNat (hashWord h) * p2
    let acc := (acc <<< 31) ||| (acc >>> 33)
    acc * p1) p5
  let acc := acc + (UInt64.ofNat lanes.length ^^^ (p5 ^^^ 3527539))
  if acc == 0xFFFFFFFFFFFFFFFF then 1546275796 else signedWord acc

/-- The run-independent hash of a value: numbers, truths, and tuples of such. -/
def hashOf? : Nat → Datum → Option Int
  | 0, _ => none
  | fuel + 1, d =>
    match d with
    | .scalar (.int n) | .element (.int n) _ => some (intHash n)
    | .scalar (.bool b) | .element (.bool b) _ => some (if b then 1 else 0)
    | .scalar (.float x) | .element (.float x) _ => floatHash? x
    | .scalar (.complex re im) => complexHash? re im
    | .seq false items => (items.mapM (hashOf? fuel)).map tupleHash
    | _ => none

/-- A stand-in hash for a value hashed per run: its written bytes mixed by the Fowler–Noll–Vo rule.
-/
def fallbackHash (salt : Nat) (d : Datum) : Int :=
  match d with
  | .scalar (.float x) | .element (.float x) _ =>
    if x.isNaN then signedWord (UInt64.ofNat (salt * 16 + 7)) else 0
  | _ =>
    let text := (d.texts #[] 8).2
    let w := text.toList.foldl (fun (acc : UInt64) c =>
      (acc ^^^ UInt64.ofNat c.toNat) * 1099511628211) 14695981039346656037
    let h := signedWord w
    if h == -1 then -2 else h

inductive Slot
  | empty
  | removed
  | taken (key : Datum) (hash : Int)
  deriving Inhabited

def Slot.isEmpty : Slot → Bool
  | .empty => true
  | _ => false

/-- A set's table: its slots, how many are used, how many hold members, and where taking one starts.
-/
structure SetTable where
  slots : Array Slot := Array.replicate 8 .empty
  fill : Nat := 0
  used : Nat := 0
  finger : Nat := 0
  deriving Inhabited

namespace SetTable

def linearProbes : Nat := 9

def mask (t : SetTable) : Nat := t.slots.size - 1

def members (t : SetTable) : List Datum :=
  t.slots.toList.filterMap fun s => match s with
    | .taken k _ => some k
    | _ => none

def entries (t : SetTable) : List (Datum × Int) :=
  t.slots.toList.filterMap fun s => match s with
    | .taken k h => some (k, h)
    | _ => none

/-- The first empty slot among `i` and the nine after it when they stay inside the table. -/
def firstEmptyNear (slots : Array Slot) (mask i : Nat) : Option Nat :=
  let probes := if i + linearProbes ≤ mask then linearProbes else 0
  (List.range (probes + 1)).findSome? fun k =>
    if (slots.getD (i + k) .empty).isEmpty then some (i + k) else none

def cleanSlot (slots : Array Slot) (h : Int) : Nat :=
  let mask := slots.size - 1
  let rec go : Nat → Nat → Nat → Nat
    | 0, i, _ => i
    | fuel + 1, i, perturb =>
      match firstEmptyNear slots mask i with
      | some j => j
      | none =>
        let perturb := perturb / 32
        go fuel ((i * 5 + 1 + perturb) % slots.size) perturb
  go (slots.size + 80) (hashWord h % slots.size) (hashWord h)

def insertClean (slots : Array Slot) (k : Datum) (h : Int) : Array Slot :=
  slots.set! (cleanSlot slots h) (.taken k h)

/-- The table rebuilt with the least power of two above `least` slots (eight or more), members back
in slot order. -/
def resize (t : SetTable) (least : Nat) : SetTable :=
  let rec size : Nat → Nat → Nat
    | 0, n => n
    | fuel + 1, n => if n ≤ least then size fuel (2 * n) else n
  let n := size 64 8
  let slots := t.entries.foldl (fun s (k, h) => insertClean s k h) (Array.replicate n .empty)
  { t with slots, fill := t.used }

/-- What a lookup along the probes finds: an equal member's slot, or the empty slot ending them with
the first removed slot passed. -/
inductive Probe
  | found (i : Nat)
  | missing (empty : Nat) (freed : Option Nat)

def probe (same : Datum → Datum → Bool) (t : SetTable) (k : Datum) (h : Int) : Probe :=
  let mask := t.mask
  let rec scan : Nat → Nat → Option Nat → Probe ⊕ Option Nat
    | 0, _, freed => .inr freed
    | n + 1, j, freed =>
      match t.slots.getD j .empty with
      | .empty => .inl (.missing j freed)
      | .taken k' h' => if h' == h && same k' k then .inl (.found j) else scan n (j + 1) freed
      | .removed => scan n (j + 1) (freed.orElse fun _ => some j)
  let rec go : Nat → Nat → Nat → Option Nat → Probe
    | 0, i, _, freed => .missing i freed
    | fuel + 1, i, perturb, freed =>
      let probes := if i + linearProbes ≤ mask then linearProbes else 0
      match scan (probes + 1) i freed with
      | .inl p => p
      | .inr freed =>
        let perturb := perturb / 32
        go fuel ((i * 5 + 1 + perturb) % t.slots.size) perturb freed
  go (t.slots.size + 80) (hashWord h % t.slots.size) (hashWord h) none

def holds (same : Datum → Datum → Bool) (t : SetTable) (k : Datum) (h : Int) : Bool :=
  match t.probe same k h with
  | .found _ => true
  | .missing _ _ => false

def add (same : Datum → Datum → Bool) (t : SetTable) (k : Datum) (h : Int) : SetTable :=
  match t.probe same k h with
  | .found _ => t
  | .missing _ (some f) => { t with slots := t.slots.set! f (.taken k h), used := t.used + 1 }
  | .missing e none =>
    let t := { t with slots := t.slots.set! e (.taken k h), fill := t.fill + 1, used := t.used + 1 }
    if t.fill * 5 < t.mask * 3 then t
    else t.resize (if t.used > 50000 then t.used * 2 else t.used * 4)

/-- Removes the member equal to `k`, if any, marking its slot removed; also tells whether it was
there. -/
def discard (same : Datum → Datum → Bool) (t : SetTable) (k : Datum) (h : Int) : SetTable × Bool :=
  match t.probe same k h with
  | .found i => ({ t with slots := t.slots.set! i .removed, used := t.used - 1 }, true)
  | .missing _ _ => (t, false)

/-- Takes a member out: the first taken slot from the finger on, going round. -/
def pop? (t : SetTable) : Option (Datum × SetTable) :=
  if t.used == 0 then none
  else
    let n := t.slots.size
    let start := t.finger % n
    (List.range n).findSome? fun k =>
      let i := (start + k) % n
      match t.slots.getD i .empty with
      | .taken key _ =>
        some (key, { t with slots := t.slots.set! i .removed, used := t.used - 1, finger := i + 1 })
      | _ => none

def merge (same : Datum → Datum → Bool) (t other : SetTable) : SetTable :=
  if other.used == 0 then t
  else
    let t := if (t.fill + other.used) * 5 ≥ t.mask * 3 then t.resize ((t.used + other.used) * 2)
      else t
    if t.fill == 0 && t.mask == other.mask && other.fill == other.used then
      { t with slots := other.slots, fill := other.fill, used := other.used }
    else if t.fill == 0 then
      let slots := other.entries.foldl (fun s (k, h) => insertClean s k h) t.slots
      { t with slots, fill := other.used, used := other.used }
    else other.entries.foldl (fun t (k, h) => t.add same k h) t

def copy (same : Datum → Datum → Bool) (t : SetTable) : SetTable :=
  ({} : SetTable).merge same t

/-- The members of `a` that `b` holds, the smaller table's members looked up in the other. -/
def inter (same : Datum → Datum → Bool) (a b : SetTable) : SetTable :=
  let (big, small) := if b.used > a.used then (b, a) else (a, b)
  small.entries.foldl (fun r (k, h) => if big.holds same k h then r.add same k h else r) {}

def diff (same : Datum → Datum → Bool) (a b : SetTable) : SetTable :=
  if a.used / 4 > b.used then
    b.entries.foldl (fun r (k, h) => (r.discard same k h).1) (a.copy same)
  else a.entries.foldl (fun r (k, h) => if b.holds same k h then r else r.add same k h) {}

/-- The members of exactly one of `a` and `b`: a copy of `b`, each member of `a` removed if there,
else added. -/
def symDiff (same : Datum → Datum → Bool) (a b : SetTable) : SetTable :=
  a.entries.foldl (fun r (k, h) =>
    let (r', found) := r.discard same k h
    if found then r' else r.add same k h) (b.copy same)

end SetTable

end PipeQuery.Calc
