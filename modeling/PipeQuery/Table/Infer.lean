import PipeQuery.Table.Basic

/-!
# The element type of a list of values

`inferCells` picks the element type a list of values is stored as and converts the cells:
integers give `int64` (or `uint64` past it), with doubles or missing values `float64`, booleans
`bool`, instants `datetime`, durations `duration`; anything else, an empty list and `none` alone
stay `object`.
-/

namespace PipeQuery

structure Seen where
  missing : Bool := false
  nan : Bool := false
  int : Bool := false
  big : Bool := false
  negative : Bool := false
  float : Bool := false
  bool : Bool := false
  time : Bool := false
  notTime : Bool := false
  span : Bool := false
  complex : Bool := false
  zones : List Int := []
  other : Bool := false
  deriving Repr, Inhabited

namespace Seen

/-- The least and greatest 64-bit signed integers, the greatest of 64 and 32 unsigned bits, and
64-bit words. -/
def int64Min : Int := -9223372036854775808
def int64Max : Int := 9223372036854775807
def uint64Max : Int := 18446744073709551615
def uint32Max : Int := 4294967295
def wordRange : Int := 18446744073709551616

def add (s : Seen) : Value → Seen
  | .none => { s with missing := true }
  | .float x => if x.isNaN then { s with nan := true } else { s with float := true }
  | .int n =>
    if n < int64Min || n > uint64Max then { s with other := true }
    else if n > int64Max then { s with int := true, big := true }
    else { s with int := true, negative := s.negative || n < 0 }
  | .bool _ => { s with bool := true }
  | .time _ => { s with time := true }
  | .zoned _ off => { s with zones := if s.zones.contains off then s.zones else s.zones ++ [off] }
  | .nat => { s with notTime := true }
  | .span _ => { s with span := true }
  | .complex _ _ => { s with complex := true }
  | _ => { s with other := true }

def ofCells (cells : Array Value) : Seen :=
  cells.foldl add {}

end Seen

def Value.asFloat : Value → Value
  | .int n => .float (Num.intToFloat n)
  | .bool b => .float (if b then 1.0 else 0.0)
  | .float x => .float x
  | _ => Value.nan

def Value.asStamp : Value → Value
  | .time ns => .time ns
  | .zoned ns off => .zoned ns off
  | .span ns => .span ns
  | _ => .nat

def Value.asComplex : Value → Value
  | .int n => .complex (Num.intToFloat n) 0.0
  | .float x => .complex x 0.0
  | .complex re im => .complex re im
  | _ => .complex (0.0 / 0.0) 0.0

def inferCells (cells : Array Value) : DType × Array Value :=
  let s := Seen.ofCells cells
  let numeric := s.int || s.float || s.nan
  if s.other then (.object, cells)
  else if !s.zones.isEmpty then
    match s.zones with
    | [off] =>
      if s.time || s.span || s.complex || s.int || s.float || s.bool || s.big then (.object, cells)
      else (.zoned off, cells.map Value.asStamp)
    | _ => (.object, cells)
  else if s.complex then
    if s.time || s.span || s.notTime || s.bool || s.big then (.object, cells)
    else (.complex128, cells.map Value.asComplex)
  else if s.time then
    if s.int || s.float || s.bool || s.span then (.object, cells)
    else (.datetime, cells.map Value.asStamp)
  else if s.span then
    if s.int || s.float || s.bool then (.object, cells) else (.duration, cells.map Value.asStamp)
  else if s.notTime then
    if s.int || s.float || s.bool then (.object, cells)
    else (.datetime, cells.map Value.asStamp)
  else if s.bool then
    if numeric || s.missing then (.object, cells) else (.bool, cells)
  else if s.missing || s.nan then
    if numeric then (.float64, cells.map Value.asFloat) else (.object, cells)
  else if s.float then (.float64, cells.map Value.asFloat)
  else if s.int then
    if !s.big then (.int64, cells)
    else if s.negative then (.object, cells)
    else (.uint64, cells)
  else (.object, cells)

def Column.infer (label : Value) (cells : Array Value) : Column :=
  let (dtype, cells) := inferCells cells
  { label, dtype, cells }

end PipeQuery
