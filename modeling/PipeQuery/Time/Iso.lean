import PipeQuery.Time.Civil

/-!
# Reading ISO 8601 instants

`isoRead` reads the ISO 8601 forms the array library's fast reader knows: a year, month and day
(one separator used both times), a time, a fraction of up to eighteen digits and a zone; `YYYYMM`
and out-of-range fields are refused. Given a pattern, the reader also checks that the text follows
it, exactly or (`FormatMode.leading`) up to where the pattern ends.
-/

namespace PipeQuery.Time

/-- How a pattern is held against the text: not at all, exactly, or as far as it goes. -/
inductive FormatMode
  | infer
  | exact
  | leading
  deriving DecidableEq, Inhabited

/-- What a reading found: date and time, microseconds and picoseconds, and the offset in minutes
when given. -/
structure IsoParts where
  year : Int := 0
  month : Nat := 1
  day : Nat := 1
  hour : Nat := 0
  minute : Nat := 0
  second : Nat := 0
  micro : Nat := 0
  pico : Nat := 0
  offset : Option Int := none
  fine : Bool := false
  deriving Repr, Inhabited

inductive IsoStop
  | done
  | fail
  deriving Inhabited

structure IsoState where
  text : Array Char
  pos : Nat := 0
  fmt : List Char := []
  mode : FormatMode := .infer
  parts : IsoParts := {}

abbrev IsoM := ExceptT IsoStop (StateM IsoState)

def isAsciiSpace (c : Char) : Bool :=
  c == ' ' || (9 ≤ c.toNat && c.toNat ≤ 13)

def isoPeek : IsoM (Option Char) := do
  let st ← get
  return st.text[st.pos]?

def isoPeekAt (k : Nat) : IsoM (Option Char) := do
  let st ← get
  return st.text[st.pos + k]?

def isoLeft : IsoM Nat := do
  let st ← get
  return st.text.size - st.pos

def isoSkip (k : Nat) : IsoM Unit :=
  modify fun st => { st with pos := st.pos + k }

def isoDigitHere : IsoM Bool := do
  return ((← isoPeek).map Char.isDigit).getD false

def isoDigitValue : IsoM Nat := do
  return ((← isoPeek).map fun c => c.toNat - '0'.toNat).getD 0

/-- Holds the next piece `lit` of the pattern against the text. -/
def expectFormat (lit : List Char) : IsoM Unit := do
  let st ← get
  match st.mode with
  | .infer => pure ()
  | mode =>
    if mode == .leading && st.fmt.isEmpty then throw .done
    if st.fmt.take lit.length != lit then throw .fail
    set { st with fmt := st.fmt.drop lit.length }

def formatUsed : IsoM Unit := do
  if !(← get).fmt.isEmpty && (← get).mode != .infer then throw .fail

def setParts (f : IsoParts → IsoParts) : IsoM Unit :=
  modify fun st => { st with parts := f st.parts }

def skipBlanks : Nat → IsoM Unit
  | 0 => pure ()
  | fuel + 1 => do
    match ← isoPeek with
    | some c =>
      if isAsciiSpace c then
        isoSkip 1
        expectFormat [' ']
        skipBlanks fuel
    | none => pure ()

/-- Reads up to `n` fraction digits, zero-padded to `n`: the value and how many digits were read. -/
def fractionDigits : Nat → Nat → Nat → IsoM (Nat × Nat)
  | 0, v, k => pure (v, k)
  | n + 1, v, k => do
    if ← isoDigitHere then
      let d ← isoDigitValue
      isoSkip 1
      fractionDigits n (10 * v + d) (k + 1)
    else fractionDigits n (10 * v) k

def isoZone : IsoM Unit := do
  let fuel := (← get).text.size + 1
  skipBlanks fuel
  if (← isoLeft) == 0 then
    formatUsed
    throw .done
  match ← isoPeek with
  | some 'Z' =>
    expectFormat ['%', 'z']
    setParts fun p => { p with offset := some 0 }
    if (← isoLeft) == 1 then throw .done
    isoSkip 1
  | some c =>
    if c == '-' || c == '+' then
      expectFormat ['%', 'z']
      let neg := c == '-'
      isoSkip 1
      let twoDigits : IsoM Bool := do
        return (← isoLeft) ≥ 2 && ((← isoPeek).map Char.isDigit).getD false &&
          ((← isoPeekAt 1).map Char.isDigit).getD false
      let hours ← if ← twoDigits then do
          let a ← isoDigitValue
          isoSkip 1
          let b ← isoDigitValue
          isoSkip 1
          if 10 * a + b ≥ 24 then throw .fail
          pure (10 * a + b)
        else if ← isoDigitHere then do
          let a ← isoDigitValue
          isoSkip 1
          pure a
        else throw .fail
      let minutes ← if (← isoLeft) > 0 then do
          if (← isoPeek) == some ':' then isoSkip 1
          if ← twoDigits then
            let a ← isoDigitValue
            isoSkip 1
            let b ← isoDigitValue
            isoSkip 1
            if 10 * a + b ≥ 60 then throw .fail
            pure (10 * a + b)
          else if ← isoDigitHere then
            let a ← isoDigitValue
            isoSkip 1
            pure a
          else throw .fail
        else pure 0
      let total : Int := 60 * (hours : Int) + minutes
      setParts fun p => { p with offset := some (if neg then -total else total) }
  | none => pure ()
  skipBlanks fuel
  if (← isoLeft) != 0 then throw .fail
  formatUsed

def isoSeconds (sep : Bool) : IsoM Unit := do
  expectFormat ['%', 'S']
  let first ← isoDigitValue
  isoSkip 1
  if ← isoDigitHere then
    let v := 10 * first + (← isoDigitValue)
    isoSkip 1
    if v ≥ 60 then throw .fail
    setParts fun p => { p with second := v }
  else if !sep then throw .fail
  else setParts fun p => { p with second := first }
  if (← isoLeft) > 0 && (← isoPeek) == some '.' then
    isoSkip 1
    expectFormat ['.']
  else isoZone
  expectFormat ['%', 'f']
  let (us, _) ← fractionDigits 6 0 0
  setParts fun p => { p with micro := us }
  if (← isoLeft) == 0 || !(← isoDigitHere) then isoZone
  let (ps, _) ← fractionDigits 6 0 0
  setParts fun p => { p with pico := ps, fine := true }
  if (← isoLeft) == 0 || !(← isoDigitHere) then isoZone
  let _ ← fractionDigits 6 0 0
  isoZone

def isoClock : IsoM Unit := do
  expectFormat ['%', 'H']
  if !(← isoDigitHere) then throw .fail
  let first ← isoDigitValue
  isoSkip 1
  let twoDigitHour ← isoDigitHere
  if twoDigitHour then
    let v := 10 * first + (← isoDigitValue)
    isoSkip 1
    if v ≥ 24 then throw .fail
    setParts fun p => { p with hour := v }
  else setParts fun p => { p with hour := first }
  if (← isoLeft) == 0 then
    if !twoDigitHour then throw .fail
    formatUsed
    throw .done
  let sep ← if (← isoPeek) == some ':' then do
      isoSkip 1
      if (← isoLeft) == 0 || !(← isoDigitHere) then throw .fail
      expectFormat [':']
      pure true
    else if ← isoDigitHere then pure false
    else do
      if !twoDigitHour then throw .fail
      isoZone
      pure false
  expectFormat ['%', 'M']
  let first ← isoDigitValue
  isoSkip 1
  if ← isoDigitHere then
    let v := 10 * first + (← isoDigitValue)
    isoSkip 1
    if v ≥ 60 then throw .fail
    setParts fun p => { p with minute := v }
  else if !sep then throw .fail
  else setParts fun p => { p with minute := first }
  if (← isoLeft) == 0 then
    formatUsed
    throw .done
  if sep && (← isoPeek) == some ':' then
    expectFormat [':']
    isoSkip 1
    if (← isoLeft) == 0 || !(← isoDigitHere) then throw .fail
    isoSeconds sep
  else if !sep && (← isoDigitHere) then isoSeconds sep
  else isoZone

def readIsoText : IsoM Unit := do
  let fuel := (← get).text.size + 1
  skipBlanks fuel
  let negative := (← get).text[0]? == some '-'
  if (← isoPeek) == some '-' then isoSkip 1
  if (← isoLeft) == 0 then throw .fail
  expectFormat ['%', 'Y']
  let four ← do
    let ds ← [0, 1, 2, 3].mapM isoPeekAt
    pure (if ds.all fun d => (d.map Char.isDigit).getD false then
      some (ds.foldl (fun (n : Nat) d => 10 * n + ((d.map fun c => c.toNat - '0'.toNat).getD 0)) 0) else none)
  match four with
  | some y =>
    isoSkip 4
    setParts fun p => { p with year := if negative then -(y : Int) else y }
  | none => pure ()
  if (← isoLeft) == 0 then
    formatUsed
    throw .done
  let sep ← if !(← isoDigitHere) then do
      let c := ((← isoPeek).getD ' ')
      if !"-./\\ ".contains c then throw .fail
      isoSkip 1
      expectFormat [c]
      if (← isoLeft) == 0 || !(← isoDigitHere) then throw .fail
      pure (some c)
    else pure none
  expectFormat ['%', 'm']
  let first ← isoDigitValue
  isoSkip 1
  let month ← if ← isoDigitHere then do
      let v := 10 * first + (← isoDigitValue)
      isoSkip 1
      pure v
    else if sep.isNone then throw .fail
    else pure first
  if month < 1 || month > 12 then throw .fail
  setParts fun p => { p with month }
  if (← isoLeft) == 0 then
    if sep.isNone then throw .fail
    formatUsed
    throw .done
  if let some c := sep then
    if (← isoPeek) != some c || (← isoLeft) == 1 then throw .fail
    isoSkip 1
    expectFormat [c]
  expectFormat ['%', 'd']
  if !(← isoDigitHere) then throw .fail
  let first ← isoDigitValue
  isoSkip 1
  let day ← if ← isoDigitHere then do
      let v := 10 * first + (← isoDigitValue)
      isoSkip 1
      pure v
    else if sep.isNone then throw .fail
    else pure first
  let year := (← get).parts.year
  if day < 1 || day > monthDays year month then throw .fail
  setParts fun p => { p with day }
  if (← isoLeft) == 0 then
    formatUsed
    throw .done
  let c := (← isoPeek).getD ' '
  if (c != 'T' && c != ' ') || (← isoLeft) == 1 then throw .fail
  expectFormat [c]
  isoSkip 1
  isoClock

def isoRead (s : String) (fmt : String) (mode : FormatMode) : Option IsoParts :=
  let st : IsoState := { text := s.toList.toArray, fmt := fmt.toList, mode }
  match (readIsoText.run).run st with
  | (.error .fail, _) => none
  | (_, st) => some st.parts

def IsoParts.toNanos (p : IsoParts) : Int :=
  let stamp : Stamp :=
    { date := ⟨p.year, p.month, p.day⟩, hour := p.hour, minute := p.minute, second := p.second,
      nano := p.micro * 1000 + p.pico / 1000 }
  stamp.toNanos

end PipeQuery.Time
