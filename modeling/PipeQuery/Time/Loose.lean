import PipeQuery.Time.Civil
import PipeQuery.Text.Case
import PipeQuery.Text.Numeral

/-!
# Reading free-form dates

`looseParts` reads a text such as `Friday, January 5, 2024 10:00 AM` or `20240105` piece by piece
(`dateTokens`), as the language's common free-form reader does with its default settings: numbers
by their length and what follows, words as weekdays, months, `am`/`pm`, zones or skipped words.
Year, month and day are told apart by size and order; a two-digit year falls within fifty years
of `presentYear`.
-/

namespace PipeQuery.Time

/-!
## The pieces of a free-form date

`dateTokens` cuts a text into runs of letters, runs of digits, single blanks and other characters
(NUL dropped). Dots may join runs (`21.447` stays whole), but a run with letters and a dot, two
dots, or a trailing dot is cut at each dot and comma (`Sep.20.2009` gives `Sep . 20 . 2009`);
`10,5` reads as `10.5`.
-/

inductive PieceKind
  | word
  | number
  | wordDot
  | numberDot
  deriving DecidableEq, Inhabited

/-- A piece being read: its kind, whether a character went by while it had letters, and its
characters. -/
structure OpenPiece where
  kind : PieceKind
  seenLetters : Bool
  text : List Char

def OpenPiece.endsInDot (p : OpenPiece) : Bool :=
  p.text.getLast? == some '.'

/-- Feeds a character to a piece: the piece, and whether the character joined it rather than
starting the next. -/
def OpenPiece.feed (p : OpenPiece) (c : Char) : OpenPiece × Bool :=
  let grow (kind : PieceKind) (seen : Bool) : OpenPiece × Bool :=
    ({ kind, seenLetters := seen, text := p.text ++ [c] }, true)
  let stop (seen : Bool) : OpenPiece × Bool := ({ p with seenLetters := seen }, false)
  match p.kind with
  | .word =>
    if Text.isLetter c then grow .word true
    else if c == '.' then grow .wordDot true
    else stop true
  | .number =>
    if Text.isDigitChar c then grow .number p.seenLetters
    else if c == '.' || (c == ',' && p.text.length ≥ 2) then grow .numberDot p.seenLetters
    else stop p.seenLetters
  | .wordDot =>
    if c == '.' || Text.isLetter c then grow .wordDot true
    else if Text.isDigitChar c && p.endsInDot then grow .numberDot true
    else stop true
  | .numberDot =>
    if c == '.' || Text.isDigitChar c then grow .numberDot p.seenLetters
    else if Text.isLetter c && p.endsInDot then grow .wordDot p.seenLetters
    else stop p.seenLetters

def OpenPiece.readOn : Nat → OpenPiece → List Char → OpenPiece × List Char
  | 0, p, cs => (p, cs)
  | _ + 1, p, [] => (p, [])
  | fuel + 1, p, c :: cs =>
    match p.feed c with
    | (q, true) => OpenPiece.readOn fuel q cs
    | (q, false) => (q, c :: cs)

/-- A piece's characters cut at each dot and comma, those kept as pieces of their own, empty pieces
left out. -/
def cutAtDots (cs : List Char) : List String :=
  let rec go : List Char → List Char → List String
    | [], cur => if cur.isEmpty then [] else [String.ofList cur]
    | c :: rest, cur =>
      if c == '.' || c == ',' then
        (if cur.isEmpty then [] else [String.ofList cur]) ++ c.toString :: go rest []
      else go rest (cur ++ [c])
  go cs []

def OpenPiece.finish (p : OpenPiece) : List String :=
  let dotted := p.kind == .wordDot || p.kind == .numberDot
  let dots := p.text.count '.'
  let lastCut := p.text.getLast? == some '.' || p.text.getLast? == some ','
  if dotted && (p.seenLetters || dots > 1 || lastCut) then cutAtDots p.text
  else if p.kind == .numberDot && dots == 0 then
    [String.ofList (p.text.map fun c => if c == ',' then '.' else c)]
  else [String.ofList p.text]

def piecesOf : Nat → List Char → List String
  | 0, _ => []
  | _ + 1, [] => []
  | fuel + 1, c :: cs =>
    if Text.isLetter c || Text.isDigitChar c then
      let start : OpenPiece :=
        { kind := if Text.isLetter c then .word else .number, seenLetters := false, text := [c] }
      let (p, rest) := OpenPiece.readOn cs.length start cs
      p.finish ++ piecesOf fuel rest
    else if Text.isBlank c then " " :: piecesOf fuel cs
    else c.toString :: piecesOf fuel cs

def dateTokens (s : String) : List String :=
  let cs := s.toList.filter (· != Char.ofNat 0)
  piecesOf (cs.length + 1) cs

/-! ## Words -/

/-- Lists of words that mean the same thing, each list standing for its position. -/
abbrev WordTable := List (List String)

def WordTable.find? (t : WordTable) (w : String) : Option Nat :=
  let w := Text.lower w
  t.findIdx? (·.contains w)

def weekdayWords : WordTable :=
  [["mon", "monday"], ["tue", "tuesday"], ["wed", "wednesday"], ["thu", "thursday"],
   ["fri", "friday"], ["sat", "saturday"], ["sun", "sunday"]]

def monthWords : WordTable :=
  [["jan", "january"], ["feb", "february"], ["mar", "march"], ["apr", "april"], ["may"],
   ["jun", "june"], ["jul", "july"], ["aug", "august"], ["sep", "sept", "september"],
   ["oct", "october"], ["nov", "november"], ["dec", "december"]]

def unitWords : WordTable :=
  [["h", "hour", "hours"], ["m", "minute", "minutes"], ["s", "second", "seconds"]]

def halfDayWords : WordTable := [["am", "a"], ["pm", "p"]]

def skipWords : List String :=
  [" ", ".", ",", ";", "-", "/", "'", "at", "on", "and", "ad", "m", "t", "of", "st", "nd", "rd", "th"]

def isSkipWord (w : String) : Bool := skipWords.contains (Text.lower w)

def utcWords : List String := ["utc", "gmt", "z"]

def isUtcWord (w : String) : Bool := utcWords.contains (Text.lower w)

def monthOfWord? (w : String) : Option Int := (monthWords.find? w).map fun i => (i : Int) + 1

/-- A piece made only of digits (Unicode digits, superscripts included). -/
def isDigitWord (w : String) : Bool := !w.isEmpty && w.toList.all Text.isDigitChar

/-- The year the reader takes as the present one when it places years of two digits. -/
def presentYear : Int := 2026

/-- A year as written, placed: one below `100` without century is within fifty years of
`presentYear`. -/
def placeYear (year : Int) (centurySpecified : Bool) : Int :=
  if year < 100 && !centurySpecified then
    let y := year + presentYear / 100 * 100
    if y ≥ presentYear + 50 then y - 100
    else if y < presentYear - 50 then y + 100
    else y
  else year

/-! ## Numbers -/

/-- A number as a piece writes it: `digits / 10 ^ places`. -/
structure PieceNumber where
  digits : Nat
  places : Nat
  deriving Inhabited

namespace PieceNumber

def scale (n : PieceNumber) : Nat := Nat.pow 10 n.places

def whole (n : PieceNumber) : Int := n.digits / n.scale

def hasFraction (n : PieceNumber) : Bool := n.digits % n.scale != 0

def sixtieths (n : PieceNumber) : Int := 60 * (n.digits % n.scale) / n.scale

def atMost (n : PieceNumber) (k : Nat) : Bool := n.digits ≤ k * n.scale

def below (n : PieceNumber) (k : Nat) : Bool := n.digits < k * n.scale

def atLeast (n : PieceNumber) (k : Nat) : Bool := k * n.scale ≤ n.digits

end PieceNumber

inductive NumberReading
  | none
  /-- Infinity or not-a-number, which the reader refuses. -/
  | unbounded
  | finite (n : PieceNumber)
  deriving Inhabited

/-- How a piece reads as a number: digits of any script with at most one `.`, or the words for
infinity and not-a-number. -/
def readPieceNumber (w : String) : NumberReading :=
  let lowered := Text.lower w
  if lowered == "inf" || lowered == "infinity" || lowered == "nan" then .unbounded
  else
    match (w.splitOn ".").map String.toList with
    | [a] => if !a.isEmpty && a.all Text.isDecimalDigit then
        .finite ⟨Text.digitsValue (a.map Text.decimalValue), 0⟩ else .none
    | [a, b] =>
      if (!a.isEmpty || !b.isEmpty) && (a ++ b).all Text.isDecimalDigit then
        .finite ⟨Text.digitsValue ((a ++ b).map Text.decimalValue), b.length⟩
      else .none
    | _ => .none

/-! ## Year, month and day -/

/-- The preferred order of year, month and day where the numbers allow several. -/
structure DateOrder where
  dayFirst : Bool := false
  yearFirst : Bool := false
  deriving Inhabited

/-- What a number that goes into the year-month-day list is known to be. -/
inductive DateRole
  | unknown
  | year
  | month
  deriving DecidableEq, Inhabited

/-- The numbers that may be year, month and day, as met, with the places of those known to be year,
month or day. -/
structure DateNumbers where
  values : Array Int := #[]
  centurySpecified : Bool := false
  yearAt : Option Nat := none
  monthAt : Option Nat := none
  dayAt : Option Nat := none
  deriving Inhabited

namespace DateNumbers

/-- Adds a number in a role; a second year or month is refused. -/
def push (d : DateNumbers) (v : Int) (role : DateRole) : Except Unit DateNumbers :=
  let at_ := d.values.size
  let d := { d with values := d.values.push v }
  match role with
  | .unknown => pure d
  | .month => if d.monthAt.isSome then throw () else pure { d with monthAt := some at_ }
  | .year => if d.yearAt.isSome then throw () else pure { d with yearAt := some at_ }

/-- A role confirmed as a year: a number written with its century is a year. -/
def yearRole (role : DateRole) : Except Unit DateRole :=
  if role == .month then throw () else pure .year

/-- Adds a piece of text: digits beyond two make it a year with its century. -/
def addText (d : DateNumbers) (w : String) (role : DateRole) : Except Unit DateNumbers := do
  let (d, role) ← if isDigitWord w && w.length > 2 then
      pure ({ d with centurySpecified := true }, ← yearRole role)
    else pure (d, role)
  let some v := Text.readInt? w | throw ()
  d.push v role

/-- Adds a number: one above `100` is a year with its century. -/
def addNumber (d : DateNumbers) (n : PieceNumber) (role : DateRole) : Except Unit DateNumbers := do
  let (d, role) ← if !n.atMost 100 then
      pure ({ d with centurySpecified := true }, ← yearRole role)
    else pure (d, role)
  d.push n.whole role

def addMonth (d : DateNumbers) (m : Int) : Except Unit DateNumbers :=
  d.push m .month

def get (d : DateNumbers) (i : Int) : Int :=
  if i < 0 then d.values.getD (d.values.size - i.natAbs) 0 else d.values.getD i.toNat 0

/-- The days of a month for a day check: a month of a year left open may have 29 days in February.
-/
def daysIn (year : Int) (month : Int) : Nat :=
  monthDays year month.toNat

def couldBeDay (d : DateNumbers) (n : PieceNumber) : Bool :=
  if d.dayAt.isSome then false
  else
    match d.monthAt with
    | none => n.atLeast 1 && n.atMost 31
    | some m =>
      let month := d.get m
      let year := match d.yearAt with
        | some y => d.get y
        | none => 2000
      n.atLeast 1 && n.atMost (daysIn year month)

/-- Year, month and day from the places known, when they settle all the numbers. -/
def fromKnown (d : DateNumbers) : Option Int × Option Int × Option Int :=
  let known := [d.yearAt, d.monthAt, d.dayAt]
  let placed := known.filterMap id
  let fill (k : Option Nat) : Option Nat :=
    if d.values.size == 3 && placed.length == 2 && k.isNone then
      [0, 1, 2].find? fun i => !placed.contains i
    else k
  let pick (k : Option Nat) : Option Int := (fill k).map fun i => d.get i
  (pick d.yearAt, pick d.monthAt, pick d.dayAt)

/-- Tells year, month and day apart, in the preferred `order` where either reads. -/
def resolve (order : DateOrder) (d : DateNumbers) :
    Except Unit (Option Int × Option Int × Option Int) := do
  let dayFirst := order.dayFirst
  let placed := [d.yearAt, d.monthAt, d.dayAt].filterMap id
  let n := d.values.size
  if (n == placed.length && n > 0) || (n == 3 && placed.length == 2) then
    return d.fromKnown
  let v (i : Nat) := d.get i
  if n > 3 then throw ()
  else if n == 1 || (d.monthAt.isSome && n == 2) then
    let (month, other) := match d.monthAt with
      | some m => (some (d.get m), d.get ((m : Int) - 1))
      | none => (none, d.get 0)
    if n > 1 || d.monthAt.isNone then
      if other > 31 then return (some other, month, none)
      else return (none, month, some other)
    else return (none, month, none)
  else if n == 2 then
    if v 0 > 31 then return (some (v 0), some (v 1), none)
    else if v 1 > 31 then return (some (v 1), some (v 0), none)
    else if dayFirst && v 1 ≤ 12 then return (none, some (v 1), some (v 0))
    else return (none, some (v 0), some (v 1))
  else if n == 3 then
    match d.monthAt with
    | some 0 =>
      if v 1 > 31 then return (some (v 1), some (v 0), some (v 2))
      else return (some (v 2), some (v 0), some (v 1))
    | some 1 =>
      if v 0 > 31 || (order.yearFirst && v 2 ≤ 31) then return (some (v 0), some (v 1), some (v 2))
      else return (some (v 2), some (v 1), some (v 0))
    | some _ =>
      if v 1 > 31 then return (some (v 1), some (v 2), some (v 0))
      else return (some (v 0), some (v 2), some (v 1))
    | none =>
      if v 0 > 31 || d.yearAt == some 0 || (order.yearFirst && v 1 ≤ 12 && v 2 ≤ 31) then
        if dayFirst && v 2 ≤ 12 then return (some (v 0), some (v 2), some (v 1))
        else return (some (v 0), some (v 1), some (v 2))
      else if v 0 > 12 || (dayFirst && v 1 ≤ 12) then return (some (v 2), some (v 1), some (v 0))
      else return (some (v 2), some (v 0), some (v 1))
  else return (none, none, none)

end DateNumbers

/-! ## The reader -/

/-- What the reader found, `none` if not: the zone offset in seconds; `ampm` `0` before noon, `1`
after. -/
structure LooseParts where
  year : Option Int := none
  month : Option Int := none
  day : Option Int := none
  weekday : Option Nat := none
  hour : Option Int := none
  minute : Option Int := none
  second : Option Int := none
  micro : Option Int := none
  zoneName : Option String := none
  zoneOffset : Option Int := none
  ampm : Option Nat := none
  deriving Inhabited

structure LooseState where
  parts : LooseParts := {}
  dates : DateNumbers := {}
  deriving Inhabited

def pieceAt (l : Array String) (i : Nat) : Except Unit String :=
  match l[i]? with
  | some w => pure w
  | none => throw ()

def intOf (s : String) : Except Unit Int :=
  match Text.readInt? s with
  | some v => pure v
  | none => throw ()

def numberOf (w : String) : Except Unit PieceNumber :=
  match readPieceNumber w with
  | .finite n => pure n
  | _ => throw ()

def halfDayHour (hour : Int) (ampm : Nat) : Int :=
  if hour < 12 && ampm == 1 then hour + 12
  else if hour == 12 && ampm == 0 then 0
  else hour

/-- Seconds and microseconds of `S[.F]`, the fraction cut or padded to six digits. -/
def secondsAndMicros (w : String) : Except Unit (Int × Int) :=
  match w.splitOn "." with
  | [s] => return (← intOf s, 0)
  | [s, f] =>
    let f := (f.toList ++ List.replicate 6 '0').take 6
    return (← intOf s, ← intOf (String.ofList f))
  | _ => throw ()

/-- Minutes of a number, and seconds from its fraction (none when it has none). -/
def minutesAndSeconds (n : PieceNumber) : Int × Option Int :=
  (n.whole, if n.hasFraction then some n.sixtieths else none)

def couldBeZone (p : LooseParts) (zoneOffset : Option Int) (w : String) : Bool :=
  p.hour.isSome && p.zoneName.isNone && zoneOffset.isNone && w.length ≤ 5 &&
    (w.toList.all (fun c => 'A' ≤ c && c ≤ 'Z') || ["UTC", "GMT", "Z", "z"].contains w)

/-- The place of the `h`, `m` or `s` word that a number at `idx` goes with, if any. -/
def unitPlace (l : Array String) (idx : Nat) : Option Nat :=
  let unit (i : Nat) := (l[i]?.bind unitWords.find?).isSome
  if idx + 1 < l.size && unit (idx + 1) then some (idx + 1)
  else if idx + 2 < l.size && l[idx + 1]? == some " " && unit (idx + 2) then some (idx + 2)
  else if idx > 0 && unit (idx - 1) then some (idx - 1)
  else if 1 < idx && idx == l.size - 1 && l[idx - 1]? == some " " && unit (idx - 2) then some (idx - 2)
  else none

/-- Sets hour, minute or second (`0`, `1`, `2`) from a number written `w`; `3` sets nothing. -/
def setUnit (p : LooseParts) (w : String) (unit : Nat) : Except Unit LooseParts := do
  let n ← numberOf w
  match unit with
  | 0 =>
    let minute := if n.hasFraction then some n.sixtieths else p.minute
    return { p with hour := some n.whole, minute }
  | 1 =>
    let (m, s) := minutesAndSeconds n
    return { p with minute := some m, second := s }
  | 2 =>
    let (s, us) ← secondsAndMicros w
    return { p with second := some s, micro := some us }
  | _ => return p

/-- Reads the number at `idx`: the place of the last piece it took, and the state after. -/
def readNumberPiece (l : Array String) (idx : Nat) (n : PieceNumber) (st : LooseState) :
    Except Unit (Nat × LooseState) := do
  let w ← pieceAt l idx
  let len := w.length
  let p := st.parts
  let d := st.dates
  let next := l[idx + 1]?
  let halfDay (i : Nat) : Option Nat := l[i]?.bind halfDayWords.find?
  if d.values.size == 3 && (len == 2 || len == 4) && p.hour.isNone &&
      (idx + 1 ≥ l.size || (next != some ":" && (next.bind unitWords.find?).isNone)) then
    let hour ← intOf (String.ofList (w.toList.take 2))
    let minute ← if len == 4 then some <$> intOf (String.ofList (w.toList.drop 2)) else pure p.minute
    return (idx, { st with parts := { p with hour := some hour, minute } })
  else if len == 6 || (len > 6 && w.toList.findIdx? (· == '.') == some 6) then
    let cs := w.toList
    let part (a b : Nat) : String := String.ofList ((cs.drop a).take (b - a))
    if d.values.isEmpty && !w.contains '.' then
      let d ← d.addText (part 0 2) .unknown
      let d ← d.addText (part 2 4) .unknown
      let d ← d.addText (String.ofList (cs.drop 4)) .unknown
      return (idx, { st with dates := d })
    else
      let hour ← intOf (part 0 2)
      let minute ← intOf (part 2 4)
      let (second, micro) ← secondsAndMicros (String.ofList (cs.drop 4))
      let p := { p with hour := some hour, minute := some minute, second := some second }
      return (idx, { st with parts := { p with micro := some micro } })
  else if len == 8 || len == 12 || len == 14 then
    let cs := w.toList
    let part (a b : Nat) : String := String.ofList ((cs.drop a).take (b - a))
    let d ← d.addText (part 0 4) .year
    let d ← d.addText (part 4 6) .unknown
    let d ← d.addText (part 6 8) .unknown
    let p ← if len > 8 then do
        let hour ← intOf (part 8 10)
        let minute ← intOf (part 10 12)
        let second ← if len > 12 then some <$> intOf (String.ofList (cs.drop 12)) else pure p.second
        pure { p with hour := some hour, minute := some minute, second }
      else pure p
    return (idx, { parts := p, dates := d })
  else if let some u := unitPlace l idx then
    let unitOf (i : Nat) : Nat := ((l[i]?.bind unitWords.find?).getD 0)
    let (idx', unit) := if u > idx then (u, unitOf u) else (idx, unitOf u + 1)
    let p ← setUnit p w unit
    return (idx', { st with parts := p })
  else if idx + 2 < l.size && next == some ":" then
    let m ← numberOf (← pieceAt l (idx + 2))
    let (minute, second) := minutesAndSeconds m
    let p := { p with hour := some n.whole, minute := some minute, second }
    if idx + 4 < l.size && l[idx + 3]? == some ":" then
      let (s, us) ← secondsAndMicros (← pieceAt l (idx + 4))
      return (idx + 4, { st with parts := { p with second := some s, micro := some us } })
    else return (idx + 2, { st with parts := p })
  else if idx + 1 < l.size && (next == some "-" || next == some "/" || next == some ".") then
    let sep := next.getD ""
    let d ← d.addText w .unknown
    if idx + 2 < l.size && !isSkipWord (← pieceAt l (idx + 2)) then
      let second ← pieceAt l (idx + 2)
      let d ← if isDigitWord second then d.addText second .unknown
        else match monthOfWord? second with
          | some m => d.addMonth m
          | none => throw ()
      if idx + 3 < l.size && l[idx + 3]? == some sep then
        let third ← pieceAt l (idx + 4)
        let d ← match monthOfWord? third with
          | some m => d.addMonth m
          | none => d.addText third .unknown
        return (idx + 4, { st with dates := d })
      else return (idx + 2, { st with dates := d })
    else return (idx + 1, { st with dates := d })
  else if idx + 1 ≥ l.size || isSkipWord (next.getD "") then
    match halfDay (idx + 2) with
    | some ap =>
      if idx + 2 < l.size then
        return (idx + 2, { st with parts := { p with hour := some (halfDayHour n.whole ap) } })
      else return (idx + 1, { st with dates := ← d.addNumber n .unknown })
    | none => return (idx + 1, { st with dates := ← d.addNumber n .unknown })
  else if (halfDay (idx + 1)).isSome && n.below 24 then
    let ap := (halfDay (idx + 1)).getD 0
    return (idx + 1, { st with parts := { p with hour := some (halfDayHour n.whole ap) } })
  else if d.couldBeDay n then
    return (idx, { st with dates := ← d.addNumber n .unknown })
  else throw ()

/-- Reads the offset after a sign at `i` (`-1` or `1`): the place of the last piece taken and the
parts. -/
def readOffset (l : Array String) (i : Nat) (sign : Int) (p : LooseParts) :
    Except Unit (Nat × LooseParts) := do
  let w ← pieceAt l (i + 1)
  let len := w.length
  let (hours, minutes, i) ←
    if len == 4 then
      pure (← intOf (String.ofList (w.toList.take 2)), ← intOf (String.ofList (w.toList.drop 2)), i)
    else if i + 2 < l.size && l[i + 2]? == some ":" then
      pure (← intOf w, ← intOf (← pieceAt l (i + 3)), i + 2)
    else if len ≤ 2 then pure (← intOf (String.ofList (w.toList.take 2)), 0, i)
    else throw ()
  let p := { p with zoneOffset := some (sign * (hours * 3600 + minutes * 60)) }
  let named := i + 5 < l.size && isSkipWord (l[i + 2]?.getD "") && l[i + 3]? == some "(" &&
    l[i + 5]? == some ")" && 3 ≤ (l[i + 4]?.getD "").length &&
    couldBeZone p none (l[i + 4]?.getD "")
  if named then return (i + 5, { p with zoneName := l[i + 4]? })
  else return (i + 1, p)

def readPieces : Nat → Array String → Nat → LooseState → Except Unit LooseState
  | 0, _, _, st => pure st
  | fuel + 1, l, i, st => do
    let some w := l[i]? | pure st
    let p := st.parts
    match readPieceNumber w with
    | .unbounded => throw ()
    | .finite n =>
      let (j, st) ← readNumberPiece l i n st
      readPieces fuel l (j + 1) st
    | .none =>
      if let some wd := weekdayWords.find? w then
        readPieces fuel l (i + 1) { st with parts := { p with weekday := some wd } }
      else if let some m := monthOfWord? w then
        let d ← st.dates.addMonth m
        let next := l[i + 1]?
        if i + 1 < l.size then
          if next == some "-" || next == some "/" then
            let d ← d.addText (← pieceAt l (i + 2)) .unknown
            if i + 3 < l.size && l[i + 3]? == next then
              let d ← d.addText (← pieceAt l (i + 4)) .unknown
              readPieces fuel l (i + 5) { st with dates := d }
            else readPieces fuel l (i + 3) { st with dates := d }
          else if i + 4 < l.size && next == some " " && l[i + 3]? == some " " &&
              Text.lower (l[i + 2]?.getD "") == "of" then
            let yearText := l[i + 4]?.getD ""
            let d ← if isDigitWord yearText then do
                let y ← intOf yearText
                d.addText (toString (placeYear y false)) .year
              else pure d
            readPieces fuel l (i + 5) { st with dates := d }
          else readPieces fuel l (i + 1) { st with dates := d }
        else readPieces fuel l (i + 1) { st with dates := d }
      else if let some ap := halfDayWords.find? w then
        match p.hour with
        | none => throw ()
        | some h =>
          if h < 0 || h > 12 then throw ()
          readPieces fuel l (i + 1)
            { st with parts := { p with hour := some (halfDayHour h ap), ampm := some ap } }
      else if couldBeZone p p.zoneOffset w then
        let offset : Option Int := if ["utc", "gmt", "z"].contains w then some 0 else none
        let p := { p with zoneName := some w, zoneOffset := offset }
        match l[i + 1]? with
        | some s =>
          if s == "+" || s == "-" then
            let l := l.set! (i + 1) (if s == "+" then "-" else "+")
            let name := if isUtcWord w then none else some w
            let p := { p with zoneOffset := none, zoneName := name }
            readPieces fuel l (i + 1) { st with parts := p }
          else readPieces fuel l (i + 1) { st with parts := p }
        | none => readPieces fuel l (i + 1) { st with parts := p }
      else if p.hour.isSome && (w == "+" || w == "-") then
        let (j, p) ← readOffset l i (if w == "+" then 1 else -1) p
        readPieces fuel l (j + 1) { st with parts := p }
      else if isSkipWord w then readPieces fuel l (i + 1) st
      else throw ()

def loosePartsWith (order : DateOrder) (s : String) : Option LooseParts :=
  let l := (dateTokens s).toArray
  match readPieces (l.size + 1) l 0 {} with
  | .error () => none
  | .ok st =>
    match st.dates.resolve order with
    | .error () => none
    | .ok (year, month, day) =>
      let p := st.parts
      let year := year.map fun y => placeYear y st.dates.centurySpecified
      let p := { p with year, month, day }
      let p :=
        if (p.zoneOffset == some 0 && p.zoneName.isNone) || p.zoneName == some "Z" ||
            p.zoneName == some "z" then
          { p with zoneName := some "UTC", zoneOffset := some 0 }
        else if p.zoneOffset != some 0 && (p.zoneName.map isUtcWord).getD false then
          { p with zoneOffset := some 0 }
        else p
      some p

def looseParts (s : String) : Option LooseParts :=
  loosePartsWith {} s

end PipeQuery.Time
