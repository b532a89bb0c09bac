import PipeQuery.Text.Encoding
import PipeQuery.Calc.Library
import PipeQuery.Calc.Template
import PipeQuery.Text.Case
import PipeQuery.Text.Classes
import PipeQuery.Text.Wrap
import PipeQuery.Text.Normal

/-!
# Calculations: methods of texts

The methods a text (and a byte string) offers in formulas: case, character classes, cutting,
searching and building. Positions count characters, a negative one from the end. A character is
upper case when it has a lower-case form of its own, and lower case when it has an upper-case
form. `format` fills a template field by field: an argument by number, by position or by name,
then its items and attributes, converted and written by the field's specification.
-/

namespace PipeQuery.Calc

namespace Strings

def wrongCount (name : String) (lo hi n : Nat) : Fault :=
  let noun (k : Nat) : String := if k == 1 then "argument" else "arguments"
  if hi == 0 then Fault.raised .typeError s!"str.{name}() takes no arguments ({n} given)"
  else if lo == 1 && hi == 1 then
    Fault.raised .typeError s!"str.{name}() takes exactly one argument ({n} given)"
  else if n < lo then Fault.raised .typeError s!"{name} expected at least {lo} {noun lo}, got {n}"
  else Fault.raised .typeError s!"{name} expected at most {hi} {noun hi}, got {n}"

def noKeywords (name : String) (kwargs : List (String × Datum)) : Outcome Unit :=
  if kwargs.isEmpty then pure ()
  else throw (Fault.raised .typeError s!"str.{name}() takes no keyword arguments")

def counts (name : String) (args : List Datum) (lo hi : Nat) : Outcome Unit :=
  if args.length < lo || args.length > hi then throw (wrongCount name lo hi args.length)
  else pure ()

def textArg (d : Datum) : Outcome String :=
  match d with
  | .scalar (.str s) => pure s
  | d => throw (Fault.raised .typeError s!"must be str, not {d.kindName}")

def optionalText (d : Option Datum) : Outcome (Option String) :=
  match d with
  | none | some (.scalar .none) => pure none
  | some (.scalar (.str s)) => pure (some s)
  | some d => throw (Fault.raised .typeError s!"must be str or None, not {d.kindName}")

def intArg (d : Datum) : Outcome Int :=
  match d with
  | .scalar (.int n) | .element (.int n) _ => pure n
  | .scalar (.bool b) | .element (.bool b) _ => pure (if b then 1 else 0)
  | d => throw (Fault.raised .typeError
      s!"'{d.kindName}' object cannot be interpreted as an integer")

def optionalInt (d : Option Datum) : Outcome (Option Int) :=
  match d with
  | none | some (.scalar .none) => pure none
  | some d => return some (← intArg d)

/-- Each word's first cased character in title case, the rest lower; a word is a run of cased
characters. -/
def titled (s : String) : String :=
  go s.toList [] ""
where
  go : List Char → List Char → String → String
    | [], _, out => out
    | c :: r, before, out =>
      let inWord := match before with
        | b :: _ => Text.isCased b
        | [] => false
      let piece := if inWord then Text.lowerCharAt before c r else Text.titleChar c
      go r (c :: before) (out ++ piece)

/-- The first character in title case and the rest in lower case. -/
def capitalized (s : String) : String :=
  match s.toList with
  | [] => ""
  | c :: rest => Text.titleChar c ++ Text.lowerAfter [c] rest

/-- Upper-case characters made lower case and lower-case ones upper case; title-case ones stay. -/
def swapped (s : String) : String :=
  go s.toList [] ""
where
  go : List Char → List Char → String → String
    | [], _, out => out
    | c :: r, before, out =>
      let piece :=
        if Text.isUpperCase c then Text.lowerCharAt before c r
        else if Text.isLowerCase c then Text.upperChar c
        else c.toString
      go r (c :: before) (out ++ piece)

/-- Whether a text has a cased character and all of them are upper case. -/
def allUpper (s : String) : Bool :=
  s.toList.any Text.isUpperCase && !s.toList.any (fun c => Text.isLowerCase c || Text.isTitleCase c)

/-- Whether a text has a cased character and all of them are lower case. -/
def allLower (s : String) : Bool :=
  s.toList.any Text.isLowerCase && !s.toList.any (fun c => Text.isUpperCase c || Text.isTitleCase c)

/-- Whether each word starts with its only upper- or title-case character, and there is a word. -/
def isTitled (s : String) : Bool :=
  let step (acc : Bool × Bool × Bool) (c : Char) : Bool × Bool × Bool :=
    let (ok, prevCased, seen) := acc
    if Text.isUpperCase c || Text.isTitleCase c then (ok && !prevCased, true, true)
    else if Text.isLowerCase c then (ok && prevCased, true, true)
    else (ok, false, seen)
  let (ok, _, seen) := s.toList.foldl step (true, false, false)
  ok && seen

def allOf (p : Char → Bool) (s : String) : Bool :=
  !s.isEmpty && s.toList.all p

/-- The words of `cs` between blank runs, at most `limit` cuts; the rest after the last cut keeps
its blanks but leading ones. -/
def blankPieces : Nat → List Char → Option Nat → List String → List String
  | 0, _, _, acc => acc.reverse
  | fuel + 1, cs, limit, acc =>
    let cs := cs.dropWhile Text.isBlank
    if cs.isEmpty then acc.reverse
    else
      match limit with
      | some 0 => (String.ofList cs :: acc).reverse
      | _ =>
        let word := cs.takeWhile (!Text.isBlank ·)
        let rest := cs.dropWhile (!Text.isBlank ·)
        blankPieces fuel rest (limit.map (· - 1)) (String.ofList word :: acc)

/-- `s.split(sep, maxsplit)`. -/
def splitLeft (s : String) (sep : Option String) (limit : Option Nat) : List String :=
  match sep with
  | none => blankPieces (s.length + 1) s.toList limit []
  | some sep =>
    let parts := Text.splitText s sep
    match limit with
    | some k => if parts.length > k + 1 then parts.take k ++ [sep.intercalate (parts.drop k)] else parts
    | none => parts

def reversed (s : String) : String :=
  String.ofList s.toList.reverse

/-- `s.rsplit(sep, maxsplit)`: as `split`, but cutting from the right. -/
def splitRight (s : String) (sep : Option String) (limit : Option Nat) : List String :=
  ((splitLeft (reversed s) (sep.map reversed) limit).map reversed).reverse

/-- The lines of a text, cut after each line break of the language (`\n`, `\r`, `\r\n`, …), kept
when `keep`. -/
def lines (s : String) (keep : Bool) : List String :=
  let isBreak (c : Char) : Bool :=
    c == '\n' || c == '\r' || c == '\x0b' || c == '\x0c' || c == '\x1c' || c == '\x1d' ||
      c == '\x1e' || c.toNat == 0x85 || c.toNat == 0x2028 || c.toNat == 0x2029
  let rec go : Nat → List Char → List Char → List String → List String
    | 0, cur, _, acc => (if cur.isEmpty then acc else String.ofList cur.reverse :: acc).reverse
    | _ + 1, cur, [], acc => (if cur.isEmpty then acc else String.ofList cur.reverse :: acc).reverse
    | fuel + 1, cur, c :: rest, acc =>
      if isBreak c then
        let (brk, rest) := if c == '\r' && rest.head? == some '\n' then ([c, '\n'], rest.drop 1) else ([c], rest)
        let line := String.ofList cur.reverse ++ (if keep then String.ofList brk else "")
        go fuel [] rest (line :: acc)
      else go fuel (c :: cur) rest acc
  go (s.length + 1) [] s.toList []

/-- The bounds searching methods read from `start` and `stop`; a start past the end finds nothing.
-/
def span (n : Nat) (start stop : Option Int) : Int × Int :=
  let fromEnd (i : Int) : Int := if i < 0 then max 0 (i + n) else i
  (fromEnd (start.getD 0), min (fromEnd (stop.getD n)) n)

def spanOf (cs : List Char) (a b : Int) : List Char :=
  (cs.drop a.toNat).take (b - a).toNat

def occurrences (cs needle : List Char) : List Nat :=
  let rec go : Nat → Nat → List Char → List Nat
    | 0, _, _ => []
    | fuel + 1, i, rest =>
      if needle.isEmpty then
        i :: (match rest with
          | [] => []
          | _ :: tail => go fuel (i + 1) tail)
      else if rest.length < needle.length then []
      else if Text.startsWithList rest needle then i :: go fuel (i + needle.length) (rest.drop needle.length)
      else go fuel (i + 1) rest.tail
  go (cs.length + 2) 0 cs

def starts (cs needle : List Char) : List Nat :=
  (List.range (cs.length + 1)).filter fun i => Text.startsWithList (cs.drop i) needle

/-- `s.replace(old, new, count)`. -/
def replaceText (s old new : String) (count : Option Nat) : String :=
  if old.isEmpty then
    let cs := s.toList
    let k := count.getD (cs.length + 1)
    let body := String.join (cs.mapIdx fun i c => (if i < k then new else "") ++ c.toString)
    body ++ (if cs.length < k then new else "")
  else
    let parts := Text.splitText s old
    match count with
    | some k => if parts.length > k + 1 then new.intercalate (parts.take k ++ [old.intercalate (parts.drop k)])
      else new.intercalate parts
    | none => new.intercalate parts

/-- `s.zfill(width)`: zeros after the sign up to the width. -/
def zeroFilled (s : String) (width : Int) : String :=
  let n := s.length
  if width.toNat ≤ n then s
  else
    let zeros := String.ofList (List.replicate (width.toNat - n) '0')
    match s.toList with
    | c :: rest => if c == '+' || c == '-' then c.toString ++ zeros ++ String.ofList rest else zeros ++ s
    | [] => zeros

/-- `s.center(width, fill)`: the odd fill goes right unless the width is odd and the length even. -/
def centered (s : String) (width : Int) (fill : Char) : String :=
  let n := s.length
  if width.toNat ≤ n then s
  else
    let marg := width.toNat - n
    let left := marg / 2 + (if marg % 2 == 1 && width.toNat % 2 == 1 then 1 else 0)
    String.ofList (List.replicate left fill) ++ s ++ String.ofList (List.replicate (marg - left) fill)

def convert (labels : Array Value) (conv : Option Char) (d : Datum) : Outcome Shown := do
  match d with
  | .scalar (.other cls _) =>
    -- an element type's descriptor is written by a helper the formula cannot import
    if cls.endsWith "DType" then throw (Fault.raised .keyError "'__import__'")
  | .array _ .values =>
    if conv == some 'r' || conv == some 'a' then
      throw (Fault.raised .runtimeError "Unable to configure default ndarray.__repr__")
  | d =>
    if d.holdsArray 8 then
      throw (Fault.raised .runtimeError "Unable to configure default ndarray.__repr__")
  let (text, repr) := d.texts labels 32
  let asText (s : String) : Shown := Shown.ofValue (.str s)
  match conv with
  | none => pure (d.shown labels)
  | some 's' => pure (asText text)
  | some 'r' => pure (asText repr)
  | some 'a' => pure (asText (Text.asciiEscaped repr))
  | some c =>
    if 32 < c.toNat && c.toNat < 127 then
      throw (Fault.raised .valueError s!"Unknown conversion specifier {c}")
    else
      let code := String.ofList ((Text.hexPadded 1 c.toNat).toList.map Char.toLower)
      throw (Fault.raised .valueError s!"Unknown conversion specifier \\x{code}")

/-- How a template's fields have been numbered so far: not yet, automatically up to a count, or by
hand. -/
inductive Numbering
  | unset
  | auto (next : Nat)
  | manual
  deriving Inhabited

/-- The number a field name's part spells in decimal digits of any script. -/
def fieldIndex (cs : List Char) : Outcome (Option Nat) :=
  if cs.isEmpty then pure none
  else
    let step (acc : Option Nat) (c : Char) : Outcome (Option Nat) :=
      match acc with
      | none => pure none
      | some n =>
        if !Text.isDecimalDigit c then pure none
        else if n > (9223372036854775807 - Text.decimalValue c) / 10 then
          throw (Fault.raised .valueError "Too many decimal digits in format string")
        else pure (some (10 * n + Text.decimalValue c))
    cs.foldlM step (some 0)

/-- The item a template field names with `[key]`. -/
def fieldItem (d : Datum) (key : String) (index : Option Nat) : Outcome Datum := do
  let k : Value := match index with
    | some i => .int i
    | none => .str key
  match d, k with
  | .seq isList items, .int i =>
    match itemAt items i with
    | some x => pure x
    | none => throw (Fault.raised .indexError
        (if isList then "list index out of range" else "tuple index out of range"))
  | .seq isList _, _ =>
    let kind := if isList then "list" else "tuple"
    throw (Fault.raised .typeError s!"{kind} indices must be integers or slices, not str")
  | .mapping es, _ =>
    match es.find? (fun (key', _) => Datum.sameKey 16 key' (.scalar k)) with
    | some (_, v) => pure v
    | none => throw (Fault.raised .keyError k.repr)
  | .scalar (.str s), .int i =>
    match itemAt s.toList i with
    | some c => pure (.scalar (.str c.toString))
    | none => throw (Fault.raised .indexError "string index out of range")
  | .scalar (.str _), _ => throw (Fault.raised .typeError "string indices must be integers, not 'str'")
  | .bytes b, .int i =>
    match itemAt b.toList i with
    | some c => pure (.scalar (.int c.toNat))
    | none => throw (Fault.raised .indexError "index out of range")
  | .bytes _, _ => throw (Fault.raised .typeError "byte indices must be integers or slices, not str")
  | _, _ => throw (Fault.raised .typeError s!"'{d.kindName}' object is not subscriptable")

/-- Follows the `.attribute` and `[item]` parts of a field name after its first, each read just
before its lookup. -/
def fieldPath (attr : Datum → String → Outcome Datum) : Nat → Datum → List Char → Outcome Datum
  | 0, d, _ => pure d
  | _ + 1, d, [] => pure d
  | fuel + 1, d, c :: rest => do
    let empty : Fault := Fault.raised .valueError "Empty attribute in format string"
    if c == '.' then
      let a := rest.takeWhile fun c => c != '.' && c != '['
      if a.isEmpty then throw empty
      fieldPath attr fuel (← attr d (String.ofList a)) (rest.drop a.length)
    else if c == '[' then
      let k := rest.takeWhile (· != ']')
      if (rest.drop k.length).isEmpty then
        throw (Fault.raised .valueError "Missing ']' in format string")
      let index ← fieldIndex k
      if k.isEmpty then throw empty
      fieldPath attr fuel (← fieldItem d (String.ofList k) index) (rest.drop (k.length + 1))
    else throw (Fault.raised .valueError "Only '.' or '[' may follow ']' in format field specifier")

/-- The value a template field names, and the numbering after it. -/
def fieldObject (attr : Datum → String → Outcome Datum) (args : Option (List Datum))
    (named : String → Outcome Datum) (name : List Char) (n : Numbering) :
    Outcome (Datum × Numbering) := do
  let first := name.takeWhile fun c => c != '.' && c != '['
  let index ← fieldIndex first
  let empty := first.isEmpty
  let n := match n with
    | .unset => if empty then Numbering.auto 0 else if index.isSome then .manual else .unset
    | n => n
  let (index, n) ← match n, empty, index with
    | .manual, true, _ => throw (Fault.raised .valueError
        "cannot switch from manual field specification to automatic field numbering")
    | .auto _, false, some _ => throw (Fault.raised .valueError
        "cannot switch from automatic field numbering to manual field specification")
    | .auto k, true, _ => pure (some k, Numbering.auto (k + 1))
    | n, _, index => pure (index, n)
  let d ← match index with
    | none => named (String.ofList first)
    | some i =>
      match args with
      | none => throw (Fault.raised .valueError "Format string contains positional fields")
      | some xs =>
        match xs[i]? with
        | some d => pure d
        | none => throw (Fault.raised .indexError
            s!"Replacement index {i} out of range for positional args tuple")
  let rest := name.drop first.length
  return (← fieldPath attr (rest.length + 1) d rest, n)

/-- Fills a template field by field, threading the numbering; `depth` bounds specifications holding
fields of their own. -/
def fillTemplate (labels : Array Value) (attr : Datum → String → Outcome Datum)
    (args : Option (List Datum)) (named : String → Outcome Datum) :
    Nat → Nat → List Char → Numbering → Outcome (String × Numbering)
  | 0, _, _, n => pure ("", n)
  | fuel + 1, depth, cs, n => do
    match templateStep cs with
    | .error e => throw (Fault.raised .valueError e)
    | .ok none => pure ("", n)
    | .ok (some (lit, none, rest)) =>
      let (more, n) ← fillTemplate labels attr args named fuel depth rest n
      pure (lit ++ more, n)
    | .ok (some (lit, some f, rest)) =>
      let (d, n) ← fieldObject attr args named f.name n
      let shown ← convert labels f.conv d
      let (specText, n) ← if f.nested then
          if depth ≤ 1 then throw (Fault.raised .valueError "Max string recursion exceeded")
          else fillTemplate labels attr args named fuel (depth - 1) f.spec n
        else pure (String.ofList f.spec, n)
      let text ← match shown.formatBy specText with
        | .ok t => pure t
        | .error (kind, msg) => throw (Fault.raised kind msg)
      let (more, n) ← fillTemplate labels attr args named fuel depth rest n
      pure (lit ++ text ++ more, n)

def formatWith (labels : Array Value) (attr : Datum → String → Outcome Datum) (template : String)
    (args : List Datum) (kwargs : List (String × Datum)) : Outcome String := do
  let named (k : String) : Outcome Datum :=
    match kwargs.find? (·.1 == k) with
    | some (_, d) => pure d
    | none => throw (Fault.raised .keyError (Text.quote k))
  return (← fillTemplate labels attr (some args) named (4 * template.length + 8) 2 template.toList .unset).1

/-- `template.format_map(mapping)`: the fields name keys of the mapping; a positional field fails.
-/
def formatFromMapping (labels : Array Value) (attr : Datum → String → Outcome Datum)
    (template : String) (mapping : Datum) : Outcome String := do
  let named (k : String) : Outcome Datum :=
    match mapping with
    | .mapping es =>
      match es.find? (fun (key, _) => Datum.sameKey 16 key (.scalar (.str k))) with
      | some (_, v) => pure v
      | none => throw (Fault.raised .keyError (Text.quote k))
    | d => throw (Fault.raised .typeError s!"'{d.kindName}' object is not subscriptable")
  return (← fillTemplate labels attr none named (4 * template.length + 8) 2 template.toList .unset).1

/-- Whether `s` starts (ends, when `atEnd`) with the text, or one of the texts, `pat` within
`start … stop`. -/
def affix (atEnd : Bool) (name : String) (s : String) (pat : Datum) (start stop : Option Int) :
    Outcome Bool := do
  let cs := s.toList
  let (a, b) := span cs.length start stop
  let test (p : String) : Bool :=
    if b - p.length < a then false
    else if atEnd then spanOf cs (b - p.length) b == p.toList
    else spanOf cs a (a + p.length) == p.toList
  match pat with
  | .scalar (.str p) => pure (test p)
  | .seq false items => items.anyM fun d => match d with
    | .scalar (.str p) => pure (test p)
    | d => throw (Fault.raised .typeError s!"tuple for {name} must only contain str, not {d.kindName}")
  | d => throw (Fault.raised .typeError
      s!"{name} first arg must be str or a tuple of str, not {d.kindName}")

def joined (sep : String) (items : List Datum) : Outcome String := do
  let texts ← (items.zip (List.range items.length)).mapM fun (d, i) => match d with
    | .scalar (.str s) => pure s
    | d => throw (Fault.raised .typeError s!"sequence item {i}: expected str instance, {d.kindName} found")
  pure (sep.intercalate texts)

def fillChar (d : Option Datum) : Outcome Char :=
  match d with
  | none => pure ' '
  | some (.scalar (.str s)) =>
    match s.toList with
    | [c] => pure c
    | _ => throw (Fault.raised .typeError "The fill character must be exactly one character long")
  | some d => throw (Fault.raised .typeError
      s!"The fill character must be a unicode character, not {d.kindName}")

def stripSet (d : Option Datum) (name : String) : Outcome (Char → Bool) :=
  match d with
  | none | some (.scalar .none) => pure Text.isBlank
  | some (.scalar (.str cs)) => pure fun c => cs.toList.contains c
  | some _ => throw (Fault.raised .typeError s!"{name} arg must be None or str")

def position (s sub : String) (start stop : Option Int) (fromRight : Bool) : Option Nat :=
  let (a, b) := span s.length start stop
  let cs := spanOf s.toList a b
  let hits := starts cs sub.toList |>.filter fun i => i + sub.length ≤ cs.length
  let hit := if fromRight then hits.getLast? else hits.head?
  if b - a < sub.length then none else hit.map (· + a.toNat)

/-- The encoding and error handler given to `encode` or `decode`; an unknown handler is kept by
name. -/
def codecArgs (method : String) (args : List Datum) (kwargs : List (String × Datum)) :
    Outcome (Text.Encoding × Except String Text.ErrorHandler) := do
  let pick (k : String) (i : Nat) : Option Datum :=
    match args[i]? with
    | some d => some d
    | none => (kwargs.find? (·.1 == k)).map (·.2)
  if args.length > 2 then
    throw (Fault.raised .typeError s!"{method}() takes at most 2 arguments ({args.length} given)")
  let enc ← match pick "encoding" 0 with
    | none => pure Text.Encoding.utf8
    | some (.scalar (.str n)) =>
      match Text.Encoding.ofName? n with
      | some e => pure e
      | none => throw (Fault.raised .lookupError s!"unknown encoding: {n}")
    | some d => throw (Fault.raised .typeError
        s!"{method}() argument 'encoding' must be str, not {d.kindName}")
  let handler ← match pick "errors" 1 with
    | none => pure (.ok Text.ErrorHandler.strict)
    | some (.scalar (.str n)) => pure ((Text.ErrorHandler.ofName? n).elim (.error n) .ok)
    | some d => throw (Fault.raised .typeError
        s!"{method}() argument 'errors' must be str, not {d.kindName}")
  pure (enc, handler)

def unknownHandler (name : String) : Fault :=
  Fault.raised .lookupError s!"unknown error handler name '{name}'"

def encodeWith (s : String) (args : List Datum) (kwargs : List (String × Datum)) :
    Outcome Datum := do
  let (enc, handler) ← codecArgs "encode" args kwargs
  match Text.encodeText enc (handler.toOption.getD .strict) s with
  | .ok bs => pure (.bytes (String.ofList (bs.map Char.ofNat)))
  | .error f =>
    match handler with
    | .error n => throw (unknownHandler n)
    | .ok _ => throw (Fault.raised .unicodeEncodeError (f.encodeMessage enc.name s))

def decodeWith (b : String) (args : List Datum) (kwargs : List (String × Datum)) :
    Outcome Datum := do
  let (enc, handler) ← codecArgs "decode" args kwargs
  let bs := b.toList.map Char.toNat
  match Text.decodeBytes enc (handler.toOption.getD .strict) bs with
  | .ok t => pure (.scalar (.str t))
  | .error f =>
    match handler with
    | .error n => throw (unknownHandler n)
    | .ok _ => throw (Fault.raised .unicodeDecodeError (f.decodeMessage enc.name bs))

/-- What `translate` puts for `c`: the table's entry at its code, `c` if none, nothing for `None`.
-/
def translatedChar (table : Datum) (c : Char) : Outcome String := do
  let found : Option Datum ← match table with
    | .mapping entries =>
      pure ((entries.find? fun (k, _) => Datum.sameKey 16 k (.scalar (.int c.toNat))).map (·.2))
    | .seq _ items => pure items[c.toNat]?
    | .scalar (.str t) => pure ((t.toList[c.toNat]?).map fun ch => .scalar (.str ch.toString))
    | d => throw (Fault.raised .typeError s!"'{d.kindName}' object is not subscriptable")
  match found with
  | none => pure c.toString
  | some (.scalar .none) => pure ""
  | some (.scalar (.str t)) => pure t
  | some (.scalar (.int i)) =>
    if 0 ≤ i && i < 0x110000 then pure (Char.ofNat i.toNat).toString
    else throw (Fault.raised .valueError "character mapping must be in range(0x110000)")
  | some (.scalar (.bool b)) => pure (Char.ofNat (if b then 1 else 0)).toString
  | some _ => throw (Fault.raised .typeError "character mapping must return integer, None or str")

/-- The table `maketrans` makes. -/
def translationTable (args : List Datum) : Outcome Datum := do
  let textAt (i : Nat) : Outcome (Option String) := match args[i]? with
    | none => pure none
    | some (.scalar (.str t)) => pure (some t)
    | some d => throw (Fault.raised .typeError s!"maketrans() argument {i + 1} must be str, not {d.kindName}")
  let second ← textAt 1
  let third ← textAt 2
  let code (c : Char) : Datum := .scalar (.int c.toNat)
  match args.head?, second with
  | some x, some y => do
    let xs ← match x with
      | .scalar (.str t) => pure t.toList
      | _ => throw (Fault.raised .typeError
          "first maketrans argument must be a string if there is a second argument")
    if xs.length != y.length then
      throw (Fault.raised .valueError "the first two maketrans arguments must have equal length")
    let pairs := (xs.zip y.toList).foldl (fun acc (a, b) => Datum.addEntry acc (code a) (code b)) []
    pure (.mapping ((third.getD "").toList.foldl (fun acc c => Datum.addEntry acc (code c) (.scalar .none)) pairs))
  | some (.mapping entries), none =>
    .mapping <$> entries.foldlM (fun acc (k, v) => match k with
      | .scalar (.str t) => match t.toList with
        | [c] => pure (Datum.addEntry acc (code c) v)
        | _ => throw (Fault.raised .valueError "string keys in translate table must be of length 1")
      | .scalar (.int _) | .scalar (.bool _) => pure (Datum.addEntry acc k v)
      | _ => throw (Fault.raised .typeError "keys in translate table must be strings or integers")) []
  | _, _ => throw (Fault.raised .typeError "if you give only one argument to maketrans it must be a dict")

def call (labels : Array Value) (attr : Datum → String → Outcome Datum) (s : String)
    (name : String) (args : List Datum) (kwargs : List (String × Datum)) : Outcome Datum := do
  let arg (i : Nat) : Option Datum := args[i]?
  let text (v : String) : Outcome Datum := pure (.scalar (.str v))
  let truth (b : Bool) : Outcome Datum := pure (.scalar (.bool b))
  let plain (lo hi : Nat) : Outcome Unit := do
    noKeywords name kwargs
    counts name args lo hi
  let named (k : String) (i : Nat) : Option Datum :=
    match arg i with
    | some d => some d
    | none => (kwargs.find? (·.1 == k)).map (·.2)
  let splitArgs : Outcome (Option String × Option Nat) := do
    if args.length > 2 then throw (wrongCount name 0 2 args.length)
    let sep ← optionalText (named "sep" 0)
    let limit ← match named "maxsplit" 1 with
      | none => pure none
      | some d => do
        let k ← intArg d
        pure (if k < 0 then none else some k.toNat)
    if sep == some "" then throw (Fault.raised .valueError "empty separator")
    pure (sep, limit)
  let bounds : Outcome (String × Option Int × Option Int) := do
    plain 1 3
    let sub ← textArg (arg 0).get!
    pure (sub, ← optionalInt (arg 1), ← optionalInt (arg 2))
  match name with
  | "upper" => plain 0 0; text (Text.upper s)
  | "lower" => plain 0 0; text (Text.lower s)
  | "casefold" => plain 0 0; text (Text.casefold s)
  | "title" => plain 0 0; text (titled s)
  | "capitalize" => plain 0 0; text (capitalized s)
  | "swapcase" => plain 0 0; text (swapped s)
  | "isupper" => plain 0 0; truth (allUpper s)
  | "islower" => plain 0 0; truth (allLower s)
  | "istitle" => plain 0 0; truth (isTitled s)
  | "isdigit" => plain 0 0; truth (allOf Text.isDigitChar s)
  | "isdecimal" => plain 0 0; truth (allOf Text.isDecimalDigit s)
  | "isnumeric" => plain 0 0; truth (allOf Text.isNumeral s)
  | "isalpha" => plain 0 0; truth (allOf Text.isLetter s)
  | "isalnum" => plain 0 0; truth (allOf Text.isAlnum s)
  | "isspace" => plain 0 0; truth (allOf Text.isBlank s)
  | "isascii" => plain 0 0; truth (s.toList.all (·.toNat < 128))
  | "isprintable" => plain 0 0; truth (s.toList.all Text.isPrintable)
  | "strip" | "lstrip" | "rstrip" => do
    plain 0 1
    let drop ← stripSet (arg 0) name
    let cs := s.toList
    let cs := if name != "rstrip" then cs.dropWhile drop else cs
    let cs := if name != "lstrip" then (cs.reverse.dropWhile drop).reverse else cs
    text (String.ofList cs)
  | "split" | "rsplit" => do
    let (sep, limit) ← splitArgs
    let parts := if name == "split" then splitLeft s sep limit else splitRight s sep limit
    pure (.seq true (parts.map fun p => .scalar (.str p)))
  | "splitlines" => do
    let keep ← match named "keepends" 0 with
      | some d => d.truth
      | none => pure false
    pure (.seq true ((lines s keep).map fun p => .scalar (.str p)))
  | "partition" | "rpartition" => do
    plain 1 1
    let sep ← textArg (arg 0).get!
    if sep.isEmpty then throw (Fault.raised .valueError "empty separator")
    let parts := Text.splitText s sep
    let three (a b c : String) : Datum := .seq false [.scalar (.str a), .scalar (.str b), .scalar (.str c)]
    if parts.length < 2 then
      pure (if name == "partition" then three s "" "" else three "" "" s)
    else if name == "partition" then
      pure (three parts.head! sep (sep.intercalate parts.tail))
    else pure (three (sep.intercalate parts.dropLast) sep parts.getLast!)
  | "removeprefix" => do
    plain 1 1
    let p ← textArg (arg 0).get!
    text (if s.startsWith p then String.ofList (s.toList.drop p.length) else s)
  | "removesuffix" => do
    plain 1 1
    let p ← textArg (arg 0).get!
    text (if s.endsWith p && !p.isEmpty then String.ofList (s.toList.take (s.length - p.length)) else s)
  | "startswith" | "endswith" => do
    plain 1 3
    truth (← affix (name == "endswith") name s (arg 0).get! (← optionalInt (arg 1)) (← optionalInt (arg 2)))
  | "find" | "rfind" | "index" | "rindex" => do
    let (sub, start, stop) ← bounds
    match position s sub start stop (name == "rfind" || name == "rindex") with
    | some i => pure (.scalar (.int i))
    | none =>
      if name == "find" || name == "rfind" then pure (.scalar (.int (-1)))
      else throw (Fault.raised .valueError "substring not found")
  | "count" => do
    let (sub, start, stop) ← bounds
    let (a, b) := span s.length start stop
    if b - a < sub.length then pure (.scalar (.int 0))
    else pure (.scalar (.int (occurrences (spanOf s.toList a b) sub.toList).length))
  | "join" => do
    plain 1 1
    text (← joined s (← (arg 0).get!.items?))
  | "replace" => do
    noKeywords name kwargs
    if args.length < 2 || args.length > 3 then throw (wrongCount name 2 3 args.length)
    let old ← match arg 0 with
      | some (.scalar (.str o)) => pure o
      | some d => throw (Fault.raised .typeError s!"replace() argument 1 must be str, not {d.kindName}")
      | none => pure ""
    let new ← match arg 1 with
      | some (.scalar (.str o)) => pure o
      | some d => throw (Fault.raised .typeError s!"replace() argument 2 must be str, not {d.kindName}")
      | none => pure ""
    let count ← match arg 2 with
      | none => pure none
      | some d => do
        let k ← intArg d
        pure (if k < 0 then none else some k.toNat)
    text (replaceText s old new count)
  | "zfill" => do
    plain 1 1
    text (zeroFilled s (← intArg (arg 0).get!))
  | "center" | "ljust" | "rjust" => do
    plain 1 2
    let width ← intArg (arg 0).get!
    let fill ← fillChar (arg 1)
    let pad := String.ofList (List.replicate (width.toNat - s.length) fill)
    match name with
    | "center" => text (centered s width fill)
    | "ljust" => text (s ++ pad)
    | _ => text (pad ++ s)
  | "encode" => encodeWith s args kwargs
  | "format" => text (← formatWith labels attr s args kwargs)
  | "format_map" => do
    plain 1 1
    text (← formatFromMapping labels attr s (arg 0).get!)
  | "isidentifier" => plain 0 0; truth (Text.isIdentifier s)
  | "translate" => do
    plain 1 1
    text (String.join (← s.toList.mapM (translatedChar (arg 0).get!)))
  | "maketrans" => do
    noKeywords name kwargs
    if args.isEmpty || args.length > 3 then throw (wrongCount name 1 3 args.length)
    translationTable args
  | "expandtabs" => do
    if args.length > 1 then throw (wrongCount name 0 1 args.length)
    let size ← match named "tabsize" 0 with
      | some d => intArg d
      | none => pure 8
    text (Text.Filling.expandTabsIn size s)
  | _ => throw (Fault.raised .attributeError s!"'str' object has no attribute '{name}'")

def callBytes (b : String) (name : String) (args : List Datum) (kwargs : List (String × Datum)) :
    Outcome Datum := do
  let asBytes (f : String → String) : Outcome Datum := pure (.bytes (f b))
  match name with
  | "decode" => decodeWith b args kwargs
  | "hex" => pure (.scalar (.str (String.join (b.toList.map fun c => Text.hexPadded 2 c.toNat |>.toList.map Char.toLower |> String.ofList))))
  | "upper" => asBytes fun s => String.ofList (s.toList.map Char.toUpper)
  | "lower" => asBytes fun s => String.ofList (s.toList.map Char.toLower)
  | "startswith" | "endswith" =>
    let test (p : String) : Bool := if name == "startswith" then b.startsWith p else b.endsWith p
    match args with
    | [.bytes p] => pure (.scalar (.bool (test p)))
    | [.seq false items] =>
      return .scalar (.bool (← items.anyM fun d => match d with
        | .bytes p => pure (test p)
        | d => throw (Fault.raised .typeError s!"a bytes-like object is required, not '{d.kindName}'")))
    | d :: _ => throw (Fault.raised .typeError
        s!"{name} first arg must be bytes or a tuple of bytes, not {d.kindName}")
    | [] => throw (Fault.raised .typeError s!"{name}() takes at least 1 argument (0 given)")
  | _ => throw (Fault.raised .attributeError s!"'bytes' object has no attribute '{name}'")

end Strings

end PipeQuery.Calc
