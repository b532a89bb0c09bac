import PipeQuery.Text.Classes
import PipeQuery.Text.Case

/-!
# Text encodings

UTF-8, ASCII and Latin-1 turn texts into bytes and back; a byte string is a text of characters
below 256. Encoding and decoding fail at the first characters or bytes at fault, naming them and
the reason, unless the handler drops them (`ignore`) or puts a replacement in their place
(`replace`).
-/

namespace PipeQuery.Text

inductive Encoding
  | utf8 | ascii | latin1
  deriving DecidableEq, Repr, Inhabited

namespace Encoding

def name : Encoding → String
  | utf8 => "utf-8"
  | ascii => "ascii"
  | latin1 => "latin-1"

/-- The first code point an encoding cannot hold in one byte: `128` for ASCII, `256` for Latin-1. -/
def limit : Encoding → Nat
  | ascii => 128
  | _ => 256

def ofName? (s : String) : Option Encoding :=
  let marked := String.ofList ((lower s).toList.map fun c => if c.isAlphanum || c == '.' then c else '_')
  let key := "_".intercalate ((marked.splitOn "_").filter (!·.isEmpty))
  if ["utf_8", "utf8", "u8", "utf", "cp65001", "utf8_ucs2", "utf8_ucs4"].contains key then some utf8
  else if ["ascii", "us_ascii", "646", "us", "ansi_x3.4_1968", "ansi_x3_4_1968", "ansi_x3.4_1986",
      "cp367", "csascii", "ibm367", "iso646_us", "iso_646.irv_1991", "iso_ir_6"].contains key then
    some ascii
  else if ["latin_1", "latin1", "latin", "l1", "iso_8859_1", "iso8859_1", "8859", "cp819",
      "csisolatin1", "ibm819", "iso_ir_100", "iso_8859_1_1987"].contains key then some latin1
  else none

end Encoding

inductive ErrorHandler
  | strict | ignore | replace
  deriving DecidableEq, Repr, Inhabited

def ErrorHandler.ofName? : String → Option ErrorHandler
  | "strict" => some .strict
  | "ignore" => some .ignore
  | "replace" => some .replace
  | _ => none

/-- A failure to encode or decode: the positions `start` to `stop` (not included) at fault and the
reason. -/
structure CodecFault where
  start : Nat
  stop : Nat
  reason : String
  deriving Repr, Inhabited

def utf8Bytes (n : Nat) : List Nat :=
  if n < 0x80 then [n]
  else if n < 0x800 then [0xC0 + n / 64, 0x80 + n % 64]
  else if n < 0x10000 then [0xE0 + n / 4096, 0x80 + (n / 64) % 64, 0x80 + n % 64]
  else [0xF0 + n / 262144, 0x80 + (n / 4096) % 64, 0x80 + (n / 64) % 64, 0x80 + n % 64]

def encodeText (e : Encoding) (h : ErrorHandler) (s : String) : Except CodecFault (List Nat) :=
  go s.toList 0 []
where
  go : List Char → Nat → List Nat → Except CodecFault (List Nat)
    | [], _, acc => pure acc.reverse
    | c :: rest, pos, acc =>
      if e == .utf8 then go rest (pos + 1) ((utf8Bytes c.toNat).reverse ++ acc)
      else if c.toNat < e.limit then go rest (pos + 1) (c.toNat :: acc)
      else
        let run := (c :: rest).takeWhile (·.toNat ≥ e.limit)
        match h with
        | .strict =>
          throw { start := pos, stop := pos + run.length,
                  reason := s!"ordinal not in range({e.limit})" }
        | .ignore => go (rest.drop (run.length - 1)) (pos + run.length) acc
        | .replace =>
          go (rest.drop (run.length - 1)) (pos + run.length) (List.replicate run.length 63 ++ acc)
  termination_by cs => cs.length
  decreasing_by all_goals (simp only [List.length_drop, List.length_cons]; omega)

def isContinuation (b : Nat) : Bool := 0x80 ≤ b && b < 0xC0

/-- The character at the head of UTF-8 bytes and the count of its bytes, or the failure. -/
def utf8Step (bs : List Nat) : Except (String × Nat) (Nat × Nat) :=
  let endOfData : Except (String × Nat) (Nat × Nat) := throw ("unexpected end of data", bs.length)
  let broken (k : Nat) : Except (String × Nat) (Nat × Nat) := throw ("invalid continuation byte", k)
  match bs with
  | [] => endOfData
  | x :: rest =>
    if x < 0x80 then pure (x, 1)
    else if x < 0xC2 || x > 0xF4 then throw ("invalid start byte", 1)
    else
      -- the bytes allowed second, narrower after E0, ED, F0 and F4
      let (lo, hi) : Nat × Nat :=
        if x == 0xE0 then (0xA0, 0xBF) else if x == 0xED then (0x80, 0x9F)
        else if x == 0xF0 then (0x90, 0xBF) else if x == 0xF4 then (0x80, 0x8F) else (0x80, 0xBF)
      let size := if x < 0xE0 then 2 else if x < 0xF0 then 3 else 4
      let lead := if size == 2 then x % 32 else if size == 3 then x % 16 else x % 8
      let tail := rest.take (size - 1)
      match tail.head? with
      | none => endOfData
      | some b1 =>
        if !(lo ≤ b1 && b1 ≤ hi) then broken 1
        else
          match (tail.drop 1).findIdx? (!isContinuation ·) with
          | some i => broken (i + 2)
          | none =>
            if tail.length < size - 1 then endOfData
            else pure (tail.foldl (fun n b => n * 64 + b % 64) lead, size)

def decodeBytes (e : Encoding) (h : ErrorHandler) (bs : List Nat) : Except CodecFault String :=
  go bs.length bs 0 []
where
  go : Nat → List Nat → Nat → List Char → Except CodecFault String
    | 0, _, _, acc | _, [], _, acc => pure (String.ofList acc.reverse)
    | fuel + 1, b :: rest, pos, acc =>
      let step : Except (String × Nat) (Nat × Nat) :=
        match e with
        | .utf8 => utf8Step (b :: rest)
        | _ => if b < e.limit then pure (b, 1) else throw (s!"ordinal not in range({e.limit})", 1)
      match step with
      | .ok (n, k) => go fuel ((b :: rest).drop k) (pos + k) (Char.ofNat n :: acc)
      | .error (reason, k) =>
        match h with
        | .strict => throw { start := pos, stop := pos + k, reason }
        | .ignore => go fuel ((b :: rest).drop k) (pos + k) acc
        | .replace => go fuel ((b :: rest).drop k) (pos + k) (Char.ofNat 0xFFFD :: acc)

def CodecFault.decodeMessage (f : CodecFault) (codec : String) (bs : List Nat) : String :=
  if f.stop == f.start + 1 then
    s!"'{codec}' codec can't decode byte 0x{(hexPadded 2 (bs.getD f.start 0)).toList.map Char.toLower |> String.ofList} in position {f.start}: {f.reason}"
  else s!"'{codec}' codec can't decode bytes in position {f.start}-{f.stop - 1}: {f.reason}"

def CodecFault.encodeMessage (f : CodecFault) (codec : String) (s : String) : String :=
  if f.stop == f.start + 1 then
    let n := (s.toList.getD f.start ' ').toNat
    let hex (w : Nat) : String := String.ofList ((hexPadded w n).toList.map Char.toLower)
    let esc := if n ≤ 0xFF then "\\x" ++ hex 2 else if n ≤ 0xFFFF then "\\u" ++ hex 4 else "\\U" ++ hex 8
    s!"'{codec}' codec can't encode character '{esc}' in position {f.start}: {f.reason}"
  else s!"'{codec}' codec can't encode characters in position {f.start}-{f.stop - 1}: {f.reason}"

end PipeQuery.Text
