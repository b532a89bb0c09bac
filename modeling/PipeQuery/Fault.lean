/-!
# Failures

A step that cannot be carried out fails with a `Fault`: the class of the failure, its text, and
whether answers show that text. The engine's own checks (an unknown field, a bad span) show their
text; failures that arise inside the table and number machinery (a key that is not there, values
that cannot be compared) are reported by class alone, though their text is kept, because a formula
that fails quotes it.
-/

namespace PipeQuery

/-- The classes of failure, by the names answers give them. -/
inductive FaultKind
  | valueError | keyError | typeError | ufuncTypeError | regexError
  | parserError | lexerError | recursionError | dateParseError | outOfBounds
  | overflowError | indexError | attributeError | zeroDivisionError | nameError | syntaxError
  | spanOutOfBounds | lookupError | unicodeDecodeError | unicodeEncodeError | runtimeError
  | memoryError | mergeError | unknownTimeZone
  deriving DecidableEq, Repr, Inhabited

def FaultKind.name : FaultKind → String
  | .valueError => "ValueError"
  | .keyError => "KeyError"
  | .typeError => "TypeError"
  | .ufuncTypeError => "UFuncTypeError"
  | .regexError => "error"
  | .parserError => "ParserError"
  | .lexerError => "LexerError"
  | .recursionError => "RecursionError"
  | .dateParseError => "DateParseError"
  | .outOfBounds => "OutOfBoundsDatetime"
  | .overflowError => "OverflowError"
  | .indexError => "IndexError"
  | .attributeError => "AttributeError"
  | .zeroDivisionError => "ZeroDivisionError"
  | .nameError => "NameError"
  | .syntaxError => "SyntaxError"
  | .spanOutOfBounds => "OutOfBoundsTimedelta"
  | .lookupError => "LookupError"
  | .unicodeDecodeError => "UnicodeDecodeError"
  | .unicodeEncodeError => "UnicodeEncodeError"
  | .runtimeError => "RuntimeError"
  | .memoryError => "MemoryError"
  | .mergeError => "MergeError"
  | .unknownTimeZone => "UnknownTimeZoneError"

/-- A failure: its class, its text, and whether answers show the text. -/
structure Fault where
  kind : FaultKind
  text : String
  shown : Bool
  deriving Repr, Inhabited

namespace Fault

def invalid (text : String) : Fault :=
  { kind := .valueError, text, shown := true }

def raised (kind : FaultKind) (text : String) : Fault :=
  { kind, text, shown := true }

/-- A failure of class `kind` from the table and number machinery, reported by class alone. -/
def inner (kind : FaultKind) (text : String) : Fault :=
  { kind, text, shown := false }

/-- The same failure, now shown with its text: the engine passes it on as its own. -/
def surfaced (f : Fault) : Fault :=
  { f with shown := true }

end Fault

abbrev Outcome := Except Fault

end PipeQuery
