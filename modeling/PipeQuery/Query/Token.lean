/-!
# Tokens of the query language

A token has a kind, its text, the offset of its first character, and the line and column of the
reader (`Cursor`) when it was complete: the column where it starts, the line reached after it.
-/

namespace PipeQuery.Query

/-- The kinds of token; the keywords `by`, `as`, `with`, `in`, `and`, `or` match in any case and
keep their text. -/
inductive TokenKind
  | ident | str | num
  | pipe | assign | comma | dot
  | gt | lt | ge | le | eq | ne
  | plus | minus | star | slash
  | lparen | rparen | lbracket | rbracket
  | byKw | asKw | withKw | inKw | andKw | orKw
  | eof
  deriving DecidableEq, Repr, Inhabited

namespace TokenKind

/-- The upper-case name of a kind, as tokens are listed and as parse errors name them. -/
def name : TokenKind → String
  | ident => "IDENTIFIER" | str => "STRING" | num => "NUMBER"
  | pipe => "PIPE" | assign => "EQUALS" | comma => "COMMA" | dot => "DOT"
  | gt => "GT" | lt => "LT" | ge => "GTE" | le => "LTE" | eq => "EQ" | ne => "NEQ"
  | plus => "PLUS" | minus => "MINUS" | star => "STAR" | slash => "SLASH"
  | lparen => "LPAREN" | rparen => "RPAREN" | lbracket => "LBRACKET" | rbracket => "RBRACKET"
  | byKw => "BY" | asKw => "AS" | withKw => "WITH" | inKw => "IN" | andKw => "AND"
  | orKw => "OR" | eof => "EOF"

def keyword? : String → Option TokenKind
  | "by" => some byKw
  | "as" => some asKw
  | "with" => some withKw
  | "in" => some inKw
  | "and" => some andKw
  | "or" => some orKw
  | _ => none

def single? : Char → Option TokenKind
  | '|' => some pipe
  | ',' => some comma
  | '.' => some dot
  | '(' => some lparen
  | ')' => some rparen
  | '[' => some lbracket
  | ']' => some rbracket
  | '+' => some plus
  | '*' => some star
  | '/' => some slash
  | _ => none

def comparison? : Char → Option (TokenKind × TokenKind)
  | '=' => some (assign, eq)
  | '>' => some (gt, ge)
  | '<' => some (lt, le)
  | _ => none

end TokenKind

structure Token where
  kind : TokenKind
  text : String
  pos : Nat
  line : Nat
  column : Nat
  deriving Repr, Inhabited, DecidableEq

structure Cursor where
  pos : Nat := 0
  line : Nat := 1
  column : Nat := 0
  deriving Repr, Inhabited, DecidableEq

namespace Cursor

def next (cur : Cursor) (c : Char) : Cursor :=
  if c = '\n' then { pos := cur.pos + 1, line := cur.line + 1, column := 0 }
  else { cur with pos := cur.pos + 1, column := cur.column + 1 }

def skip (cur : Cursor) (cs : List Char) : Cursor :=
  cs.foldl next cur

@[simp] theorem next_pos (cur : Cursor) (c : Char) : (cur.next c).pos = cur.pos + 1 := by
  unfold next; split <;> rfl

@[simp] theorem skip_nil (cur : Cursor) : cur.skip [] = cur := rfl

@[simp] theorem skip_cons (cur : Cursor) (c : Char) (cs : List Char) :
    cur.skip (c :: cs) = (cur.next c).skip cs := rfl

/-- Reading advances the offset by the number of characters read. -/
@[simp] theorem skip_pos (cur : Cursor) (cs : List Char) :
    (cur.skip cs).pos = cur.pos + cs.length := by
  induction cs generalizing cur with
  | nil => rfl
  | cons c cs ih => simp [ih]; omega

end Cursor

end PipeQuery.Query
