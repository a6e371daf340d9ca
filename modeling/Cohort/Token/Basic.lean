import Cohort.Number.Written
import Cohort.Text.Quoted

/-! The tokens of filter expressions. -/
namespace Cohort

/-- Punctuation of one character. -/
inductive Mark where
  | leftParen | rightParen | leftBracket | rightBracket | leftBrace | rightBrace
  | comma | colon | question | dot | pipe
  deriving DecidableEq, Repr

namespace Mark

def char : Mark → Char
  | .leftParen => '('
  | .rightParen => ')'
  | .leftBracket => '['
  | .rightBracket => ']'
  | .leftBrace => '\x7b'
  | .rightBrace => '\x7d'
  | .comma => ','
  | .colon => ':'
  | .question => '?'
  | .dot => '.'
  | .pipe => '|'

def all : List Mark :=
  [.leftParen, .rightParen, .leftBracket, .rightBracket, .leftBrace, .rightBrace, .comma, .colon,
    .question, .dot, .pipe]

def ofChar? (c : Char) : Option Mark := all.find? (·.char == c)

theorem ofChar?_char (m : Mark) : ofChar? m.char = some m := by cases m <;> rfl

/-- The mark between apostrophes, as messages show it. -/
def describe (m : Mark) : String := String.ofList ['\'', m.char, '\'']

end Mark

/-- What a token is, with its payload. -/
inductive TokenKind where
  | float (value : Float)
  | int (value : Int64)
  | string (value : String)
  | bool (value : Bool)
  | null
  | identifier (name : String)
  | operator (symbol : String)
  | mark (m : Mark)
  | eof

namespace TokenKind

/-- A token as messages show it. -/
def describe : TokenKind → String
  | .float x => "number " ++ Number.Style.plain.text x
  | .int n => "number " ++ toString n.toInt
  | .string s => "string " ++ Text.quoted s
  | .bool b => "boolean " ++ (if b then "true" else "false")
  | .null => "null"
  | .identifier name => "identifier '" ++ name ++ "'"
  | .operator symbol => "operator '" ++ symbol ++ "'"
  | .mark m => m.describe
  | .eof => "end of expression"

/-- Whether an operand is expected after the token, so that a minus sign before a digit belongs to
a number. -/
def operandFollows : TokenKind → Bool
  | .operator _ => true
  | .mark .leftParen | .mark .leftBracket | .mark .leftBrace => true
  | .mark .comma | .mark .colon | .mark .question => true
  | _ => false

def isEof : TokenKind → Bool
  | .eof => true
  | _ => false

end TokenKind

/-- A token, and how many characters of the text come before it. -/
structure Token where
  kind : TokenKind
  offset : Nat

end Cohort
