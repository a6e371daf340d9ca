import Cohort.Token.Basic
import Cohort.Value.Basic

/-! What can go wrong, and how it is reported. -/
namespace Cohort

/-- What the parser would have accepted in place of a token. -/
inductive Expected where
  | mark (m : Mark)
  | identifier
  | operand
  | objectKey
  | eof

def Expected.describe : Expected → String
  | .mark m => m.describe
  | .identifier => "identifier"
  | .operand => "operand"
  | .objectKey => "string or identifier as object key"
  | .eof => TokenKind.eof.describe

/-- Why a text is not an expression. -/
inductive SyntaxError where
  | unexpectedCharacter (c : Char) (offset : Nat)
  | unterminatedString (offset : Nat)
  | invalidNumber (text : String) (offset : Nat)
  | unexpectedToken (found : TokenKind) (expected : Expected) (offset : Nat)
  | unexpectedEof (expected : Expected)
  | nestingTooDeep (offset : Nat)

def SyntaxError.message : SyntaxError → String
  | .unexpectedCharacter c offset =>
    "Unexpected character '" ++ String.ofList [c] ++ "' at offset " ++ toString offset
  | .unterminatedString offset => "Unterminated string starting at offset " ++ toString offset
  | .invalidNumber text offset =>
    "Invalid number literal '" ++ text ++ "' at offset " ++ toString offset
  | .unexpectedToken found expected offset =>
    "Unexpected " ++ found.describe ++ " at offset " ++ toString offset ++ ", expected "
      ++ expected.describe
  | .unexpectedEof expected => "Unexpected end of expression, expected " ++ expected.describe
  | .nestingTooDeep offset => "Expression nests too deeply at offset " ++ toString offset

/-- Why a sample cannot be drawn. -/
inductive RangeError where
  | fractionOutOfRange (fraction : Float)
  | invalidHashLength (hash : String)
  | invalidBucketTotal (total : Int64)

def RangeError.message : RangeError → String
  | .fractionOutOfRange fraction =>
    "Fraction " ++ Number.Style.plain.text fraction ++ " is outside of the range [0, 1]"
  | .invalidHashLength hash => "Hash '" ++ hash ++ "' is not exactly 64 hex characters"
  | .invalidBucketTotal total => "Bucket total must be positive, got " ++ toString total.toInt

/-- Which values do not go together. -/
inductive TypeFault where
  | operands (symbol : String) (left right : Kind)
  | intersection (left right : Kind)
  | notArray (transform : String) (found : Kind)
  | stated (text : String)

def TypeFault.message : TypeFault → String
  | .operands symbol left right =>
    "Cannot apply '" ++ symbol ++ "' to " ++ left.name ++ " and " ++ right.name
  | .intersection left right => "Cannot intersect " ++ left.name ++ " with " ++ right.name
  | .notArray transform found => transform ++ " requires an array, got " ++ found.name
  | .stated text => text

/-- Why a value is no date. -/
inductive DateFault where
  | unreadable (text : String)
  | outOfRange (millis : Int64)
  | wrongKind (found : Kind)

def DateFault.message : DateFault → String
  | .unreadable text => text
  | .outOfRange millis => toString millis.toInt
  | .wrongKind found => "cannot convert " ++ found.name ++ " to a date"

/-- Why an expression has no value. -/
inductive EvalError where
  | unknownOperator (symbol : String)
  | unknownTransform (name : String)
  | typeError (fault : TypeFault)
  | invalidArguments (transform requirement : String)
  | divisionByZero
  | invalidDate (fault : DateFault)
  | invalidRegex
  | range (fault : RangeError)
  | custom (text : String)

def EvalError.message : EvalError → String
  | .unknownOperator symbol => "Unknown operator: " ++ symbol
  | .unknownTransform name => "Unknown transform: " ++ name
  | .typeError fault => "Type error: " ++ fault.message
  | .invalidArguments transform requirement =>
    "Invalid arguments for transform '" ++ transform ++ "': " ++ requirement
  | .divisionByZero => "Division by zero"
  | .invalidDate fault => "Invalid date: " ++ fault.message
  | .invalidRegex => "Invalid regular expression: "
  | .range fault => fault.message
  | .custom text => text

/-- Any failure on the way from a text to a value. -/
inductive Error where
  | malformed (fault : SyntaxError)
  | eval (fault : EvalError)
  | range (fault : RangeError)

/-- A failure of a sampling function is reported as such wherever it arose. -/
def EvalError.toError : EvalError → Error
  | .range fault => .range fault
  | fault => .eval fault

def Error.message : Error → String
  | .malformed fault => "Syntax error: " ++ fault.message
  | .eval fault => "Evaluation error: " ++ fault.message
  | .range fault => "Range error: " ++ fault.message

end Cohort
