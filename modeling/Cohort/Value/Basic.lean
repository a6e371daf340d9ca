import Cohort.Document.Basic
import Cohort.Instant.Basic
import Cohort.Number.Narrow
import Cohort.Number.Written

/-! The values that filter expressions compute with. -/
namespace Cohort

/-- A value that is not a collection. -/
inductive Scalar where
  | null
  | bool (value : Bool)
  | int (value : Int64)
  | float (value : Float)
  | string (value : String)
  | date (value : Instant)

/-- A scalar, an array of values, or an object whose entries are values. -/
abbrev Value : Type := Document Scalar

/-- An object of values. -/
abbrev Entries : Type := Fields Scalar none

/-- The kind of a value, as messages name it. -/
inductive Kind where
  | null | boolean | integer | float | string | array | object | date
  deriving DecidableEq, Repr

def Kind.name : Kind → String
  | .null => "null"
  | .boolean => "boolean"
  | .integer => "integer"
  | .float => "float"
  | .string => "string"
  | .array => "array"
  | .object => "object"
  | .date => "date"

namespace Scalar

instance : Inhabited Scalar := ⟨.null⟩

/-- Equality of one kind with itself, where NaN differs from itself. -/
def beq : Scalar → Scalar → Bool
  | .null, .null => true
  | .bool a, .bool b => a == b
  | .int a, .int b => a == b
  | .float a, .float b => a == b
  | .string a, .string b => a == b
  | .date a, .date b => a == b
  | _, _ => false

instance : BEq Scalar := ⟨beq⟩

/-- The double nearest to a number of either kind. -/
def toFloat? : Scalar → Option Float
  | .int n => some (Float.ofInt n.toInt)
  | .float x => some x
  | _ => none

/-- Equality that takes an integer and a double for equal when the integer, as a double, is equal
to the other. -/
def looseEq : Scalar → Scalar → Bool
  | .int n, .float x | .float x, .int n => Float.ofInt n.toInt == x
  | a, b => a == b

def kind : Scalar → Kind
  | .null => .null
  | .bool _ => .boolean
  | .int _ => .integer
  | .float _ => .float
  | .string _ => .string
  | .date _ => .date

/-- Null, `false`, zero, NaN and the empty string count as false. -/
def truthy : Scalar → Bool
  | .null => false
  | .bool b => b
  | .int n => n != 0
  | .float x => x != 0.0 && !x.isNaN
  | .string s => s != ""
  | .date _ => true

/-- The text of a scalar as an object key or in a concatenation. -/
def text : Scalar → String
  | .null => "null"
  | .bool b => if b then "true" else "false"
  | .int n => toString n.toInt
  | .float x => Number.Style.plain.text x
  | .string s => s
  | .date t => t.text

end Scalar

/-- The order of two doubles; with NaN there is none. -/
def compareFloats? (x y : Float) : Option Ordering :=
  if x < y then some .lt else if x == y then some .eq else if x > y then some .gt else none

namespace Value

@[match_pattern] abbrev null : Value := .scalar .null
@[match_pattern] abbrev bool (b : Bool) : Value := .scalar (.bool b)
@[match_pattern] abbrev int (n : Int64) : Value := .scalar (.int n)
@[match_pattern] abbrev float (x : Float) : Value := .scalar (.float x)
@[match_pattern] abbrev string (s : String) : Value := .scalar (.string s)
@[match_pattern] abbrev date (t : Instant) : Value := .scalar (.date t)
@[match_pattern] abbrev array (items : List Value) : Value := Document.array items
@[match_pattern] abbrev object (fields : Entries) : Value := Document.object fields

def kind : Value → Kind
  | .scalar s => s.kind
  | .array _ => .array
  | .object _ => .object

/-- Collections count as true even when they are empty. -/
def truthy : Value → Bool
  | .scalar s => s.truthy
  | .array _ | .object _ => true

def toFloat? : Value → Option Float
  | .scalar s => s.toFloat?
  | _ => none

/-- The integer a value stands for: an integer itself, or a double without a fraction, which is
moved to the nearest 64-bit integer when it lies outside their range. -/
def toInt? : Value → Option Int64
  | .int n => some n
  | .float x => (Number.whole? x).map Number.saturate
  | _ => none

def toString? : Value → Option String
  | .string s => some s
  | _ => none

/-- The equality of expressions: numbers compare by value, collections entry by entry. -/
def looseEq (a b : Value) : Bool := a.agree Scalar.looseEq b

/-- The order of expressions: integers exactly, other numbers as doubles, strings by code points,
dates in time. All else has no order. -/
def compare? : Value → Value → Option Ordering
  | .int a, .int b => some (compare a b)
  | .string a, .string b => some (compare a b)
  | .date a, .date b => some (a.compare b)
  | a, b => do compareFloats? (← a.toFloat?) (← b.toFloat?)

end Value

end Cohort
