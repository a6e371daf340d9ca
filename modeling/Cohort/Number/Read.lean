import Cohort.Number.Binary
import Cohort.Number.Narrow
import Cohort.Text.Digits

/-! Numbers read from decimal text. -/
namespace Cohort.Number
open Cohort.Text (isDigit digitsValue)
open scoped Cohort.Number.Power

/-- The double nearest to `digits * 10 ^ exponent`. Beyond the powers of ten that doubles reach the
answer is infinite or zero whatever the digits. -/
def ofDecimal (negative : Bool) (digits : Nat) (exponent : Int) : Float :=
  let size : Int := (toString digits).length
  let magnitude :=
    if digits = 0 then 0.0
    else if 400 < exponent + size then infinity .positive
    else if exponent + size < -400 then 0.0
    else Float.ofScientific digits (exponent < 0) exponent.natAbs
  if negative then -magnitude else magnitude

/-- A sign at the front of a text, and what follows it. -/
def splitSign : List Char → Bool × List Char
  | '-' :: rest => (true, rest)
  | '+' :: rest => (false, rest)
  | text => (false, text)

/-- An integer with an optional sign. -/
def readInt? (text : List Char) : Option Int :=
  let (negative, digits) := splitSign text
  if digits.isEmpty || !digits.all isDigit then none
  else some (if negative then -(digitsValue digits : Int) else digitsValue digits)

/-- A 64-bit integer with an optional sign. -/
def readInt64? (text : List Char) : Option Int64 := (readInt? text).bind narrow?

/-- The power of ten written after a number: nothing at all, or a mark and an integer. -/
def readExponent? : List Char → Option Int
  | [] => some 0
  | c :: rest => if c == 'e' || c == 'E' then readInt? rest else none

/-- Digits with at most one point among them, at least one digit in all, and an optional
exponent. -/
def readMagnitude? (negative : Bool) (text : List Char) : Option Float :=
  let whole := text.takeWhile isDigit
  let rest := text.dropWhile isDigit
  let (fraction, rest) := match rest with
    | '.' :: rest => (rest.takeWhile isDigit, rest.dropWhile isDigit)
    | rest => ([], rest)
  if whole.isEmpty && fraction.isEmpty then none
  else
    (readExponent? rest).map fun exponent =>
      ofDecimal negative (digitsValue (whole ++ fraction)) (exponent - fraction.length)

/-- A double: a decimal number, or the name of an infinity or of NaN in any case of letters, with
an optional sign. -/
def readFloat? (text : List Char) : Option Float :=
  let (negative, rest) := splitSign text
  let name := String.ofList (rest.map Char.toLower)
  if name == "inf" || name == "infinity" then
    some (infinity (if negative then .negative else .positive))
  else if name == "nan" then some notANumber
  else readMagnitude? negative rest

end Cohort.Number
