import Cohort.Grammar.Basic
import Cohort.Number.Scaled
import Cohort.Number.Words

/-! The operators of the standard grammar. -/
namespace Cohort
open Cohort.Number (Scaled narrow? quotient? remainder? pred?)
open scoped Cohort.Number.Power

namespace Operators

def logicalPrecedence : Int32 := 10
def comparisonPrecedence : Int32 := 20
def additivePrecedence : Int32 := 30
def multiplicativePrecedence : Int32 := 40
def powerPrecedence : Int32 := 50

/-- Gives the left operand when it counts as false, and otherwise the right one. -/
def and (left : Value) (right : Unit → Outcome) : Outcome :=
  if left.truthy then right () else .ok left

/-- Gives the left operand when it counts as true, and otherwise the right one. -/
def or (left : Value) (right : Unit → Outcome) : Outcome :=
  if left.truthy then .ok left else right ()

def not (operand : Value) : Outcome := .ok (.bool (!operand.truthy))

def equal (left right : Value) : Outcome := .ok (.bool (left.looseEq right))

def notEqual (left right : Value) : Outcome := .ok (.bool (!left.looseEq right))

/-- Whether the order of the operands is an accepted one; values without an order are not. -/
def ordered (accept : Ordering → Bool) (left right : Value) : Outcome :=
  .ok (.bool ((left.compare? right).any accept))

/-- Whether a list of characters occurs in another without gaps. -/
def occursIn (needle : List Char) : List Char → Bool
  | [] => needle.isEmpty
  | c :: rest => needle.isPrefixOf (c :: rest) || occursIn needle rest

/-- A string is in a string that it is part of, and a value in an array with an equal item. -/
def contains (haystack needle : Value) : Bool :=
  match haystack, needle with
  | .string text, .string part => occursIn part.toList text.toList
  | .array items, needle => items.any (·.looseEq needle)
  | _, _ => false

def memberOf (left right : Value) : Outcome := .ok (.bool (contains right left))

/-- The items of the left array that have an equal one in the right array. -/
def intersect (left right : Value) : Outcome :=
  match left, right with
  | .array xs, .array ys => .ok (.array (xs.filter fun x => ys.any (·.looseEq x)))
  | _, _ => .error (.typeError (.intersection left.kind right.kind))

/-- One arithmetic operation on words, on scaled decimals and on doubles. -/
structure Arithmetic where
  symbol : String
  onWords : Int64 → Int64 → Option Int64
  onDecimals : Scaled → Scaled → Option Scaled
  onFloats : Float → Float → Float

/-- A decimal as an integer when it is one, and as a double otherwise. -/
def ofDecimal (d : Scaled) : Value :=
  match d.whole?.bind narrow? with
  | some n => .int n
  | none => .float d.toFloat

/-- The result for an integer and a double. It is computed in decimal arithmetic, so that it does
not show how doubles are rounded, unless an operand or the result is too large for that. -/
def Arithmetic.mixed (op : Arithmetic) (x y : Float) : Value :=
  match Scaled.ofFloat? x, Scaled.ofFloat? y with
  | some a, some b =>
    match op.onDecimals a b with
    | some result => ofDecimal result
    | none => .float (op.onFloats x y)
  | _, _ => .float (op.onFloats x y)

def mismatch (symbol : String) (left right : Value) : Outcome :=
  .error (.typeError (.operands symbol left.kind right.kind))

/-- Two integers give an integer when the result is one that fits, and two doubles a double. -/
def Arithmetic.apply (op : Arithmetic) (left right : Value) : Outcome :=
  match left, right with
  | .int a, .int b =>
    match op.onWords a b with
    | some n => .ok (.int n)
    | none => .ok (.float (op.onFloats (Float.ofInt a.toInt) (Float.ofInt b.toInt)))
  | .float x, .float y => .ok (.float (op.onFloats x y))
  | _, _ =>
    match left.toFloat?, right.toFloat? with
    | some x, some y => .ok (op.mixed x y)
    | _, _ => mismatch op.symbol left right

def addition : Arithmetic :=
  ⟨"+", fun a b => narrow? (a.toInt + b.toInt), Scaled.add?, (· + ·)⟩

def subtraction : Arithmetic :=
  ⟨"-", fun a b => narrow? (a.toInt - b.toInt), Scaled.sub?, (· - ·)⟩

def multiplication : Arithmetic :=
  ⟨"*", fun a b => narrow? (a.toInt * b.toInt), Scaled.mul?, (· * ·)⟩

/-- Words are divided by other means. -/
def division : Arithmetic := ⟨"/", fun _ _ => none, Scaled.div?, (· / ·)⟩

def remainder : Arithmetic := ⟨"%", remainder?, Scaled.rem?, Number.remainder⟩

/-- Adds numbers and joins strings. -/
def add (left right : Value) : Outcome :=
  match left, right with
  | .string a, .string b => .ok (.string (a ++ b))
  | _, _ => addition.apply left right

def subtract (left right : Value) : Outcome := subtraction.apply left right

def multiply (left right : Value) : Outcome := multiplication.apply left right

/-- Whether two numbers are to be divided of which the second is zero. -/
def dividesByZero (left right : Value) : Bool :=
  left.toFloat?.isSome && right.toFloat?.any (· == 0.0)

section Words
variable (a b : Int64)

/-- The quotient of two integers: an integer when it is one, and otherwise a double. There is no
answer where the division that follows a remainder of zero traps. -/
def divideWords? : Option Outcome :=
  if remainder? a b = some 0 then do
    let quotient ← quotient? a b
    some (.ok (.int quotient))
  else some (.ok (.float (Float.ofInt a.toInt / Float.ofInt b.toInt)))

theorem isSome_divideWords? : (divideWords? a b).isSome := by
  unfold divideWords?
  split
  next hzero =>
    cases hquotient : quotient? a b with
    | none => simp [remainder?, hquotient] at hzero
    | some quotient => rfl
  next => rfl

/-- The floor of the quotient of two integers. There is no answer where the remainder traps that is
asked for after the quotient, or where one cannot be taken away. -/
def floorDivideWords? : Option Outcome :=
  match quotient? a b with
  | none => some (.error .divisionByZero)
  | some quotient => do
    let cut ← remainder? a b
    if cut ≠ 0 ∧ decide (a < 0) ≠ decide (b < 0) then do
      let less ← pred? quotient
      some (.ok (.int less))
    else some (.ok (.int quotient))

theorem isSome_floorDivideWords? : (floorDivideWords? a b).isSome := by
  unfold floorDivideWords?
  split
  next => rfl
  next quotient hquotient =>
    rw [Number.remainder?_eq hquotient, Option.bind_eq_bind, Option.bind_some]
    split
    next hcut =>
      rw [Number.pred?_eq hquotient hcut.1]
      rfl
    next => rfl

end Words

def divide (left right : Value) : Outcome :=
  if dividesByZero left right then .error .divisionByZero
  else
    match left, right with
    | .int a, .int b => (divideWords? a b).get (isSome_divideWords? a b)
    | _, _ => division.apply left right

/-- The greatest integer at most the quotient. For two integers it is an integer. -/
def floorDivide (left right : Value) : Outcome :=
  if dividesByZero left right then .error .divisionByZero
  else
    match left, right with
    | .int a, .int b => (floorDivideWords? a b).get (isSome_floorDivideWords? a b)
    | _, _ =>
      match left.toFloat?, right.toFloat? with
      | some x, some y => .ok (.float (Number.floor (x / y)))
      | _, _ => mismatch "//" left right

/-- What is left over when the quotient is cut off; it has the sign of the left operand. -/
def modulo (left right : Value) : Outcome :=
  if dividesByZero left right then .error .divisionByZero else remainder.apply left right

/-- The power of an integer by squaring, with every intermediate result in a 64-bit word. -/
def wordPower? (base : Int) (exponent : Nat) : Option Int64 :=
  if exponent = 0 then some 1
  else
    let size := base.natAbs
    if size ≤ 1 then narrow? (if exponent % 2 = 0 then base * base else base)
    else if 64 ≤ exponent then none
    else narrow? (base ^ exponent)

/-- The power of two numbers: an integer when both are, the exponent is below `2 ^ 32` and not
negative, and the result fits; otherwise a double. -/
def power (left right : Value) : Outcome :=
  let onFloats :=
    match left.toFloat?, right.toFloat? with
    | some x, some y => .ok (.float (Float.pow x y))
    | _, _ => mismatch "^" left right
  match left, right with
  | .int base, .int exponent =>
    if 0 ≤ exponent.toInt ∧ exponent.toInt < 2 ^ (32 : Nat) then
      match wordPower? base.toInt exponent.toInt.toNat with
      | some n => .ok (.int n)
      | none => onFloats
    else onFloats
  | _, _ => onFloats

end Operators

open Operators in
/-- Adds the standard operators to a grammar. -/
def Grammar.addOperators (g : Grammar) : Grammar :=
  g
  |>.addShortCircuit "&&" logicalPrecedence Operators.and
  |>.addShortCircuit "||" logicalPrecedence Operators.or
  |>.addBinary "==" comparisonPrecedence equal
  |>.addBinary "!=" comparisonPrecedence notEqual
  |>.addBinary "<" comparisonPrecedence (ordered (· == .lt))
  |>.addBinary "<=" comparisonPrecedence (ordered (· != .gt))
  |>.addBinary ">" comparisonPrecedence (ordered (· == .gt))
  |>.addBinary ">=" comparisonPrecedence (ordered (· != .lt))
  |>.addBinary "in" comparisonPrecedence memberOf
  |>.addBinary "intersect" comparisonPrecedence intersect
  |>.addBinary "+" additivePrecedence add
  |>.addBinary "-" additivePrecedence subtract
  |>.addBinary "*" multiplicativePrecedence multiply
  |>.addBinary "/" multiplicativePrecedence divide
  |>.addBinary "//" multiplicativePrecedence floorDivide
  |>.addBinary "%" multiplicativePrecedence modulo
  |>.addBinary "^" powerPrecedence power
  |>.addUnary "!" Operators.not

end Cohort
