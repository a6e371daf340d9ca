import Cohort.Number.Narrow

/-! Exact values of double-precision numbers, and the operations on them that go through the exact
value: whole part, floor, rounding and remainder. -/
namespace Cohort.Number
open Float.Model (UnpackedFloat)
open Float.Model.UnpackedFloat (Sign)
open scoped Cohort.Number.Power

/-- The double nearest to `mantissa * 2 ^ exponent`, a tie going to the even mantissa. -/
def ofDyadic (sign : Sign) (mantissa : Nat) (exponent : Int) : Float :=
  .ofModel (Float.Model.pack (UnpackedFloat.round .binary64 sign mantissa exponent))

/-- The double nearest to an integer, a tie going to the even mantissa. -/
def ofInteger (n : Int) : Float := ofDyadic (if n < 0 then .negative else .positive) n.natAbs 0

def notANumber : Float := .ofModel (Float.Model.pack .notANumber)

def infinity (sign : Sign) : Float := .ofModel (Float.Model.pack (.infinity sign))

def negativeSign (sign : Sign) : Bool :=
  match sign with
  | .negative => true
  | .positive => false

/-- The exact value, when it is an integer. -/
def whole? (x : Float) : Option Int :=
  match x.toModel.unpack with
  | .zero _ => some 0
  | .finite sign m e _ =>
    if 0 ≤ e then some (sign.apply (m * 2 ^ e.toNat))
    else if m % 2 ^ (-e).toNat = 0 then some (sign.apply (m / 2 ^ (-e).toNat : Nat))
    else none
  | _ => none

/-- The greatest integer at most `x`; zeros, infinities and NaN stay as they are. -/
def floor (x : Float) : Float :=
  match x.toModel.unpack with
  | .finite sign m e _ =>
    if 0 ≤ e then x else Float.ofInt (Int.fdiv (sign.apply m) (2 ^ (-e).toNat : Nat))
  | _ => x

/-- The integer nearest to `x`, a half going away from zero. -/
def roundAway (x : Float) : Float :=
  match x.toModel.unpack with
  | .finite sign m e _ =>
    if 0 ≤ e then x
    else
      let unit := 2 ^ (-e).toNat
      ofDyadic sign ((2 * m + unit) / (2 * unit)) 0
  | _ => x

/-- What is left of `x` after taking away `y` as often as its size allows; it has the sign of
`x`. -/
def remainder (x y : Float) : Float :=
  match x.toModel.unpack, y.toModel.unpack with
  | .notANumber, _ | _, .notANumber | .infinity _, _ | _, .zero _ => notANumber
  | .zero _, _ | _, .infinity _ => x
  | .finite sign m e _, .finite _ m' e' _ =>
    let low := min e e'
    ofDyadic sign ((m * 2 ^ (e - low).toNat) % (m' * 2 ^ (e' - low).toNat)) low

/-- The powers of ten, by repeated squaring of doubles. -/
def powerOfTen (n : Nat) : Float :=
  let rec go (fuel n : Nat) (base product : Float) : Float :=
    match fuel with
    | 0 => product
    | fuel + 1 =>
      let product := if n % 2 = 1 then product * base else product
      if n / 2 = 0 then product else go fuel (n / 2) (base * base) product
  go n n 10.0 1.0

end Cohort.Number
