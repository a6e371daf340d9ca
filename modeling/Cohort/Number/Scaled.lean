import Cohort.Number.Binary
import Cohort.Number.Narrow

/-! Decimal arithmetic on integers of 96 bits with up to 28 places. -/
namespace Cohort.Number
open Float.Model (UnpackedFloat)
open scoped Cohort.Number.Power

/-- The number `mantissa / 10 ^ scale`. -/
structure Scaled where
  mantissa : Int
  scale : Nat
  deriving DecidableEq, Repr

namespace Scaled

/-- The sizes of mantissas lie below this bound. -/
def bound : Nat := 2 ^ (96 : Nat)

def maxScale : Nat := 28

/-- Numbers `mantissa * 10 ^ exponent` on the way to a scaled decimal. -/
structure Partial where
  mantissa : Nat
  exponent : Int

/-- Turns `mantissa * 2 ^ -halvings` into a power of ten: every halving is a division by two, or a
multiplication by five and a division by ten. The multiplication is used only where the division
would lose a digit and there is room for it. -/
def halve : Nat → Partial → Partial
  | 0, p => p
  | halvings + 1, p =>
    if p.mantissa % 2 ≠ 0 ∧ p.mantissa * 5 < bound then
      halve halvings ⟨p.mantissa * 5, p.exponent - 1⟩
    else halve halvings ⟨p.mantissa / 2, p.exponent⟩

/-- Turns `mantissa * 2 ^ doublings` into a power of ten: every doubling is a multiplication by two
while there is room for it, and otherwise a division by five and a multiplication by ten. -/
def double : Nat → Partial → Partial
  | 0, p => p
  | doublings + 1, p =>
    if p.mantissa * 2 < bound then double doublings ⟨p.mantissa * 2, p.exponent⟩
    else double doublings ⟨p.mantissa / 5, p.exponent + 1⟩

/-- Takes powers of ten into the mantissa, when there is room for all of them. -/
def raise? : Nat → Partial → Option Partial
  | 0, p => some p
  | fuel + 1, p =>
    if p.exponent ≤ 0 then some p
    else if p.mantissa * 10 < bound then raise? fuel ⟨p.mantissa * 10, p.exponent - 1⟩
    else none

/-- One digit less, a half rounding up. -/
def Partial.dropDigit (p : Partial) : Partial :=
  ⟨p.mantissa / 10 + (if 5 ≤ p.mantissa % 10 then 1 else 0), p.exponent + 1⟩

/-- Drops digits until there are at most 28 places. A mantissa that vanishes is zero. -/
def limitPlaces : Nat → Partial → Partial
  | 0, p => p
  | fuel + 1, p =>
    if -28 ≤ p.exponent then p
    else if p.mantissa / 10 = 0 then ⟨0, 0⟩
    else limitPlaces fuel p.dropDigit

/-- Drops places until the mantissa has no more than 52 bits, which is what a double tells
reliably. -/
def limitDigits : Nat → Partial → Partial
  | 0, p => p
  | fuel + 1, p =>
    if p.exponent < 0 ∧ 2 ^ (52 : Nat) ≤ p.mantissa then limitDigits fuel p.dropDigit else p

/-- Drops places that hold zeros. -/
def dropZeros : Nat → Partial → Partial
  | 0, p => p
  | fuel + 1, p =>
    if p.exponent < 0 ∧ p.mantissa % 10 = 0 then
      dropZeros fuel ⟨p.mantissa / 10, p.exponent + 1⟩
    else p

/-- The decimal with about sixteen digits that a finite double stands for, when it is not too
large. -/
def ofFloat? (x : Float) : Option Scaled :=
  match x.toModel.unpack with
  | .zero _ => some ⟨0, 0⟩
  | .finite sign m e _ =>
    let p := if e < 0 then halve (-e).toNat ⟨m, 0⟩ else double e.toNat ⟨m, 0⟩
    (raise? 400 p).map fun p =>
      let p := dropZeros 30 (limitDigits 30 (limitPlaces 1100 p))
      ⟨sign.apply p.mantissa, (-p.exponent).toNat⟩
  | _ => none

/-- The integer nearest to `n / d`, a half going to the even neighbour. -/
def roundEven (n : Int) (d : Nat) : Int :=
  let q := n.natAbs / d
  let r := n.natAbs % d
  let rounded := if d < 2 * r ∨ (d = 2 * r ∧ q % 2 = 1) then q + 1 else q
  if n < 0 then -rounded else rounded

/-- The number `n / d / 10 ^ scale` at the greatest scale, at most `scale`, that leaves room for its
digits; `none` when even its whole part has too many. -/
def fit? (n : Int) (d : Nat) : Nat → Option Scaled
  | 0 => if (roundEven n d).natAbs < bound then some ⟨roundEven n d, 0⟩ else none
  | scale + 1 =>
    if scale + 1 ≤ maxScale ∧ (roundEven n d).natAbs < bound then some ⟨roundEven n d, scale + 1⟩
    else fit? n (10 * d) scale

/-- Both mantissas at the greater of the two scales. -/
def align (a b : Scaled) : Int × Int × Nat :=
  let scale := max a.scale b.scale
  (a.mantissa * 10 ^ (scale - a.scale), b.mantissa * 10 ^ (scale - b.scale), scale)

def add? (a b : Scaled) : Option Scaled :=
  let (m, n, scale) := align a b
  fit? (m + n) 1 scale

def sub? (a b : Scaled) : Option Scaled :=
  let (m, n, scale) := align a b
  fit? (m - n) 1 scale

def mul? (a b : Scaled) : Option Scaled := fit? (a.mantissa * b.mantissa) 1 (a.scale + b.scale)

/-- A division on its way: the digits of the quotient so far, what is left of the dividend, and the
scale, which is negative as long as whole digits are missing. -/
structure Quotient where
  digits : Nat
  remainder : Nat
  scale : Int

/-- How many more digits a quotient has room for, at most `most`. -/
def Quotient.room (q : Quotient) : Nat → Nat
  | 0 => 0
  | most + 1 =>
    if q.scale + (most + 1) ≤ maxScale ∧ q.digits * 10 ^ (most + 1) < bound then most + 1
    else q.room most

/-- Divides on for `count` digits. -/
def Quotient.extend (q : Quotient) (divisor count : Nat) : Quotient :=
  let dividend := q.remainder * 10 ^ count
  ⟨q.digits * 10 ^ count + dividend / divisor, dividend % divisor, q.scale + count⟩

/-- A quotient with one digit too many, rounded to the digits before it. A half goes up if anything
else is left over, and to the even neighbour otherwise. -/
def Quotient.dropDigit? (q : Quotient) (isInexact : Bool) : Option Quotient :=
  let digits := q.digits / 10
  let last := q.digits % 10
  let up := 5 < last ∨ (last = 5 ∧ (isInexact ∨ digits % 2 = 1))
  if q.scale ≤ 0 then none
  else some ⟨if up then digits + 1 else digits, 0, q.scale - 1⟩

/-- A quotient that has no room for more digits, rounded to the digits it has. -/
def Quotient.round? (q : Quotient) (divisor : Nat) : Option Quotient :=
  let up := divisor < 2 * q.remainder ∨ (divisor = 2 * q.remainder ∧ q.digits % 2 = 1)
  let rounded : Quotient := { q with digits := if up then q.digits + 1 else q.digits }
  if rounded.digits < bound then some rounded else rounded.dropDigit? true

/-- Divides on, nine digits at a time where there is room for them, until nothing is left over or
no digit can be added. -/
def Quotient.finish? (divisor : Nat) : Nat → Quotient → Option Quotient
  | 0, _ => none
  | fuel + 1, q =>
    if q.remainder = 0 then
      if 0 ≤ q.scale then some q
      else
        let next := q.extend divisor (min 9 q.scale.natAbs)
        if next.digits < bound then finish? divisor fuel next else none
    else
      let count := q.room 9
      if count < 9 ∧ q.scale + count < 0 then none
      else if count = 0 then q.round? divisor
      else
        let next := q.extend divisor count
        if next.digits < bound then finish? divisor fuel next
        else next.dropDigit? (next.remainder ≠ 0)

/-- Drops so many places, when there are as many and all of them hold zeros. -/
def dropPlaces (count : Nat) (a : Scaled) : Scaled :=
  if count ≤ a.scale ∧ a.mantissa % 10 ^ count = 0 then
    ⟨a.mantissa / 10 ^ count, a.scale - count⟩
  else a

/-- Drops places that hold zeros: eight at a time while the last 32 bits of the mantissa are zero,
and then at most seven. -/
def trim (a : Scaled) : Scaled :=
  let dropEight (a : Scaled) : Scaled :=
    if a.mantissa % 2 ^ (32 : Nat) = 0 then a.dropPlaces 8 else a
  let a := dropEight (dropEight (dropEight a))
  ((a.dropPlaces 4).dropPlaces 2).dropPlaces 1

/-- The quotient to as many places as there is room for, at most 28. -/
def div? (a b : Scaled) : Option Scaled :=
  if b.mantissa = 0 then none
  else
    let m := a.mantissa.natAbs
    let n := b.mantissa.natAbs
    (Quotient.finish? n 60 ⟨m / n, m % n, a.scale - b.scale⟩).map fun q =>
      let digits : Int := q.digits
      let isNegative := decide (a.mantissa < 0) != decide (b.mantissa < 0)
      trim ⟨if isNegative then -digits else digits, q.scale.toNat⟩

/-- What is left of `a` after taking away `b` as often as its size allows. -/
def rem? (a b : Scaled) : Option Scaled :=
  if b.mantissa = 0 then none
  else
    let (m, n, scale) := align a b
    some ⟨m.tmod n, scale⟩

/-- The integer it is, when its places hold nothing. -/
def whole? (a : Scaled) : Option Int :=
  if a.mantissa % 10 ^ a.scale = 0 then some (a.mantissa / 10 ^ a.scale) else none

/-- A double near to the number. Whole part and fraction are turned into doubles apart, and their
sum is rounded to the places that the decimal has. -/
def toFloat (a : Scaled) : Float :=
  if a.scale = 0 then Float.ofInt a.mantissa
  else
    let unit := 10 ^ a.scale
    let size := a.mantissa.natAbs
    let whole := Float.ofNat (size / unit)
    let fraction := Float.ofNat (size % unit) / Float.ofNat unit
    let result :=
      if fraction == 0.0 then whole
      else
        let power := powerOfTen a.scale
        roundAway ((whole + fraction) * power) / power
    if a.mantissa < 0 then -result else result

end Scaled

end Cohort.Number
