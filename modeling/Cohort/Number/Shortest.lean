import Cohort.Number.Binary
import Cohort.Number.Narrow

/-! The shortest decimal digits that read back as a given double. -/
namespace Cohort.Number
open scoped Cohort.Number.Power

/-- The number `digits * 10 ^ exponent`. -/
structure Decimal where
  digits : Nat
  exponent : Int
  deriving DecidableEq, Repr

/-- The same number with no zero at the end of its digits. -/
def Decimal.trim (d : Decimal) : Decimal :=
  let rec go (fuel : Nat) (d : Decimal) : Decimal :=
    match fuel with
    | 0 => d
    | fuel + 1 =>
      if d.digits ≠ 0 ∧ d.digits % 10 = 0 then go fuel ⟨d.digits / 10, d.exponent + 1⟩ else d
  go d.digits.log2 d

/-- The reals that round to one double: `value` is the double itself, and all three are counted
in the same unit. The ends belong to the interval when `closed`. -/
structure Rounding where
  low : Nat
  value : Nat
  high : Nat
  unit : Nat
  closed : Bool

/-- The interval around `m * 2 ^ e`: half a step to either side, and a quarter below a power of
two, where the steps become smaller. -/
def Rounding.around (m : Nat) (e : Int) : Rounding :=
  let scale := 2 ^ e.toNat
  let below := if m = 2 ^ (52 : Nat) ∧ -1074 < e then 1 else 2
  { low := (4 * m - below) * scale
    value := 4 * m * scale
    high := (4 * m + 2) * scale
    unit := 4 * 2 ^ (-e).toNat
    closed := m % 2 = 0 }

def Rounding.holds (r : Rounding) (n : Nat) : Bool :=
  if r.closed then r.low ≤ n && n ≤ r.high else r.low < n && n < r.high

/-- The interval counted in units of `10 ^ exponent`. -/
def Rounding.onGrid (r : Rounding) (exponent : Int) : Rounding :=
  let up := 10 ^ (-exponent).toNat
  { r with
    low := r.low * up
    value := r.value * up
    high := r.high * up
    unit := r.unit * 10 ^ exponent.toNat }

/-- The point of the grid `10 ^ exponent` in the interval that is nearest to its value, the even
one of two equally near. -/
def Rounding.nearest? (r : Rounding) (exponent : Int) : Option Nat :=
  let g := r.onGrid exponent
  let below := g.value / g.unit
  let above := below + 1
  match g.holds (below * g.unit), g.holds (above * g.unit) with
  | false, false => none
  | true, false => some below
  | false, true => some above
  | true, true =>
    let down := g.value - below * g.unit
    let up := above * g.unit - g.value
    if down < up then some below
    else if up < down then some above
    else some (if below % 2 = 0 then below else above)

/-- Tries grids of `count` digits and more, at most `fuel` of them, below `10 ^ magnitude`. -/
def Rounding.search (r : Rounding) (magnitude : Int) : Nat → Nat → Decimal
  | 0, count => ⟨(r.onGrid (magnitude - count)).value / (r.onGrid (magnitude - count)).unit,
      magnitude - count⟩
  | fuel + 1, count =>
    match r.nearest? (magnitude - count) with
    | some digits => ⟨digits, magnitude - count⟩
    | none => r.search magnitude fuel (count + 1)

/-- The least `k` from `start` on, among `fuel` candidates, with the value below `10 ^ k`. -/
def Rounding.magnitude (r : Rounding) : Nat → Int → Int
  | 0, k => k
  | fuel + 1, k =>
    let g := r.onGrid k
    if g.value < g.unit then k else r.magnitude fuel (k + 1)

/-- The shortest decimal that reads back as `m * 2 ^ e`, the nearest to it among these. -/
def shortest (m : Nat) (e : Int) : Decimal :=
  let r := Rounding.around m e
  let estimate := (m.log2 + e) * 30103 / 100000
  (r.search (r.magnitude 4 (estimate - 1)) 17 1).trim

end Cohort.Number
