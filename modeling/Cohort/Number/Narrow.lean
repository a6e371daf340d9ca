/-! Passing between unbounded integers and 64-bit words. -/
namespace Cohort.Number

namespace Power

/-- Powers of naturals, the same whatever else is imported. -/
scoped instance (priority := high) natPow : Pow Nat Nat := ⟨Nat.pow⟩

/-- Powers of integers, the same whatever else is imported. -/
scoped instance (priority := high) intPow : Pow Int Nat := ⟨Int.pow⟩

end Power

open scoped Cohort.Number.Power

/-- The word that holds `n`, when `n` fits. -/
def narrow? (n : Int) : Option Int64 :=
  if -2 ^ (63 : Nat) ≤ n ∧ n < 2 ^ (63 : Nat) then some (Int64.ofInt n) else none

/-- The word nearest to `n`. -/
def saturate (n : Int) : Int64 :=
  if n < -2 ^ (63 : Nat) then Int64.minValue
  else if 2 ^ (63 : Nat) ≤ n then Int64.maxValue
  else Int64.ofInt n

theorem toInt_of_narrow? {n : Int} {w : Int64} (h : narrow? n = some w) : w.toInt = n := by
  unfold narrow? at h
  split at h
  case isTrue bounds =>
    cases h
    exact Int64.toInt_ofInt_of_le (by omega) (by omega)
  case isFalse => cases h

theorem narrow?_toInt (w : Int64) : narrow? w.toInt = some w := by
  rw [narrow?, if_pos ⟨w.le_toInt, w.toInt_lt⟩, Int64.ofInt_toInt]

theorem saturate_of_narrow? {n : Int} {w : Int64} (h : narrow? n = some w) : saturate n = w := by
  unfold narrow? at h
  split at h
  case isTrue bounds =>
    cases h
    rw [saturate, if_neg (by omega), if_neg (by omega)]
  case isFalse => cases h

end Cohort.Number
