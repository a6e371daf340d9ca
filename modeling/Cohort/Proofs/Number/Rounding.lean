import Cohort.Proofs.Number.Exact
import Mathlib

/-!
How doubles are rounded. Conversion of integers and division round the exact result to a nearest
double, a tie going to the even mantissa. Rounding keeps the order of numbers, so the quotient of
two integers grows with the dividend.
-/
namespace Cohort.Number

def nearestEven (x : ℚ) : ℕ :=
  if x - ⌊x⌋₊ < 1 / 2 then ⌊x⌋₊
  else if x - ⌊x⌋₊ = 1 / 2 then ⌊x⌋₊ + ⌊x⌋₊ % 2
  else ⌊x⌋₊ + 1

@[simp] theorem nearestEven_natCast (n : ℕ) : nearestEven n = n := by simp [nearestEven]

theorem nearestEven_mono {x y : ℚ} (h : x ≤ y) : nearestEven x ≤ nearestEven y := by
  have hfloor := Nat.floor_le_floor h
  unfold nearestEven
  rcases hfloor.lt_or_eq with hlt | heq
  · split_ifs <;> omega
  · rw [heq]
    have hsub : x - ⌊y⌋₊ ≤ y - ⌊y⌋₊ := by gcongr
    split_ifs <;> first | omega | grind

/-- The exponent of the last place that doubles of the size of `x` have. -/
def lastPlace (x : ℚ) : ℤ := max (Int.log 2 x - 52) (-1074)

/-- The double nearest to `x`, a tie going to the even mantissa. -/
def rounded (x : ℚ) : ℚ := nearestEven (x / 2 ^ lastPlace x) * 2 ^ lastPlace x

lemma lastPlace_mono {x y : ℚ} (hx : 0 < x) (h : x ≤ y) : lastPlace x ≤ lastPlace y := by
  have hlog := Int.log_mono_right (b := 2) hx h
  unfold lastPlace
  omega

/-- Numbers in the range of a word have their last place far below the greatest. -/
lemma lastPlace_le_of_le_two_zpow {x : ℚ} (hx : 0 < x) (h : x ≤ 2 ^ (63 : ℤ)) :
    lastPlace x ≤ 970 := by
  refine (lastPlace_mono hx h).trans ?_
  have hlog : Int.log 2 ((2 : ℚ) ^ (63 : ℤ)) = 63 := by
    exact_mod_cast Int.log_zpow (R := ℚ) one_lt_two 63
  unfold lastPlace
  omega

lemma div_lastPlace_le (x : ℚ) : x / 2 ^ lastPlace x ≤ (2 ^ 53 : ℕ) := by
  rw [div_le_iff₀ (by positivity)]
  calc x ≤ 2 ^ (Int.log 2 x + 1) := by exact_mod_cast (Int.lt_zpow_succ_log_self one_lt_two x).le
    _ ≤ 2 ^ (53 + lastPlace x) := zpow_le_zpow_right₀ one_le_two (by unfold lastPlace; omega)
    _ = (2 ^ 53 : ℕ) * 2 ^ lastPlace x := by rw [zpow_add₀ two_ne_zero]; norm_num

lemma le_div_lastPlace {x : ℚ} (hx : 0 < x) (h : -1074 < lastPlace x) :
    (2 ^ 52 : ℕ) ≤ x / 2 ^ lastPlace x := by
  rw [le_div_iff₀ (by positivity)]
  calc ((2 ^ 52 : ℕ) : ℚ) * 2 ^ lastPlace x = 2 ^ (52 + lastPlace x) := by
        rw [zpow_add₀ two_ne_zero]; norm_num
    _ ≤ 2 ^ Int.log 2 x := zpow_le_zpow_right₀ one_le_two (by unfold lastPlace at h ⊢; omega)
    _ ≤ x := by exact_mod_cast Int.zpow_log_le_self one_lt_two hx

theorem rounded_mono {x y : ℚ} (hx : 0 < x) (h : x ≤ y) : rounded x ≤ rounded y := by
  rcases (lastPlace_mono hx h).eq_or_lt with heq | hlt
  · unfold rounded
    rw [heq]
    gcongr
    exact nearestEven_mono (by gcongr)
  · have hlow : -1074 ≤ lastPlace x := le_max_right _ _
    have hxle : nearestEven (x / 2 ^ lastPlace x) ≤ 2 ^ 53 :=
      (nearestEven_mono (div_lastPlace_le x)).trans_eq (nearestEven_natCast _)
    have hley : 2 ^ 52 ≤ nearestEven (y / 2 ^ lastPlace y) :=
      (nearestEven_natCast _).ge.trans
        (nearestEven_mono (le_div_lastPlace (hx.trans_le h) (by omega)))
    have hxle' : (nearestEven (x / 2 ^ lastPlace x) : ℚ) ≤ 2 ^ (53 : ℤ) := by exact_mod_cast hxle
    have hley' : (2 : ℚ) ^ (52 : ℤ) ≤ nearestEven (y / 2 ^ lastPlace y) := by exact_mod_cast hley
    calc rounded x ≤ 2 ^ (53 : ℤ) * 2 ^ lastPlace x := by unfold rounded; gcongr
      _ = 2 ^ (53 + lastPlace x) := (zpow_add₀ two_ne_zero _ _).symm
      _ ≤ 2 ^ (52 + lastPlace y) := zpow_le_zpow_right₀ one_le_two (by omega)
      _ = 2 ^ (52 : ℤ) * 2 ^ lastPlace y := zpow_add₀ two_ne_zero _ _
      _ ≤ rounded y := by unfold rounded; gcongr

theorem rounded_two_zpow {n : ℤ} (hn : -1022 ≤ n) : rounded (2 ^ n) = 2 ^ n := by
  have hlog : Int.log 2 ((2 : ℚ) ^ n) = n := by exact_mod_cast Int.log_zpow (R := ℚ) one_lt_two n
  have hlast : lastPlace ((2 : ℚ) ^ n) = n - 52 := by unfold lastPlace; omega
  have hdiv : (2 : ℚ) ^ n / 2 ^ (n - 52) = (2 ^ 52 : ℕ) := by
    rw [← zpow_sub₀ two_ne_zero]
    norm_num
  rw [rounded, hlast, hdiv, nearestEven_natCast, ← hdiv, div_mul_cancel₀ _ (by positivity)]

end Cohort.Number
