import Cohort.Proofs.Number.Order
import Cohort.Proofs.Number.Reading
import Mathlib

/-!
Integers as doubles. An integer becomes the double nearest to it. Below `2 ^ 53` that is the integer
itself, and beyond it the double is at least as great as that power.
-/
namespace Cohort.Number
open Float.Model (UnpackedFloat)
open Float.Model.UnpackedFloat (Sign)

/-- The exact value of a finite double is a whole number just when it is read as one. -/
theorem whole?_eq_some_iff {x : Float} (hx : x.isFinite = true) {n : ℤ} :
    whole? x = some n ↔ exact x = n := by
  refine ⟨exact_of_whole?, fun h => ?_⟩
  obtain hnone | ⟨k, hk⟩ := (whole? x).eq_none_or_eq_some
  · exfalso
    unfold whole? at hnone
    unfold exact at h
    change x.toModel.unpack.isFinite = true at hx
    split at hnone
    next => cases hnone
    next sign m e hm hunpack =>
      rw [hunpack, unpackedValue] at h
      split_ifs at hnone with he hdvd
      obtain ⟨k, rfl⟩ : ∃ k : ℕ, e = -k := ⟨(-e).toNat, by omega⟩
      rw [neg_neg, Int.toNat_natCast] at hdvd
      rw [zpow_neg, zpow_natCast, ← div_eq_mul_inv, div_eq_iff (by positivity)] at h
      have hsigned : sign.apply m = n * 2 ^ k := by exact_mod_cast h
      have hdiv : ((2 ^ k : ℕ) : ℤ) ∣ m := by
        have hsigned' : ((2 ^ k : ℕ) : ℤ) ∣ sign.apply m := ⟨n, by rw [hsigned]; push_cast; ring⟩
        cases sign with
        | positive => exact hsigned'
        | negative => exact (dvd_neg.mp hsigned')
      exact hdvd (Nat.mod_eq_zero_of_dvd (Int.natCast_dvd_natCast.mp hdiv))
    next hzero hfinite =>
      generalize x.toModel.unpack = u at *
      cases u with
      | infinity | notANumber => cases hx
      | zero sign => exact hzero sign rfl
      | finite sign m e hm => exact hfinite sign m e hm rfl
  · rw [hk, Option.some.injEq]
    exact_mod_cast (exact_of_whole? hk).symm.trans h

theorem isFinite_of_whole? {x : Float} {n : ℤ} (h : whole? x = some n) : x.isFinite = true := by
  change x.toModel.unpack.isFinite = true
  unfold whole? at h
  split at h
  next hzero =>
    rw [hzero]
    rfl
  next hfinite =>
    rw [hfinite]
    rfl
  next => cases h

section Nearest
variable {n : ℤ}

theorem nearest_ofNat {k : ℕ} (hk : 0 < k) : Nearest false k (Float.ofNat k) := by
  have h := nearest_ofScientific_false (k := 0) hk (by decide)
  rwa [pow_zero, mul_one] at h

theorem nearest_ofInt (hn : n ≠ 0) : Nearest (decide (n < 0)) n.natAbs (Float.ofInt n) := by
  cases n with
  | ofNat k =>
    have hsign : decide (Int.ofNat k < 0) = false := by simp
    rw [hsign]
    exact nearest_ofNat (Nat.pos_of_ne_zero (by simpa using hn))
  | negSucc k =>
    rw [decide_eq_true (Int.negSucc_lt_zero k)]
    exact (nearest_ofNat k.succ_pos).neg

lemma rounded_lt_of_le {k : ℕ} (hk : 0 < k) (h : k ≤ 2 ^ 63) : rounded k < 2 ^ (1024 : ℤ) :=
  rounded_lt_of_lastPlace_le
    (lastPlace_le_of_le_two_zpow (Nat.cast_pos.mpr hk) (by exact_mod_cast h))

/-- An integer in the range of a word becomes a double of its own sign, of its size rounded. -/
theorem exact_ofInt (h : n.natAbs ≤ 2 ^ 63) :
    (Float.ofInt n).isFinite = true ∧ exact (Float.ofInt n) = n.sign * rounded n.natAbs := by
  rcases eq_or_ne n 0 with rfl | hn
  · exact ⟨by decide +kernel, by decide +kernel⟩
  · have hnearest := nearest_ofInt hn
    rw [Nearest, if_pos (rounded_lt_of_le (Int.natAbs_pos.mpr hn) h)] at hnearest
    obtain ⟨hfinite, hvalue⟩ := hnearest
    refine ⟨hfinite, hvalue.trans ?_⟩
    rcases hn.lt_or_gt with hneg | hpos
    · rw [decide_eq_true hneg, if_pos rfl, Int.sign_eq_neg_one_of_neg hneg]
      push_cast
      ring
    · rw [decide_eq_false hpos.not_gt, Int.sign_eq_one_of_pos hpos]
      simp

/-- Below `2 ^ 53` nothing is rounded. -/
theorem exact_ofInt_of_lt (h : n.natAbs < 2 ^ 53) :
    (Float.ofInt n).isFinite = true ∧ exact (Float.ofInt n) = n := by
  obtain ⟨hfinite, hvalue⟩ := exact_ofInt (n := n) (by omega)
  refine ⟨hfinite, hvalue.trans ?_⟩
  rcases eq_or_ne n 0 with rfl | hn
  · simp
  · have hsize : (n.sign : ℚ) * ((n.natAbs : ℤ) : ℚ) = n := by
      exact_mod_cast Int.sign_mul_natAbs n
    rw [rounded_natCast (Int.natAbs_pos.mpr hn) h]
    exact hsize

/-- From `2 ^ 53` on the double is no closer to zero than that. -/
theorem two_pow_le_abs_exact_ofInt (h : 2 ^ 53 ≤ n.natAbs) (h' : n.natAbs ≤ 2 ^ 63) :
    2 ^ 53 ≤ |exact (Float.ofInt n)| := by
  have hn : n ≠ 0 := by
    rintro rfl
    simp at h
  have hpower : rounded (2 ^ (53 : ℤ)) ≤ rounded n.natAbs :=
    rounded_mono (by positivity) (by exact_mod_cast h)
  rw [rounded_two_zpow (by decide)] at hpower
  have hsign : |(n.sign : ℚ)| = 1 := by
    rcases hn.lt_or_gt with hneg | hpos
    · rw [Int.sign_eq_neg_one_of_neg hneg]
      simp
    · rw [Int.sign_eq_one_of_pos hpos]
      simp
  rw [(exact_ofInt h').2, abs_mul, hsign, one_mul]
  exact (by exact_mod_cast hpower : (2 : ℚ) ^ 53 ≤ rounded n.natAbs).trans (le_abs_self _)

theorem exact_ofInt_mul_pos (h : 2 ^ 53 ≤ n.natAbs) (h' : n.natAbs ≤ 2 ^ 63) :
    0 < exact (Float.ofInt n) * n := by
  have hsize := two_pow_le_abs_exact_ofInt h h'
  have hsigned : (n.sign : ℚ) * n = ((n.natAbs : ℤ) : ℚ) := by
    rw [Int.natCast_natAbs, ← Int.sign_mul_self_eq_abs]
    push_cast
    rfl
  have hn : (0 : ℚ) < ((n.natAbs : ℤ) : ℚ) := by
    have : 0 < n.natAbs := by omega
    exact_mod_cast this
  have hrounded : 0 ≤ rounded n.natAbs := by
    unfold rounded
    positivity
  rw [(exact_ofInt h').2] at hsize ⊢
  have hne : rounded n.natAbs ≠ 0 := by
    intro hzero
    rw [hzero, mul_zero, abs_zero] at hsize
    norm_num at hsize
  rw [mul_right_comm, hsigned]
  exact mul_pos hn (lt_of_le_of_ne hrounded hne.symm)

end Nearest

theorem Nearest.exact_eq_of_isFinite {negative : Bool} {q : ℚ} {x : Float}
    (h : Nearest negative q x) (hx : x.isFinite = true) :
    exact x = if negative then -rounded q else rounded q := by
  unfold Nearest at h
  split at h
  next => exact h.2
  next =>
    have hinfinite : (infinity (if negative then .negative else .positive)).isFinite = false := by
      cases negative <;> rfl
    rw [h, hinfinite] at hx
    cases hx

/-- From `2 ^ 52` on all doubles are integers, so what is rounded beyond the words is an integer
beyond them, or the power of two they end at. -/
theorem exists_rounded_eq {k : ℕ} (h : 2 ^ 63 ≤ k) : ∃ m : ℕ, rounded k = m ∧ 2 ^ 63 ≤ m := by
  have hk : (2 ^ 63 : ℤ) ≤ k := by exact_mod_cast h
  have hk' : (2 : ℚ) ^ (63 : ℤ) ≤ k := by exact_mod_cast h
  have hpos : (0 : ℚ) < k := lt_of_lt_of_le (by positivity) hk'
  have hlog : 63 ≤ Int.log 2 (k : ℚ) := (Int.zpow_le_iff_le_log one_lt_two hpos).mp hk'
  have hplace : 0 ≤ lastPlace (k : ℚ) := by
    rw [lastPlace]
    omega
  obtain ⟨e, he⟩ := Int.eq_ofNat_of_zero_le hplace
  have hwhole : rounded k = (nearestEven (k / 2 ^ lastPlace (k : ℚ)) * 2 ^ e : ℕ) := by
    rw [rounded, he]
    push_cast
    rw [zpow_natCast]
  have hmono : rounded (2 ^ (63 : ℤ)) ≤ rounded k := rounded_mono (by positivity) hk'
  rw [rounded_two_zpow (by decide), hwhole] at hmono
  exact ⟨_, hwhole, by exact_mod_cast hmono⟩

end Cohort.Number
