import Cohort.Number.Words
import Mathlib

/-!
Integers that fit a word. A word holds each of them once, the nearest word to an integer is that
integer just when it fits, and the quotient of two words fits but for a single pair.
-/
namespace Cohort.Number

section Words
variable {n : ℤ} {w : Int64}

theorem exists_toInt_eq_iff : (∃ w : Int64, w.toInt = n) ↔ FitsWord n := by
  constructor
  · rintro ⟨w, rfl⟩
    exact fitsWord_toInt w
  · rintro ⟨hlow, hhigh⟩
    exact ⟨Int64.ofInt n, Int64.toInt_ofInt_of_le hlow hhigh⟩

theorem narrow?_eq_some_iff : narrow? n = some w ↔ w.toInt = n := by
  refine ⟨toInt_of_narrow?, ?_⟩
  rintro rfl
  exact narrow?_toInt w

theorem narrow?_eq_none_iff : narrow? n = none ↔ ¬FitsWord n := by
  rw [Option.eq_none_iff_forall_ne_some, ← exists_toInt_eq_iff, not_exists]
  simp only [ne_eq, narrow?_eq_some_iff]

theorem toInt_saturate_eq_iff : (saturate n).toInt = n ↔ FitsWord n := by
  constructor
  · intro h
    exact exists_toInt_eq_iff.mp ⟨_, h⟩
  · intro h
    obtain ⟨w, rfl⟩ := exists_toInt_eq_iff.mpr h
    rw [saturate_of_narrow? (narrow?_toInt w)]

lemma saturate_of_ge (h : 2 ^ 63 ≤ n) : saturate n = Int64.maxValue := by
  rw [saturate, if_neg (by omega), if_pos h]

lemma saturate_of_le (h : n ≤ -2 ^ 63) : saturate n = Int64.minValue := by
  rcases h.lt_or_eq with hlt | rfl
  · exact if_pos hlt
  · decide

theorem toInt_saturate_nonpos_iff : (saturate n).toInt ≤ 0 ↔ n ≤ 0 := by
  rcases lt_or_ge n (2 ^ 63) with hhigh | hhigh
  · rcases le_or_gt n (-2 ^ 63) with hlow | hlow
    · rw [saturate_of_le hlow]
      exact iff_of_true (by decide) (by omega)
    · rw [toInt_saturate_eq_iff.mpr ⟨hlow.le, hhigh⟩]
  · rw [saturate_of_ge hhigh]
    exact iff_of_false (by decide) (by omega)

end Words

section Quotients
variable {m n : ℤ}

/-- The floor of a quotient is what is left of it when it is cut off towards zero, or one less where
something is cut off below zero. -/
theorem fdiv_eq (hn : n ≠ 0) :
    m.fdiv n = if m.tmod n ≠ 0 ∧ decide (m < 0) ≠ decide (n < 0) then m.tdiv n - 1
      else m.tdiv n := by
  have hdvd : n ∣ m ↔ m.tmod n = 0 := Int.dvd_iff_tmod_eq_zero
  rw [Int.fdiv_eq_tdiv]
  by_cases hzero : m.tmod n = 0
  · simp [hdvd.mpr hzero, hzero]
  · rw [if_neg (mt hdvd.mp hzero)]
    rcases hn.lt_or_gt with hneg | hpos
    · rcases le_or_gt 0 m with hm | hm
      · simp [hzero, hneg, hm, hm.not_gt, hneg.not_ge]
      · simp [hzero, hneg, hm, hm.not_ge, hneg.not_ge, Int.sign_eq_neg_one_of_neg hneg]
    · rcases le_or_gt 0 m with hm | hm
      · simp [hm, hm.not_gt, hpos.le, hpos.not_gt]
      · simp [hzero, hm, hm.not_ge, hpos.le, hpos.not_gt, Int.sign_eq_one_of_pos hpos]

theorem fdiv_eq_floor (m n : ℤ) : m.fdiv n = ⌊(m / n : ℚ)⌋ := by
  obtain ⟨k, rfl | rfl⟩ := n.eq_nat_or_neg
  · rw [Int.fdiv_eq_ediv_of_nonneg m k.cast_nonneg, ← Rat.floor_intCast_div_natCast,
      Int.cast_natCast]
  · rw [← Int.neg_neg m, Int.neg_fdiv_neg, Int.fdiv_eq_ediv_of_nonneg _ k.cast_nonneg,
      ← Rat.floor_intCast_div_natCast, Int.neg_neg]
    push_cast
    rw [neg_div, div_neg]

variable {a b : Int64}

lemma eq_least_iff :
    a = Int64.minValue ∧ b = -1 ↔ a.toInt = -2 ^ 63 ∧ b.toInt = -1 :=
  and_congr Int64.toInt_inj.symm Int64.toInt_inj.symm

/-- The quotient that is cut off towards zero is no greater than the dividend, so it fits, unless
it is the one greatest size with the sign turned. -/
theorem fitsWord_tdiv_iff :
    FitsWord (a.toInt.tdiv b.toInt) ↔ ¬(a = Int64.minValue ∧ b = -1) := by
  have ha := fitsWord_toInt a
  rw [eq_least_iff]
  generalize a.toInt = m at *
  generalize b.toInt = n at *
  unfold FitsWord at *
  rcases lt_or_ge n.natAbs 2 with hsmall | hlarge
  · obtain rfl | rfl | rfl : n = -1 ∨ n = 0 ∨ n = 1 := by omega
    · rw [Int.tdiv_neg, Int.tdiv_one]
      omega
    · rw [Int.tdiv_zero]
      omega
    · rw [Int.tdiv_one]
      omega
  · have hsize : (m.tdiv n).natAbs = m.natAbs / n.natAbs := Int.natAbs_tdiv m n
    have hhalf : m.natAbs / n.natAbs ≤ m.natAbs / 2 := Nat.div_le_div_left hlarge (by decide)
    omega

/-- The floor of a quotient fits where the quotient does. -/
theorem fitsWord_fdiv (hb : b.toInt ≠ 0) (h : FitsWord (a.toInt.tdiv b.toInt)) :
    FitsWord (a.toInt.fdiv b.toInt) := by
  rw [fdiv_eq hb]
  split
  next hcut => exact fitsWord_tdiv_sub_one hcut.1
  next => exact h

theorem quotient?_eq_some_iff {q : Int64} (hb : b ≠ 0) :
    quotient? a b = some q ↔ q.toInt = a.toInt.tdiv b.toInt := by
  rw [quotient?_eq hb, narrow?_eq_some_iff]

theorem remainder?_eq_some_iff {r : Int64} (hb : b ≠ 0) :
    remainder? a b = some r ↔
      FitsWord (a.toInt.tdiv b.toInt) ∧ r.toInt = a.toInt.tmod b.toInt := by
  rw [remainder?, quotient?_eq hb]
  simp only [Option.bind_eq_bind, Option.bind_eq_some_iff, narrow?_eq_some_iff,
    exists_and_right, exists_toInt_eq_iff]

/-- Nothing is cut off just where the dividend is a multiple by a word. -/
theorem remainder?_eq_zero_iff (hb : b ≠ 0) :
    remainder? a b = some 0 ↔ ∃ q : Int64, a.toInt = q.toInt * b.toInt := by
  have hn := toInt_ne_zero hb
  rw [remainder?_eq_some_iff hb, Int64.toInt_zero, eq_comm, ← Int.dvd_iff_tmod_eq_zero]
  constructor
  · rintro ⟨hfits, k, hk⟩
    obtain ⟨q, hq⟩ := exists_toInt_eq_iff.mpr hfits
    rw [hk, Int.mul_tdiv_cancel_left k hn] at hq
    exact ⟨q, by rw [hk, hq, mul_comm]⟩
  · rintro ⟨q, hq⟩
    rw [hq, Int.mul_tdiv_cancel _ hn]
    exact ⟨fitsWord_toInt q, dvd_mul_left _ _⟩

end Quotients

end Cohort.Number
