import Cohort.Proofs.Number.Order
import Cohort.Proofs.Sampling.Buckets
import Mathlib

/-!
When a sample cannot be drawn. A rate is refused when it is a NaN or lies outside the unit interval,
and a number of buckets when it is not positive. Nothing else is ever refused, and no step of the
way overflows a word or divides by zero.
-/
namespace Cohort.Sampling
open Number

/-- What is refused for one reason only is answered wherever the reason fails. -/
lemma exists_eq_ok_iff {ε α : Type} {x : Except ε α} {reason : ε} {p : Prop}
    (h : ∀ fault, x = .error fault ↔ fault = reason ∧ p) : (∃ a, x = .ok a) ↔ ¬p := by
  cases x with
  | error fault => simp [((h fault).mp rfl).2]
  | ok a =>
    have hp : ¬p := fun hp => nomatch (h reason).mpr ⟨rfl, hp⟩
    simp [hp]

section Rate
variable {rate : Float} {hash : Key} {fault : RangeError}

def OutOfRange (rate : Float) : Prop := rate.isNaN = true ∨ rate < 0.0 ∨ 1.0 < rate

theorem outOfRange_iff :
    OutOfRange rate ↔ ¬(rate.isFinite = true ∧ 0 ≤ exact rate ∧ exact rate ≤ 1) := by
  have hzero : (0.0 : Float).isNaN = false := rfl
  have hone : (1.0 : Float).isNaN = false := rfl
  obtain ⟨hzeroFinite, hzeroExact⟩ := isFinite_zero_and_exact
  obtain ⟨honeFinite, honeExact⟩ := isFinite_one_and_exact
  have hunit := between_iff (x := rate) hzeroFinite honeFinite
  rw [hzeroExact, honeExact] at hunit
  rw [← hunit, not_and_or, not_le_iff, not_le_iff, hzero, hone, OutOfRange]
  simp only [Bool.false_eq_true, false_or]
  exact or_or_distrib_left

theorem belowRate_eq_error_iff :
    belowRate hash rate = .error fault ↔ fault = .fractionOutOfRange rate ∧ OutOfRange rate := by
  rw [outOfRange_iff, ← fractionToKey_eq_error_iff, belowRate_eq]
  cases fractionToKey rate <;> simp [Except.map]

end Rate

section Bucket
variable {hash : Key} {start count total : Int64} {fault : RangeError}

/-- Out of a positive number of buckets every sample can be drawn. -/
theorem exists_inBuckets_eq_ok (hpos : 0 < total.toInt) :
    ∃ sampled, inBuckets hash start count total = .ok sampled := by
  by_cases hcount : 0 < count.toInt
  · have htop := total.toInt_lt
    obtain ⟨hnonneg, hlt, hend⟩ := unrolledEnd_bounds start hpos hcount
    rw [inBuckets_eq_of_pos hpos hcount]
    split_ifs with hwrap
    · have hmod := Int.emod_nonneg (unrolledEnd start count total) hpos.ne'
      have hmod' := Int.emod_lt_of_pos (unrolledEnd start count total) hpos
      rw [betweenBuckets_eq hpos htop le_rfl hpos.le hmod hmod'.le,
        betweenBuckets_eq hpos htop hnonneg hlt.le hpos.le le_rfl]
      simp only [bind, Except.bind, pure, Except.pure]
      split
      · exact ⟨_, rfl⟩
      · exact ⟨_, rfl⟩
    · exact ⟨_, betweenBuckets_eq hpos htop hnonneg hlt.le hend (not_lt.mp hwrap)⟩
  · exact ⟨_, inBuckets_of_count_nonpos hpos (not_lt.mp hcount)⟩

theorem inBuckets_eq_error_iff :
    inBuckets hash start count total = .error fault ↔
      fault = .invalidBucketTotal total ∧ total ≤ 0 := by
  by_cases hpos : 0 < total.toInt
  · have hnot : ¬total ≤ 0 := fun hle => (Int64.le_iff_toInt_le.mp hle).not_gt hpos
    obtain ⟨sampled, hsampled⟩ : ∃ sampled, inBuckets hash start count total = .ok sampled :=
      exists_inBuckets_eq_ok hpos
    simp [hsampled, hnot]
  · have hle : total ≤ 0 := Int64.le_iff_toInt_le.mpr (not_lt.mp hpos)
    simp [inBuckets_of_total_nonpos (not_lt.mp hpos), hle, eq_comm]

end Bucket

/-- A sample by rate is refused just when the rate is a NaN or outside the unit interval, a sample
by buckets just when their total is not positive, whatever the digest. All else is answered: hashes
have the width that is asked for, and no word overflows or is divided by zero. -/
theorem sample_eq_error_iff (digest : List UInt8 → Key) (value : Value) :
    Key.IsText (hashUnder digest value).text ∧
    (∀ rate : Float,
      (∀ fault, stableSampleUnder digest value rate = .error fault ↔
        fault = .fractionOutOfRange rate ∧ OutOfRange rate) ∧
      ((∃ sampled, stableSampleUnder digest value rate = .ok sampled) ↔ ¬OutOfRange rate)) ∧
    ∀ start count total : Int64,
      (∀ fault, bucketSampleUnder digest value start count total = .error fault ↔
        fault = .invalidBucketTotal total ∧ total ≤ 0) ∧
      ((∃ sampled, bucketSampleUnder digest value start count total = .ok sampled) ↔
        ¬total ≤ 0) ∧
      inBuckets? (hashUnder digest value) start count total
        = some (bucketSampleUnder digest value start count total) := by
  refine ⟨Key.isText_text _, fun rate => ⟨fun fault => belowRate_eq_error_iff, ?rate⟩,
    fun start count total => ⟨fun fault => inBuckets_eq_error_iff, ?total,
      inBuckets?_eq _ start count total⟩⟩
  case rate => exact exists_eq_ok_iff fun fault => belowRate_eq_error_iff
  case total => exact exists_eq_ok_iff fun fault => inBuckets_eq_error_iff

end Cohort.Sampling
