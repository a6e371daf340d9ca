import Cohort.Proofs.Sampling.Buckets
import Mathlib

/-!
Samples of the first buckets. They are the samples by rate: the first `count` of `total` buckets
contain what lies below the rate `count / total`. So a sample of first buckets only grows with its
count.
-/
namespace Cohort.Sampling
open Number

section Start
variable {j k total : ℤ}

lemma isFinite_bucketStart (hk : 0 ≤ k) (hle : k ≤ total) (hpos : 0 < total)
    (hlt : total < 2 ^ 63) : (bucketStart k total).isFinite = true := by
  obtain ⟨key, hkey, -⟩ := fractionToKey_bucketStart hk hle hpos hlt
  exact (fractionToKey_eq_ok_iff.mp hkey).1

theorem bucketStart_le_bucketStart (hj : 0 ≤ j) (hjk : j ≤ k) (hle : k ≤ total) (hpos : 0 < total)
    (hlt : total < 2 ^ 63) :
    bucketStart j total ≤ bucketStart k total ∧ bucketStart k total ≤ 1.0 := by
  have hfinite := isFinite_bucketStart (hj.trans hjk) hle hpos hlt
  obtain ⟨hone, hexact⟩ := isFinite_one_and_exact
  constructor
  · rw [le_iff_exact_le_exact (isFinite_bucketStart hj (hjk.trans hle) hpos hlt) hfinite]
    exact exact_bucketStart_mono hj hjk hle hpos hlt
  · rw [le_iff_exact_le_exact hfinite hone, hexact, ← exact_bucketStart_self hpos hlt]
    exact exact_bucketStart_mono (hj.trans hjk) hle le_rfl hpos hlt

end Start

section Prefix
variable {hash : Key} {start count total : Int64}

lemma unrolledEnd_of_dvd (hstart : total.toInt ∣ start.toInt) :
    unrolledEnd start count total = count.toInt := by
  have hcount := count.toInt_lt
  rw [unrolledEnd, Int.emod_eq_zero_of_dvd hstart, zero_add, min_eq_left (by omega)]

/-- The first buckets contain a hash just when it lies below the place where they end. -/
theorem inBuckets_eq_ok_of_dvd (hpos : 0 < total.toInt) (hcount : 0 ≤ count.toInt)
    (hle : count.toInt ≤ total.toInt) (hstart : total.toInt ∣ start.toInt) :
    inBuckets hash start count total
      = .ok (decide (hash.toNat < boundary count.toInt total.toInt)) := by
  have htop := total.toInt_lt
  rcases hcount.eq_or_lt with hzero | hcount'
  · rw [inBuckets_of_count_nonpos hpos hzero.ge, ← hzero, boundary_zero hpos htop]
    simp
  · rw [inBuckets_eq_of_pos hpos hcount', unrolledEnd_of_dvd hstart, if_neg (not_lt.mpr hle),
      Int.emod_eq_zero_of_dvd hstart, betweenBuckets_eq hpos htop le_rfl hpos.le hcount hle,
      boundary_zero hpos htop]
    simp

/-- A hash is below the rate at which a bucket begins when it lies below the bucket. -/
theorem belowRate_bucketStart {k total : ℤ} (hk : 0 ≤ k) (hle : k ≤ total) (hpos : 0 < total)
    (hlt : total < 2 ^ 63) :
    belowRate hash (bucketStart k total) = .ok (decide (hash.toNat < boundary k total)) := by
  obtain ⟨key, hkey, hnumber⟩ := fractionToKey_bucketStart hk hle hpos hlt
  simp only [belowRate_eq, hkey, Except.map, BitVec.lt_def, hnumber]

end Prefix

/-- The first `count` of `total` buckets, from any bucket on whose number is a multiple of `total`,
are the sample of the rate `count / total`. With more buckets no value is lost, whatever the
digest. -/
theorem bucketSampleUnder_eq_stableSampleUnder (digest : List UInt8 → Key) (value : Value)
    {start count total : Int64} (hcount : 0 ≤ count) (hle : count ≤ total) (htotal : 1 ≤ total)
    (hstart : total.toInt ∣ start.toInt) :
    (∃ sampled, bucketSampleUnder digest value start count total = .ok sampled ∧
      stableSampleUnder digest value (ofInteger count.toInt / ofInteger total.toInt)
        = .ok sampled) ∧
    ∀ start' wide : Int64, total.toInt ∣ start'.toInt → count ≤ wide → wide ≤ total →
      bucketSampleUnder digest value start count total = .ok true →
        bucketSampleUnder digest value start' wide total = .ok true := by
  have hpos : 0 < total.toInt := Int64.le_iff_toInt_le.mp htotal
  have htop := total.toInt_lt
  replace hcount : 0 ≤ count.toInt := Int64.le_iff_toInt_le.mp hcount
  replace hle : count.toInt ≤ total.toInt := Int64.le_iff_toInt_le.mp hle
  unfold bucketSampleUnder stableSampleUnder
  constructor
  · exact ⟨_, inBuckets_eq_ok_of_dvd hpos hcount hle hstart,
      belowRate_bucketStart hcount hle hpos htop⟩
  · intro start' wide hstart' hwide hwide' h
    replace hwide : count.toInt ≤ wide.toInt := Int64.le_iff_toInt_le.mp hwide
    replace hwide' : wide.toInt ≤ total.toInt := Int64.le_iff_toInt_le.mp hwide'
    obtain ⟨hrates, hone⟩ := bucketStart_le_bucketStart hcount hwide hwide' hpos htop
    rw [inBuckets_eq_ok_of_dvd hpos hcount hle hstart,
      ← belowRate_bucketStart hcount hle hpos htop] at h
    rw [inBuckets_eq_ok_of_dvd hpos (hcount.trans hwide) hwide' hstart',
      ← belowRate_bucketStart (hcount.trans hwide) hwide' hpos htop]
    exact belowRate_mono hrates hone h

/-- Three of ten buckets, from a negative multiple of ten on, and then seven. -/
theorem bucketSampleUnder_eq_stableSampleUnder_sha256 :
    let value : Value := .array [.string "test-1"]
    (0 : Int64) ≤ 3 ∧ (3 : Int64) ≤ 10 ∧ (1 : Int64) ≤ 10 ∧
      (10 : Int64).toInt ∣ (-20 : Int64).toInt ∧
      bucketSampleUnder Sha256.digest value (-20) 3 10 = .ok true ∧
      stableSampleUnder Sha256.digest value (ofInteger 3 / ofInteger 10) = .ok true ∧
      bucketSampleUnder Sha256.digest value 10 7 10 = .ok true := by
  intro value
  have hcount : (0 : Int64) ≤ 3 := by decide
  have hle : (3 : Int64) ≤ 10 := by decide
  have htotal : (1 : Int64) ≤ 10 := by decide
  have hstart : (10 : Int64).toInt ∣ (-20 : Int64).toInt := by decide
  have hin : bucketSampleUnder Sha256.digest value (-20) 3 10 = .ok true :=
    eq_ok_of_toOption (by decide +kernel)
  obtain ⟨⟨sampled, hbuckets, hrate⟩, hgrows⟩ :=
    bucketSampleUnder_eq_stableSampleUnder Sha256.digest value hcount hle htotal hstart
  obtain rfl : sampled = true := Except.ok.inj (hbuckets.symm.trans hin)
  exact ⟨hcount, hle, htotal, hstart, hin, hrate,
    hgrows 10 7 (by decide) (by decide) (by decide) hin⟩

end Cohort.Sampling
