import Cohort.Proofs.Sampling.Buckets
import Mathlib

/-!
Samples of buckets whose count is raised. As long as the longer run goes around the circle at most
once, nothing in the sample is lost. A run of more buckets than there are is cut down by whole
rounds, to what is left of it before its first bucket: it may miss there what a shorter run reached.
-/
namespace Cohort.Sampling

section Widening
variable {hash : Key} {start narrow wide total : Int64} {bucket : ℤ}

/-- A bucket before the first one of a sample that the run of `narrow` buckets reaches on its way
around the circle, and the run of `wide` ones does not. -/
structure Lost (start narrow wide total : Int64) (bucket : ℤ) : Prop where
  wraps : total.toInt < unrolledEnd start narrow total
  before : bucket < start.toInt % total.toInt
  reached : bucket < unrolledEnd start narrow total % total.toInt
  missed : unrolledEnd start wide total % total.toInt ≤ bucket

lemma unrolledEnd_mono (start total : Int64) (hle : narrow ≤ wide) :
    unrolledEnd start narrow total ≤ unrolledEnd start wide total := by
  have hcounts : narrow.toInt ≤ wide.toInt := Int64.le_iff_toInt_le.mp hle
  unfold unrolledEnd
  omega

/-- When a sample is widened, the buckets that leave it are the lost ones. -/
theorem chosen_and_not_chosen_iff (hle : narrow ≤ wide) :
    Chosen start narrow total bucket ∧ ¬ Chosen start wide total bucket ↔
      Lost start narrow wide total bucket := by
  have hends := unrolledEnd_mono start total hle
  unfold Chosen
  constructor
  · intro ⟨hchosen, hnot⟩
    by_cases hwide : total.toInt < unrolledEnd start wide total
    · rw [if_pos hwide] at hnot
      push Not at hnot
      by_cases hnarrow : total.toInt < unrolledEnd start narrow total
      · rw [if_pos hnarrow] at hchosen
        exact ⟨hnarrow, hnot.2, hchosen.resolve_right (not_le.mpr hnot.2), hnot.1⟩
      · rw [if_neg hnarrow] at hchosen
        omega
    · rw [if_neg hwide] at hnot
      rw [if_neg (by omega)] at hchosen
      omega
  · intro ⟨hwraps, hbefore, hreached, hmissed⟩
    rw [if_pos hwraps, if_pos (hwraps.trans_le hends)]
    exact ⟨.inl hreached, by omega⟩

/-- Only samples of some buckets go around the circle. -/
lemma Lost.count_pos (h : Lost start narrow wide total bucket) (hpos : 0 < total.toInt) :
    0 < narrow.toInt := by
  have hwraps := h.wraps
  have hfirst := Int.emod_lt_of_pos start.toInt hpos
  unfold unrolledEnd at hwraps
  omega

/-- A run that goes around at most once loses nothing. -/
theorem not_lost_of_unrolledEnd_lt (hle : narrow ≤ wide)
    (hround : unrolledEnd start wide total < 2 * total.toInt) :
    ¬ Lost start narrow wide total bucket := by
  rintro ⟨hwraps, -, hreached, hmissed⟩
  have hends := unrolledEnd_mono start total hle
  have hmod {e : ℤ} (hlow : total.toInt < e) (hhigh : e < 2 * total.toInt) :
      e % total.toInt = e - total.toInt := by
    rw [← Int.sub_emod_right, Int.emod_eq_of_lt (by omega) (by omega)]
  rw [hmod hwraps (hends.trans_lt hround)] at hreached
  rw [hmod (hwraps.trans_le hends) hround] at hmissed
  omega

/-- Widening a sample keeps a hash in it unless its bucket is lost. -/
theorem inBuckets_widen_iff (hpos : 0 < total.toInt) (hle : narrow ≤ wide) :
    (inBuckets hash start narrow total = .ok true → inBuckets hash start wide total = .ok true) ↔
      ∀ bucket, InBucket hash bucket total.toInt → ¬ Lost start narrow wide total bucket := by
  have hcounts : narrow.toInt ≤ wide.toInt := Int64.le_iff_toInt_le.mp hle
  constructor
  · intro hkeeps bucket hbucket hlost
    have hcount := hlost.count_pos hpos
    rw [inBuckets_eq_true_iff hpos hcount hbucket,
      inBuckets_eq_true_iff hpos (hcount.trans_le hcounts) hbucket] at hkeeps
    obtain ⟨hchosen, hnot⟩ := (chosen_and_not_chosen_iff hle).mpr hlost
    exact hnot (hkeeps hchosen)
  · intro hlost hin
    have hcount : 0 < narrow.toInt := by
      by_contra hcon
      rw [inBuckets_of_count_nonpos hpos (not_lt.mp hcon)] at hin
      cases hin
    obtain ⟨bucket, -, hbucket⟩ := exists_mem_requested hin
    rw [inBuckets_eq_true_iff hpos hcount hbucket] at hin
    rw [inBuckets_eq_true_iff hpos (hcount.trans_le hcounts) hbucket]
    by_contra hnot
    exact hlost bucket hbucket ((chosen_and_not_chosen_iff hle).mp ⟨hin, hnot⟩)

end Widening

/-- Raising the count keeps a value in a sample exactly if its bucket is none of the lost ones. So
no value is lost as long as there are as many buckets as are asked for, or where the first bucket
of the sample is the first one of all. -/
theorem bucketSampleUnder_widen (digest : List UInt8 → Key) (value : Value) (start : Int64)
    {narrow wide total : Int64} (htotal : 1 ≤ total) (hle : narrow ≤ wide) :
    ((bucketSampleUnder digest value start narrow total = .ok true →
        bucketSampleUnder digest value start wide total = .ok true) ↔
      ∀ bucket, InBucket (hashUnder digest value) bucket total.toInt →
        ¬ Lost start narrow wide total bucket) ∧
    (wide ≤ total ∨ start.toInt % total.toInt = 0 →
      bucketSampleUnder digest value start narrow total = .ok true →
        bucketSampleUnder digest value start wide total = .ok true) := by
  have hpos : 0 < total.toInt := Int64.le_iff_toInt_le.mp htotal
  unfold bucketSampleUnder
  rw [inBuckets_widen_iff hpos hle]
  refine ⟨Iff.rfl, ?_⟩
  rintro (hwide | hstart) bucket hbucket
  · have hcount : wide.toInt ≤ total.toInt := Int64.le_iff_toInt_le.mp hwide
    have hfirst := Int.emod_lt_of_pos start.toInt hpos
    refine not_lost_of_unrolledEnd_lt hle ?_
    unfold unrolledEnd
    omega
  · intro hlost
    have hbefore := hlost.before
    have hnonneg := hbucket.nonneg
    omega

/-- Three buckets from the last one on, and then five. -/
theorem bucketSampleUnder_widen_sha256 :
    let value : Value := .array [.string "test-1"]
    (1 : Int64) ≤ 10 ∧ (3 : Int64) ≤ 5 ∧
      bucketSampleUnder Sha256.digest value 9 3 10 = .ok true ∧
      bucketSampleUnder Sha256.digest value 9 5 10 = .ok true := by
  intro value
  have htotal : (1 : Int64) ≤ 10 := by decide
  have hle : (3 : Int64) ≤ 5 := by decide
  have hin : bucketSampleUnder Sha256.digest value 9 3 10 = .ok true :=
    eq_ok_of_toOption (by decide +kernel)
  have hwiden := bucketSampleUnder_widen Sha256.digest value 9 htotal hle
  exact ⟨htotal, hle, hin, hwiden.2 (.inl (by decide)) hin⟩

/-- All ten buckets from the sixth one on are more than fifteen, which end before the first. -/
theorem bucketSampleUnder_loses_sha256 :
    let value : Value := .array [.string "test-1"]
    (1 : Int64) ≤ 10 ∧ (10 : Int64) ≤ 15 ∧
      bucketSampleUnder Sha256.digest value 5 10 10 = .ok true ∧
      bucketSampleUnder Sha256.digest value 5 15 10 = .ok false := by
  intro value
  exact ⟨by decide, by decide, eq_ok_of_toOption (by decide +kernel),
    eq_ok_of_toOption (by decide +kernel)⟩

end Cohort.Sampling
