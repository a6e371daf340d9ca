import Cohort.Proofs.Sampling.Buckets
import Mathlib

/-!
Runs of consecutive buckets that are no longer than the circle. Such a sample has exactly the
buckets that were asked for, so only the place of its first bucket on the circle matters, and a run
that passes the end of the key space is the rest of the circle together with a run from its
beginning.
-/
namespace Cohort.Sampling

section Run
variable {hash : Key} {start count total : Int64} {bucket : ℤ}

/-- A run of moderate size is not cut off at the end of a word. -/
lemma unrolledEnd_eq (start : Int64) (hpos : 0 < total.toInt)
    (hle : count.toInt ≤ total.toInt) (htotal : total.toInt ≤ 2 ^ 62) :
    unrolledEnd start count total = start.toInt % total.toInt + count.toInt := by
  have hlt := Int.emod_lt_of_pos start.toInt hpos
  unfold unrolledEnd
  omega

/-- The bucket that is `k` places further, at most once around the circle. -/
lemma emod_add_eq (start : ℤ) {k total : ℤ} (hpos : 0 < total) (hk : 0 ≤ k) (hle : k ≤ total) :
    (start + k) % total =
      if start % total + k < total then start % total + k else start % total + k - total := by
  have hnonneg := Int.emod_nonneg start hpos.ne'
  have hstart := Int.emod_lt_of_pos start hpos
  rw [← Int.emod_add_emod]
  split_ifs with hwrap
  · exact Int.emod_eq_of_lt (by omega) hwrap
  · rw [← Int.sub_emod_right, Int.emod_eq_of_lt (by omega) (by omega)]

/-- A sample has every bucket that it was asked for. -/
theorem chosen_of_mem_requested (hcount : 0 < count.toInt) (hle : count.toInt ≤ total.toInt)
    (htotal : total.toInt ≤ 2 ^ 62) (h : bucket ∈ requested start count total) :
    Chosen start count total bucket := by
  have hpos := hcount.trans_le hle
  have hnonneg := Int.emod_nonneg start.toInt hpos.ne'
  have hstart := Int.emod_lt_of_pos start.toInt hpos
  obtain ⟨k, hk, hlt, rfl⟩ := h
  rw [Chosen, unrolledEnd_eq start hpos hle htotal, Int.emod_add_emod,
    emod_add_eq start.toInt hpos hk (hlt.trans_le hle).le,
    emod_add_eq start.toInt hpos hcount.le hle]
  split_ifs <;> omega

theorem inBuckets_eq_true_iff_exists (hcount : 0 < count.toInt)
    (hle : count.toInt ≤ total.toInt) (htotal : total.toInt ≤ 2 ^ 62) :
    inBuckets hash start count total = .ok true ↔
      ∃ bucket ∈ requested start count total, InBucket hash bucket total.toInt := by
  refine ⟨exists_mem_requested, fun ⟨bucket, hmem, hbucket⟩ => ?_⟩
  exact (inBuckets_eq_true_iff (hcount.trans_le hle) hcount hbucket).mpr
    (chosen_of_mem_requested hcount hle htotal hmem)

theorem requested_bounds (hpos : 0 < total.toInt) (h : bucket ∈ requested start count total) :
    0 ≤ bucket ∧ bucket < total.toInt := by
  obtain ⟨k, -, -, rfl⟩ := h
  exact ⟨Int.emod_nonneg _ hpos.ne', Int.emod_lt_of_pos _ hpos⟩

/-- Bucket by bucket, a hash is compared with the keys of two fractions. -/
theorem inBucket_iff_text {total : ℤ} (hnonneg : 0 ≤ bucket) (hlt : bucket < total)
    (htop : total < 2 ^ 63) :
    InBucket hash bucket total ↔ ∃ low high,
      fractionToKey (bucketStart bucket total) = .ok low ∧
      fractionToKey (bucketStart (bucket + 1) total) = .ok high ∧
      low.text ≤ hash.text ∧ hash.text < high.text := by
  have hpos := hnonneg.trans_lt hlt
  obtain ⟨low, hlow, hlowNat⟩ := fractionToKey_bucketStart hnonneg hlt.le hpos htop
  obtain ⟨high, hhigh, hhighNat⟩ :=
    fractionToKey_bucketStart (Int.le_add_one hnonneg) hlt hpos htop
  simp only [hlow, hhigh, Except.ok.injEq, exists_and_left, exists_eq_left', Key.text_le_text,
    Key.text_lt_text, BitVec.le_def, BitVec.lt_def, hlowNat, hhighNat]
  exact ⟨fun h => ⟨h.boundary_le, h.lt_boundary⟩, fun h => ⟨hnonneg, hlt, h.1, h.2⟩⟩

/-- Only the place of the first bucket on the circle matters. -/
theorem inBuckets_congr {start' : Int64}
    (h : start'.toInt % total.toInt = start.toInt % total.toInt) :
    inBuckets hash start' count total = inBuckets hash start count total := by
  rcases le_or_gt total.toInt 0 with htotal | htotal
  · rw [inBuckets_of_total_nonpos htotal, inBuckets_of_total_nonpos htotal]
  rcases le_or_gt count.toInt 0 with hcount | hcount
  · rw [inBuckets_of_count_nonpos htotal hcount, inBuckets_of_count_nonpos htotal hcount]
  · have hend : unrolledEnd start' count total = unrolledEnd start count total := by
      rw [unrolledEnd, h, unrolledEnd]
    rw [inBuckets_eq_of_pos htotal hcount, inBuckets_eq_of_pos htotal hcount, hend, h]

/-- A run that passes the end of the circle goes on from its beginning. -/
theorem requested_eq_union {tail head : Int64} (hpos : 0 < total.toInt)
    (htail : tail.toInt = total.toInt - start.toInt % total.toInt)
    (hhead : head.toInt = count.toInt - tail.toInt) (hwrap : 0 ≤ head.toInt) :
    requested start count total = requested start tail total ∪ requested 0 head total := by
  have hstart := Int.emod_lt_of_pos start.toInt hpos
  have haround : (start.toInt + tail.toInt) % total.toInt = 0 := by
    rw [htail, ← Int.emod_add_emod, add_sub_cancel, Int.emod_self]
  ext bucket
  constructor
  · rintro ⟨k, hk, hlt, rfl⟩
    by_cases hbefore : k < tail.toInt
    · exact .inl ⟨k, hk, hbefore, rfl⟩
    · refine .inr ⟨k - tail.toInt, by omega, by omega, ?_⟩
      rw [← add_sub_cancel tail.toInt k, ← add_assoc, ← Int.emod_add_emod, haround]
      simp
  · rintro (⟨k, hk, hlt, rfl⟩ | ⟨k, hk, hlt, rfl⟩)
    · exact ⟨k, hk, by omega, rfl⟩
    · refine ⟨tail.toInt + k, by omega, by omega, ?_⟩
      rw [← add_assoc, ← Int.emod_add_emod (start.toInt + tail.toInt), haround]
      simp

end Run

/-- A sample of a run of buckets contains the values whose hash is between the keys of one of the
buckets in the run, whatever the digest. -/
theorem bucketSampleUnder_eq_true_iff (digest : List UInt8 → Key) (value : Value)
    {start count total : Int64} (hcount : 1 ≤ count) (hle : count ≤ total)
    (htotal : total.toInt ≤ 2 ^ 62) :
    (bucketSampleUnder digest value start count total = .ok true ↔
      ∃ k : ℤ, 0 ≤ k ∧ k < count.toInt ∧ ∃ low high,
        fractionToKey (bucketStart ((start.toInt + k) % total.toInt) total.toInt) = .ok low ∧
        fractionToKey (bucketStart ((start.toInt + k) % total.toInt + 1) total.toInt) = .ok high ∧
        low.text ≤ (hashUnder digest value).text ∧ (hashUnder digest value).text < high.text) ∧
    (∀ tail head : Int64, tail.toInt = total.toInt - start.toInt % total.toInt →
      head.toInt = count.toInt - tail.toInt → 0 < head.toInt →
      (bucketSampleUnder digest value start count total = .ok true ↔
        bucketSampleUnder digest value start tail total = .ok true ∨
          bucketSampleUnder digest value 0 head total = .ok true)) ∧
    ∀ start' : Int64, start'.toInt % total.toInt = start.toInt % total.toInt →
      bucketSampleUnder digest value start' count total
        = bucketSampleUnder digest value start count total := by
  have hcount' : 0 < count.toInt := Int64.le_iff_toInt_le.mp hcount
  have hle' : count.toInt ≤ total.toInt := Int64.le_iff_toInt_le.mp hle
  have hpos := hcount'.trans_le hle'
  unfold bucketSampleUnder
  refine ⟨?run, fun tail head htail hhead hwrap => ?union, fun start' h => inBuckets_congr h⟩
  case run =>
    rw [inBuckets_eq_true_iff_exists hcount' hle' htotal]
    constructor
    · rintro ⟨_, ⟨k, hk, hlt, rfl⟩, hbucket⟩
      refine ⟨k, hk, hlt, ?_⟩
      exact (inBucket_iff_text hbucket.nonneg hbucket.lt_total total.toInt_lt).mp hbucket
    · rintro ⟨k, hk, hlt, hkeys⟩
      have hmem : (start.toInt + k) % total.toInt ∈ requested start count total := ⟨k, hk, hlt, rfl⟩
      obtain ⟨hnonneg, hbucket⟩ := requested_bounds hpos hmem
      exact ⟨_, hmem, (inBucket_iff_text hnonneg hbucket total.toInt_lt).mpr hkeys⟩
  case union =>
    have hstart := Int.emod_nonneg start.toInt hpos.ne'
    have hstart' := Int.emod_lt_of_pos start.toInt hpos
    rw [inBuckets_eq_true_iff_exists hcount' hle' htotal,
      inBuckets_eq_true_iff_exists (by omega) (by omega) htotal,
      inBuckets_eq_true_iff_exists hwrap (by omega) htotal,
      requested_eq_union hpos htail hhead hwrap.le]
    simp only [Set.mem_union, or_and_right, exists_or]

/-- A run of five buckets that begins with the last two. -/
theorem bucketSampleUnder_eq_true_iff_sha256 :
    let value : Value := .array [.string "test-1"]
    (1 : Int64) ≤ 5 ∧ (5 : Int64) ≤ 10 ∧ (10 : Int64).toInt ≤ 2 ^ 62 ∧
      bucketSampleUnder Sha256.digest value (-2) 5 10 = .ok true ∧
      (∃ k : ℤ, 0 ≤ k ∧ k < 5 ∧ ∃ low high,
        fractionToKey (bucketStart ((-2 + k) % 10) 10) = .ok low ∧
        fractionToKey (bucketStart ((-2 + k) % 10 + 1) 10) = .ok high ∧
        low.text ≤ (hashUnder Sha256.digest value).text ∧
        (hashUnder Sha256.digest value).text < high.text) ∧
      (bucketSampleUnder Sha256.digest value (-2) 2 10 = .ok true ∨
        bucketSampleUnder Sha256.digest value 0 3 10 = .ok true) ∧
      bucketSampleUnder Sha256.digest value 8 5 10 = .ok true := by
  intro value
  have hcount : (1 : Int64) ≤ 5 := by decide
  have hle : (5 : Int64) ≤ 10 := by decide
  have htotal : (10 : Int64).toInt ≤ 2 ^ 62 := by decide
  have hrun : bucketSampleUnder Sha256.digest value (-2) 5 10 = .ok true :=
    eq_ok_of_toOption (by decide +kernel)
  obtain ⟨hkeys, hunion, hplace⟩ :=
    @bucketSampleUnder_eq_true_iff Sha256.digest value (-2) 5 10 hcount hle htotal
  exact ⟨hcount, hle, htotal, hrun, hkeys.mp hrun, (hunion 2 3 rfl rfl (by decide)).mp hrun,
    (hplace 8 rfl).trans hrun⟩

end Cohort.Sampling
