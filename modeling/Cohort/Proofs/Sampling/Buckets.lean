import Cohort.Proofs.Number.Arithmetic
import Cohort.Proofs.Sampling.Rates
import Mathlib

/-!
Samples by bucket. The buckets cut the key space, less its last point, into intervals without gaps
or overlaps, for every total of a word. A sample of consecutive buckets contains a hash just when
its bucket is among those chosen, and these are among the ones asked for.
-/
namespace Cohort.Sampling
open Number

section Start
variable {j k total : ℤ}

lemma one_le_rounded {x : ℚ} (hx : 1 ≤ x) : 1 ≤ rounded x := by
  have hone := rounded_two_zpow (show -1022 ≤ (0 : ℤ) by decide)
  rw [zpow_zero] at hone
  exact hone.ge.trans (rounded_mono one_pos hx)

lemma rounded_le_two_zpow {x : ℚ} (hx : 0 < x) (hle : x ≤ 2 ^ (63 : ℤ)) :
    rounded x ≤ 2 ^ (63 : ℤ) :=
  (rounded_mono hx hle).trans_eq (rounded_two_zpow (by decide))

/-- A bucket begins at the rounded quotient of its rounded number and the rounded total. -/
theorem exact_bucketStart (hk : 0 < k) (hle : k ≤ total) (hlt : total < 2 ^ 63) :
    (bucketStart k total).isFinite = true ∧
      exact (bucketStart k total) = rounded (rounded k / rounded total) := by
  have hk₁ : (1 : ℚ) ≤ k := by exact_mod_cast hk
  have hkt : (k : ℚ) ≤ total := by exact_mod_cast hle
  have htop : (total : ℚ) ≤ 2 ^ (63 : ℤ) := by exact_mod_cast hlt.le
  have hk₀ : (0 : ℚ) < k := one_pos.trans_le hk₁
  have hnum := one_le_rounded hk₁
  have hmono := rounded_mono hk₀ hkt
  have hden := rounded_le_two_zpow (hk₀.trans_le hkt) htop
  obtain ⟨-, hx⟩ :=
    (nearest_ofInteger hk).exact_eq (lastPlace_le_of_le_two_zpow hk₀ (hkt.trans htop))
  obtain ⟨-, hy⟩ :=
    (nearest_ofInteger (hk.trans_le hle)).exact_eq
      (lastPlace_le_of_le_two_zpow (hk₀.trans_le hkt) htop)
  have hpos : 0 < rounded k := one_pos.trans_le hnum
  have hpos' : 0 < rounded total := hpos.trans_le hmono
  have hone : rounded k / rounded total ≤ 1 := (div_le_one hpos').mpr hmono
  have hquot := nearest_div (hpos.trans_eq hx.symm) (hpos'.trans_eq hy.symm)
  rw [hx, hy] at hquot
  exact hquot.exact_eq (lastPlace_le_of_le_two_zpow (by positivity) (hone.trans (by norm_num)))

lemma ofInteger_zero : ofInteger 0 = .ofModel (Float.Model.pack (.zero .positive)) := by rfl

theorem exact_bucketStart_zero (htotal : 0 < total) (hlt : total < 2 ^ 63) :
    (bucketStart 0 total).isFinite = true ∧ exact (bucketStart 0 total) = 0 := by
  have htop : (total : ℚ) ≤ 2 ^ (63 : ℤ) := by exact_mod_cast hlt.le
  have hone : (1 : ℚ) ≤ total := by exact_mod_cast htotal
  have hpos : (0 : ℚ) < total := one_pos.trans_le hone
  obtain ⟨-, hy⟩ :=
    (nearest_ofInteger htotal).exact_eq (lastPlace_le_of_le_two_zpow hpos htop)
  obtain ⟨m, e, hm, heq, -⟩ :=
    unpackedValue_pos_iff ((one_pos.trans_le (one_le_rounded hone)).trans_eq hy.symm)
  have hzero : (Float.Model.pack (.zero .positive)).unpack = .zero .positive :=
    unpack_pack trivial rfl
  have hdiv : Float.Model.UnpackedFloat.div .binary64 (ofInteger 0).toModel.unpack
      (ofInteger total).toModel.unpack = .zero .positive := by
    rw [heq, ofInteger_zero, hzero]
    rfl
  have hbucket : bucketStart 0 total = .ofModel (Float.Model.pack (.zero .positive)) :=
    congrArg (fun u => Float.ofModel (Float.Model.pack u)) hdiv
  rw [hbucket]
  exact exact_pack trivial rfl

theorem exact_bucketStart_self (htotal : 0 < total) (hlt : total < 2 ^ 63) :
    exact (bucketStart total total) = 1 := by
  have hone : (1 : ℚ) ≤ total := by exact_mod_cast htotal
  have hpos : 0 < rounded total := one_pos.trans_le (one_le_rounded hone)
  rw [(exact_bucketStart htotal le_rfl hlt).2, div_self hpos.ne']
  have h := rounded_two_zpow (show -1022 ≤ (0 : ℤ) by decide)
  rwa [zpow_zero] at h

theorem exact_bucketStart_mono (hj : 0 ≤ j) (hjk : j ≤ k) (hle : k ≤ total) (hpos : 0 < total)
    (hlt : total < 2 ^ 63) : exact (bucketStart j total) ≤ exact (bucketStart k total) := by
  have hone {n : ℤ} (h : 0 < n) : 1 ≤ rounded n := one_le_rounded (by exact_mod_cast h)
  have hquot {n : ℤ} (h : 0 < n) : 0 < rounded n / rounded total :=
    div_pos (one_pos.trans_le (hone h)) (one_pos.trans_le (hone hpos))
  rcases hj.eq_or_lt with rfl | hj
  · rw [(exact_bucketStart_zero hpos hlt).2]
    rcases hjk.eq_or_lt with rfl | hk
    · exact (exact_bucketStart_zero hpos hlt).2.ge
    · rw [(exact_bucketStart hk hle hlt).2]
      exact mul_nonneg (Nat.cast_nonneg _) (by positivity)
  · have hk := hj.trans_le hjk
    rw [(exact_bucketStart hj (hjk.trans hle) hlt).2, (exact_bucketStart hk hle hlt).2]
    have hnum : rounded j ≤ rounded k :=
      rounded_mono (by exact_mod_cast hj) (by exact_mod_cast hjk)
    have := one_pos.trans_le (hone hpos)
    exact rounded_mono (hquot hj) (by gcongr)

end Start

/-- The point of the key space where bucket `k` of `total` begins. -/
def boundary (k total : ℤ) : ℕ := ⌊(2 ^ 256 - 1) * exact (bucketStart k total)⌋₊

section Boundary
variable {j k total : ℤ}

theorem fractionToKey_bucketStart (hk : 0 ≤ k) (hle : k ≤ total) (hpos : 0 < total)
    (hlt : total < 2 ^ 63) :
    ∃ key, fractionToKey (bucketStart k total) = .ok key ∧ key.toNat = boundary k total := by
  have hfin : (bucketStart k total).isFinite = true := by
    rcases hk.eq_or_lt with rfl | hk
    · exact (exact_bucketStart_zero hpos hlt).1
    · exact (exact_bucketStart hk hle hlt).1
  have hlow := exact_bucketStart_mono le_rfl hk hle hpos hlt
  have hhigh := exact_bucketStart_mono hk hle le_rfl hpos hlt
  rw [(exact_bucketStart_zero hpos hlt).2] at hlow
  rw [exact_bucketStart_self hpos hlt] at hhigh
  obtain ⟨key, hkey⟩ := exists_fractionToKey hfin hlow hhigh
  exact ⟨key, hkey, (fractionToKey_eq_ok_iff.mp hkey).2.2.2⟩

theorem boundary_mono (hj : 0 ≤ j) (hjk : j ≤ k) (hle : k ≤ total) (hpos : 0 < total)
    (hlt : total < 2 ^ 63) : boundary j total ≤ boundary k total :=
  Nat.floor_le_floor (mul_le_mul_of_nonneg_left (exact_bucketStart_mono hj hjk hle hpos hlt)
    (by norm_num))

theorem boundary_zero (hpos : 0 < total) (hlt : total < 2 ^ 63) : boundary 0 total = 0 := by
  rw [boundary, (exact_bucketStart_zero hpos hlt).2, mul_zero, Nat.floor_zero]

theorem boundary_self (hpos : 0 < total) (hlt : total < 2 ^ 63) :
    boundary total total = 2 ^ 256 - 1 := by
  rw [boundary, exact_bucketStart_self hpos hlt, mul_one]
  exact_mod_cast Nat.floor_natCast (R := ℚ) (2 ^ 256 - 1)

structure InBucket (hash : Key) (bucket total : ℤ) : Prop where
  nonneg : 0 ≤ bucket
  lt_total : bucket < total
  boundary_le : boundary bucket total ≤ hash.toNat
  lt_boundary : hash.toNat < boundary (bucket + 1) total

variable {hash : Key} {bucket : ℤ}

/-- Every hash but the last point of the key space is in a bucket. -/
theorem exists_inBucket (hpos : 0 < total) (hlt : total < 2 ^ 63)
    (h : hash.toNat < 2 ^ 256 - 1) : ∃ bucket, InBucket hash bucket total := by
  have hlast : hash.toNat < boundary total.toNat total := by
    rwa [Int.toNat_of_nonneg hpos.le, boundary_self hpos hlt]
  have hex : ∃ n : ℕ, hash.toNat < boundary n total := ⟨_, hlast⟩
  have hend := Nat.find_spec hex
  have hle : Nat.find hex ≤ total.toNat := Nat.find_min' hex hlast
  obtain ⟨b, hb⟩ : ∃ b, Nat.find hex = b + 1 := by
    refine Nat.exists_eq_succ_of_ne_zero fun hzero => ?_
    rw [hzero, Nat.cast_zero, boundary_zero hpos hlt] at hend
    exact Nat.not_lt_zero _ hend
  have hbegin := Nat.find_min hex (m := b) (by omega)
  rw [hb] at hend
  exact ⟨b, Int.natCast_nonneg b, by omega, not_lt.mp hbegin, by exact_mod_cast hend⟩

theorem InBucket.boundary_le_iff (h : InBucket hash bucket total) (hpos : 0 < total)
    (hlt : total < 2 ^ 63) (hk : 0 ≤ k) (hle : k ≤ total) :
    boundary k total ≤ hash.toNat ↔ k ≤ bucket := by
  obtain ⟨hnonneg, hbucket, hbegin, hend⟩ := h
  constructor
  · intro hhash
    by_contra hcon
    have := boundary_mono (j := bucket + 1) (by omega) (by omega : bucket + 1 ≤ k) hle hpos hlt
    omega
  · intro hkb
    exact (boundary_mono hk hkb hbucket.le hpos hlt).trans hbegin

theorem InBucket.unique {bucket' : ℤ} (h : InBucket hash bucket total)
    (h' : InBucket hash bucket' total) (hpos : 0 < total) (hlt : total < 2 ^ 63) :
    bucket = bucket' :=
  le_antisymm ((h'.boundary_le_iff hpos hlt h.nonneg h.lt_total.le).mp h.boundary_le)
    ((h.boundary_le_iff hpos hlt h'.nonneg h'.lt_total.le).mp h'.boundary_le)

/-- Between two boundaries there are the buckets that are numbered between them. -/
theorem betweenBuckets_eq {first last : ℤ} (hpos : 0 < total) (hlt : total < 2 ^ 63)
    (hfirst : 0 ≤ first) (hfirst' : first ≤ total) (hlast : 0 ≤ last) (hlast' : last ≤ total) :
    betweenBuckets hash first last total =
      .ok (decide (boundary first total ≤ hash.toNat ∧ hash.toNat < boundary last total)) := by
  obtain ⟨low, hlow, hlowNat⟩ := fractionToKey_bucketStart hfirst hfirst' hpos hlt
  obtain ⟨high, hhigh, hhighNat⟩ := fractionToKey_bucketStart hlast hlast' hpos hlt
  simp only [betweenBuckets, hlow, hhigh, bind, Except.bind, checkWidth_text, pure, Except.pure,
    Key.text_le_text, Key.text_lt_text, BitVec.le_def, BitVec.lt_def, hlowNat, hhighNat,
    Bool.decide_and]

theorem InBucket.betweenBuckets_eq {first last : ℤ} (h : InBucket hash bucket total)
    (hpos : 0 < total) (hlt : total < 2 ^ 63) (hfirst : 0 ≤ first) (hfirst' : first ≤ total)
    (hlast : 0 ≤ last) (hlast' : last ≤ total) :
    betweenBuckets hash first last total = .ok (decide (first ≤ bucket ∧ bucket < last)) := by
  rw [Sampling.betweenBuckets_eq hpos hlt hfirst hfirst' hlast hlast']
  simp only [← not_le, h.boundary_le_iff hpos hlt hfirst hfirst',
    h.boundary_le_iff hpos hlt hlast hlast']

/-- The last point of the key space is between no boundaries. -/
theorem betweenBuckets_allOnes {first last : ℤ} (hpos : 0 < total) (hlt : total < 2 ^ 63)
    (hfirst : 0 ≤ first) (hfirst' : first ≤ total) (hlast : 0 ≤ last) (hlast' : last ≤ total) :
    betweenBuckets (BitVec.allOnes 256) first last total = .ok false := by
  have hend := boundary_mono hlast hlast' le_rfl hpos hlt
  rw [boundary_self hpos hlt] at hend
  rw [betweenBuckets_eq hpos hlt hfirst hfirst' hlast hlast',
    decide_eq_false fun h => (hend.trans (BitVec.toNat_allOnes).ge).not_gt h.2]

end Boundary

lemma toInt_saturate {n : ℤ} (h : 0 ≤ n) : (saturate n).toInt = min n (2 ^ 63 - 1) := by
  unfold saturate
  rw [if_neg (by omega)]
  split_ifs with hbig
  · rw [min_eq_right (by omega)]
    rfl
  · rw [Int64.toInt_ofInt_of_le (by omega) (by omega), min_eq_left (by omega)]

section Circle
variable {hash : Key} {start count total : Int64}

def requested (start count total : Int64) : Set ℤ :=
  {bucket | ∃ k : ℤ, 0 ≤ k ∧ k < count.toInt ∧ bucket = (start.toInt + k) % total.toInt}

/-- Where a sample ends when the circle is unrolled from its first bucket on. -/
def unrolledEnd (start count total : Int64) : ℤ :=
  min (start.toInt % total.toInt + count.toInt) (2 ^ 63 - 1)

/-- The buckets that a sample is made of. -/
def Chosen (start count total : Int64) (bucket : ℤ) : Prop :=
  if total.toInt < unrolledEnd start count total then
    bucket < unrolledEnd start count total % total.toInt ∨ start.toInt % total.toInt ≤ bucket
  else start.toInt % total.toInt ≤ bucket ∧ bucket < unrolledEnd start count total

/-- Operations on words find whatever there is to find. -/
theorem inBuckets?_eq (hash : Key) (start count total : Int64) :
    inBuckets? hash start count total = some (inBuckets hash start count total) :=
  (Option.some_get _).symm

theorem inBuckets_of_total_nonpos (h : total.toInt ≤ 0) :
    inBuckets hash start count total = .error (.invalidBucketTotal total) := by
  have htotal : total ≤ 0 := Int64.le_iff_toInt_le.mpr h
  rw [← Option.some.injEq, ← inBuckets?_eq, inBuckets?, if_pos htotal]

theorem inBuckets_of_count_nonpos (hpos : 0 < total.toInt) (h : count.toInt ≤ 0) :
    inBuckets hash start count total = .ok false := by
  have htotal : ¬ total ≤ 0 := fun hle => (Int64.le_iff_toInt_le.mp hle).not_gt hpos
  have hcount : count ≤ 0 := Int64.le_iff_toInt_le.mpr h
  rw [← Option.some.injEq, ← inBuckets?_eq, inBuckets?, if_neg htotal, if_pos hcount]

lemma inBuckets_eq_of_pos (hpos : 0 < total.toInt) (hcount : 0 < count.toInt) :
    inBuckets hash start count total =
      if total.toInt < unrolledEnd start count total then do
        if ← betweenBuckets hash 0 (unrolledEnd start count total % total.toInt) total.toInt
        then pure true
        else betweenBuckets hash (start.toInt % total.toInt) total.toInt total.toInt
      else betweenBuckets hash (start.toInt % total.toInt) (unrolledEnd start count total)
        total.toInt := by
  have htotal : ¬ total ≤ 0 := fun hle => (Int64.le_iff_toInt_le.mp hle).not_gt hpos
  have hcount' : ¬ count ≤ 0 := fun hle => (Int64.le_iff_toInt_le.mp hle).not_gt hcount
  have htop := total.toInt_lt
  have hfirst := Int.emod_nonneg start.toInt hpos.ne'
  have hfirst' := Int.emod_lt_of_pos start.toInt hpos
  have hstart : (Int64.ofInt (start.toInt % total.toInt)).toInt = start.toInt % total.toInt :=
    Int64.toInt_ofInt_of_le (by omega) (by omega)
  have hend : (addSaturating (Int64.ofInt (start.toInt % total.toInt)) count).toInt
      = unrolledEnd start count total := by
    rw [addSaturating, hstart, toInt_saturate (add_nonneg hfirst hcount.le), unrolledEnd]
  rw [← Option.some.injEq, ← inBuckets?_eq, inBuckets?, if_neg htotal, if_neg hcount',
    remEuclid?_eq hpos]
  simp only [Option.bind_eq_bind, Option.bind_some, Int64.lt_iff_toInt_lt, hstart, hend]
  split_ifs with hwrap
  · have hnonneg : 0 ≤ unrolledEnd start count total := by omega
    have hfront := Int.emod_nonneg (unrolledEnd start count total) hpos.ne'
    have hfront' := Int.emod_lt_of_pos (unrolledEnd start count total) hpos
    rw [remainder?_eq_remEuclid? (hend ▸ hnonneg), remEuclid?_eq hpos, hend, Option.bind_some,
      Int64.toInt_ofInt_of_le (by omega) (by omega), checkWidth_text]
    rfl
  · rw [checkWidth_text]
    rfl

lemma unrolledEnd_bounds (start : Int64) (hpos : 0 < total.toInt) (hcount : 0 < count.toInt) :
    0 ≤ start.toInt % total.toInt ∧ start.toInt % total.toInt < total.toInt ∧
      0 ≤ unrolledEnd start count total := by
  have hnonneg := Int.emod_nonneg start.toInt hpos.ne'
  have hlt := Int.emod_lt_of_pos start.toInt hpos
  refine ⟨hnonneg, hlt, ?_⟩
  unfold unrolledEnd
  omega

theorem inBuckets_eq_true_iff {bucket : ℤ} (hpos : 0 < total.toInt) (hcount : 0 < count.toInt)
    (h : InBucket hash bucket total.toInt) :
    inBuckets hash start count total = .ok true ↔ Chosen start count total bucket := by
  obtain ⟨hnonneg, hlt, hend⟩ := unrolledEnd_bounds start hpos hcount
  rw [inBuckets_eq_of_pos hpos hcount, Chosen]
  split_ifs with hwrap
  · have hmod := Int.emod_nonneg (unrolledEnd start count total) hpos.ne'
    have hmod' := Int.emod_lt_of_pos (unrolledEnd start count total) hpos
    rw [h.betweenBuckets_eq hpos total.toInt_lt le_rfl hpos.le hmod hmod'.le,
      h.betweenBuckets_eq hpos total.toInt_lt hnonneg hlt.le hpos.le le_rfl]
    have := h.nonneg
    have := h.lt_total
    by_cases hfront : bucket < unrolledEnd start count total % total.toInt <;>
      simp_all [bind, Except.bind, pure, Except.pure]
  · rw [h.betweenBuckets_eq hpos total.toInt_lt hnonneg hlt.le hend (not_lt.mp hwrap)]
    simp

theorem inBuckets_allOnes (hpos : 0 < total.toInt) :
    inBuckets (BitVec.allOnes 256) start count total = .ok false := by
  by_cases hcount : 0 < count.toInt
  · obtain ⟨hnonneg, hlt, hend⟩ := unrolledEnd_bounds start hpos hcount
    rw [inBuckets_eq_of_pos hpos hcount]
    split_ifs with hwrap
    · have hmod := Int.emod_nonneg (unrolledEnd start count total) hpos.ne'
      have hmod' := Int.emod_lt_of_pos (unrolledEnd start count total) hpos
      rw [betweenBuckets_allOnes hpos total.toInt_lt le_rfl hpos.le hmod hmod'.le,
        betweenBuckets_allOnes hpos total.toInt_lt hnonneg hlt.le hpos.le le_rfl]
      rfl
    · exact betweenBuckets_allOnes hpos total.toInt_lt hnonneg hlt.le hend (not_lt.mp hwrap)
  · exact inBuckets_of_count_nonpos hpos (not_lt.mp hcount)

lemma mem_requested {bucket k j : ℤ} (hnonneg : 0 ≤ bucket) (hlt : bucket < total.toInt)
    (hk : 0 ≤ k) (hcount : k < count.toInt)
    (h : start.toInt % total.toInt + k = bucket + total.toInt * j) :
    bucket ∈ requested start count total := by
  refine ⟨k, hk, hcount, ?_⟩
  have hstart : start.toInt + k = bucket + total.toInt * (start.toInt / total.toInt + j) := by
    have := Int.mul_ediv_add_emod start.toInt total.toInt
    rw [mul_add]
    omega
  rw [hstart, Int.add_mul_emod_self_left, Int.emod_eq_of_lt hnonneg hlt]

/-- A sample has no bucket that it was not asked for. -/
theorem mem_requested_of_chosen {bucket : ℤ} (hpos : 0 < total.toInt) (hcount : 0 < count.toInt)
    (hnonneg : 0 ≤ bucket) (hlt : bucket < total.toInt) (h : Chosen start count total bucket) :
    bucket ∈ requested start count total := by
  obtain ⟨hfirst, hfirst', hend⟩ := unrolledEnd_bounds start hpos hcount
  have hreach : unrolledEnd start count total ≤ start.toInt % total.toInt + count.toInt :=
    min_le_left _ _
  have hahead (hle : start.toInt % total.toInt ≤ bucket)
      (hend : bucket < start.toInt % total.toInt + count.toInt) :
      bucket ∈ requested start count total :=
    mem_requested (j := 0) hnonneg hlt (sub_nonneg.mpr hle) (by omega) (by omega)
  unfold Chosen at h
  split_ifs at h with hwrap
  · rcases h with hfront | hback
    · by_cases hbehind : start.toInt % total.toInt ≤ bucket
      · exact hahead hbehind (by omega)
      · have haround : start.toInt % total.toInt +
            (bucket - start.toInt % total.toInt + total.toInt) = bucket + total.toInt * 1 := by ring
        refine mem_requested hnonneg hlt (by omega) ?_ haround
        by_cases hwhole : total.toInt ≤ count.toInt
        · omega
        · have hmod : unrolledEnd start count total % total.toInt
              = unrolledEnd start count total - total.toInt := by
            rw [← Int.sub_emod_right, Int.emod_eq_of_lt (by omega) (by omega)]
          omega
    · exact hahead hback (by omega)
  · exact hahead h.1 (by omega)

theorem exists_inBucket_of_ne_allOnes (hpos : 0 < total.toInt) (h : hash ≠ BitVec.allOnes 256) :
    ∃ bucket, InBucket hash bucket total.toInt := by
  refine exists_inBucket hpos total.toInt_lt ?_
  have hne : hash.toNat ≠ (BitVec.allOnes 256).toNat := fun heq => h (BitVec.eq_of_toNat_eq heq)
  have hlt := hash.isLt
  rw [BitVec.toNat_allOnes] at hne
  omega

/-- A hash in a sample is in one of the buckets that the sample asks for. -/
theorem exists_mem_requested (h : inBuckets hash start count total = .ok true) :
    ∃ bucket ∈ requested start count total, InBucket hash bucket total.toInt := by
  have hpos : 0 < total.toInt := by
    by_contra hcon
    rw [inBuckets_of_total_nonpos (not_lt.mp hcon)] at h
    cases h
  have hcount : 0 < count.toInt := by
    by_contra hcon
    rw [inBuckets_of_count_nonpos hpos (not_lt.mp hcon)] at h
    cases h
  have hne : hash ≠ BitVec.allOnes 256 := by
    rintro rfl
    rw [inBuckets_allOnes hpos] at h
    cases h
  obtain ⟨bucket, hbucket⟩ := exists_inBucket_of_ne_allOnes hpos hne
  have hchosen := (inBuckets_eq_true_iff hpos hcount hbucket).mp h
  exact ⟨bucket, mem_requested_of_chosen hpos hcount hbucket.nonneg hbucket.lt_total hchosen,
    hbucket⟩

theorem inBuckets_one_iff {bucket : Int64} (hnonneg : 0 ≤ bucket.toInt)
    (hlt : bucket.toInt < total.toInt) :
    inBuckets hash bucket 1 total = .ok true ↔ InBucket hash bucket.toInt total.toInt := by
  have hpos := hnonneg.trans_lt hlt
  have hone : (1 : Int64).toInt = 1 := rfl
  have htop := total.toInt_lt
  constructor
  · intro h
    obtain ⟨b, ⟨k, hk, hk', rfl⟩, hbucket⟩ := exists_mem_requested h
    obtain rfl : k = 0 := by omega
    rwa [add_zero, Int.emod_eq_of_lt hnonneg hlt] at hbucket
  · intro h
    have hend : unrolledEnd bucket 1 total = bucket.toInt + 1 := by
      rw [unrolledEnd, Int.emod_eq_of_lt hnonneg hlt, hone]
      omega
    rw [inBuckets_eq_true_iff hpos (by omega) h, Chosen, hend, Int.emod_eq_of_lt hnonneg hlt,
      if_neg (by omega)]
    omega

end Circle

theorem eq_allOnes_iff {hash : Key} :
    hash = BitVec.allOnes 256 ↔ hash.text = String.ofList (List.replicate 64 'f') := by
  rw [← text_allOnes]
  exact ⟨congrArg Key.text, fun h => Key.text_injective h⟩

/-- Every value is in one bucket, the last hash apart, and samples that ask for different buckets
share no value, whatever the digest. -/
theorem bucketSampleUnder_partition (digest : List UInt8 → Key) (value : Value) {total : Int64}
    (htotal : 1 ≤ total) :
    ((hashUnder digest value).text ≠ String.ofList (List.replicate 64 'f') →
      ∃! bucket : Int64, 0 ≤ bucket ∧ bucket < total ∧
        bucketSampleUnder digest value bucket 1 total = .ok true) ∧
    ((hashUnder digest value).text = String.ofList (List.replicate 64 'f') →
      ∀ bucket : Int64, 0 ≤ bucket → bucket < total →
        bucketSampleUnder digest value bucket 1 total = .ok false) ∧
    ∀ start₁ count₁ start₂ count₂ : Int64,
      Disjoint (requested start₁ count₁ total) (requested start₂ count₂ total) →
      ¬ (bucketSampleUnder digest value start₁ count₁ total = .ok true ∧
        bucketSampleUnder digest value start₂ count₂ total = .ok true) := by
  have hpos : 0 < total.toInt := Int64.le_iff_toInt_le.mp htotal
  have htop := total.toInt_lt
  unfold bucketSampleUnder
  refine ⟨fun h => ?_, fun h bucket _ _ => ?_, fun start₁ count₁ start₂ count₂ hdisjoint => ?_⟩
  · obtain ⟨bucket, hbucket⟩ := exists_inBucket_of_ne_allOnes hpos (mt eq_allOnes_iff.mp h)
    have hnonneg := hbucket.nonneg
    have hlt := hbucket.lt_total
    have hword : (Int64.ofInt bucket).toInt = bucket :=
      Int64.toInt_ofInt_of_le (by omega) (by omega)
    refine ⟨Int64.ofInt bucket, ⟨?_, ?_, ?_⟩, ?_⟩
    · rwa [Int64.le_iff_toInt_le, hword]
    · rwa [Int64.lt_iff_toInt_lt, hword]
    · rw [inBuckets_one_iff] <;> rwa [hword]
    · rintro other ⟨hother, hother', hin⟩
      rw [Int64.le_iff_toInt_le] at hother
      rw [Int64.lt_iff_toInt_lt] at hother'
      have hin' := (inBuckets_one_iff hother hother').mp hin
      rw [← Int64.toInt_inj, hword, hin'.unique hbucket hpos htop]
  · rw [eq_allOnes_iff.mpr h, inBuckets_allOnes hpos]
  · rintro ⟨h₁, h₂⟩
    obtain ⟨bucket₁, hmem₁, hin₁⟩ := exists_mem_requested h₁
    obtain ⟨bucket₂, hmem₂, hin₂⟩ := exists_mem_requested h₂
    obtain rfl := hin₁.unique hin₂ hpos htop
    exact Set.disjoint_left.mp hdisjoint hmem₁ hmem₂

theorem bucketSampleUnder_partition_sha256 :
    (1 : Int64) ≤ 10 ∧ Disjoint (requested (-2) 3 10) (requested 1 7 10) ∧
    (∃! bucket : Int64, 0 ≤ bucket ∧ bucket < 10 ∧
      bucketSampleUnder Sha256.digest (.array [.string "test-1"]) bucket 1 10 = .ok true) ∧
    bucketSampleUnder Sha256.digest (.array [.string "test-1"]) 1 7 10 = .ok true ∧
    bucketSampleUnder Sha256.digest (.array [.string "test-1"]) (-2) 3 10 ≠ .ok true := by
  have htotal : (1 : Int64) ≤ 10 := by decide
  have hdisjoint : Disjoint (requested (-2) 3 10) (requested 1 7 10) := by
    rw [Set.disjoint_left]
    rintro _ ⟨j, hj, hj', rfl⟩ ⟨k, hk, hk', h⟩
    change j < 3 at hj'
    change k < 7 at hk'
    change (-2 + j) % 10 = (1 + k) % 10 at h
    omega
  have hin : bucketSampleUnder Sha256.digest (.array [.string "test-1"]) 1 7 10 = .ok true :=
    eq_ok_of_toOption (by decide +kernel)
  have hlast : (hashUnder Sha256.digest (.array [.string "test-1"])).text ≠
      String.ofList (List.replicate 64 'f') := by decide +kernel
  have h := bucketSampleUnder_partition Sha256.digest (.array [.string "test-1"]) htotal
  exact ⟨htotal, hdisjoint, h.1 hlast, hin, fun hother => h.2.2 _ _ _ _ hdisjoint ⟨hother, hin⟩⟩

end Cohort.Sampling
