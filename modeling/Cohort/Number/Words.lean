import Cohort.Number.Narrow

/-!
Operations on 64-bit words. One that divides by zero or whose result is no word has no value, and
whoever uses it where it would trap has to show that it has one.
-/
namespace Cohort.Number
open scoped Cohort.Number.Power

/-- An integer in the range of a word. -/
def FitsWord (n : Int) : Prop := -2 ^ (63 : Nat) ≤ n ∧ n < 2 ^ (63 : Nat)

instance (n : Int) : Decidable (FitsWord n) := inferInstanceAs (Decidable (_ ∧ _))

/-- The quotient that is cut off towards zero. There is none where the divisor is zero or the
quotient is no word. -/
def quotient? (a b : Int64) : Option Int64 :=
  if b = 0 then none else narrow? (a.toInt.tdiv b.toInt)

/-- What is cut off, under the same conditions. -/
def remainder? (a b : Int64) : Option Int64 := do
  let _ ← quotient? a b
  narrow? (a.toInt.tmod b.toInt)

/-- The remainder that is not negative. There is none where the divisor is zero or the quotient is
no word. -/
def remEuclid? (a b : Int64) : Option Int64 :=
  if b = 0 then none
  else do
    let _ ← narrow? (a.toInt / b.toInt)
    narrow? (a.toInt % b.toInt)

def pred? (a : Int64) : Option Int64 := narrow? (a.toInt - 1)

/-- The word nearest to the sum of two words. -/
def addSaturating (a b : Int64) : Int64 := saturate (a.toInt + b.toInt)

/-- A word without its sign. -/
def magnitude (a : Int64) : UInt64 := if a < 0 then (-a).toUInt64 else a.toUInt64

section Fits
variable {n : Int} {w a b q r : Int64}

theorem fitsWord_toInt (w : Int64) : FitsWord w.toInt := ⟨w.le_toInt, w.toInt_lt⟩

theorem natAbs_toInt_le (w : Int64) : w.toInt.natAbs ≤ 2 ^ (63 : Nat) := by
  have h := fitsWord_toInt w
  unfold FitsWord at h
  omega

theorem narrow?_of_fitsWord (h : FitsWord n) : narrow? n = some (Int64.ofInt n) := if_pos h

theorem toInt_ofInt_of_fitsWord (h : FitsWord n) : (Int64.ofInt n).toInt = n :=
  toInt_of_narrow? (narrow?_of_fitsWord h)

theorem ne_zero_of_toInt_pos (hb : 0 < b.toInt) : b ≠ 0 := by
  rintro rfl
  exact absurd hb (by decide)

theorem toInt_ne_zero (hb : b ≠ 0) : b.toInt ≠ 0 := fun h => hb (Int64.toInt_inj.mp h)

theorem quotient?_eq (hb : b ≠ 0) : quotient? a b = narrow? (a.toInt.tdiv b.toInt) :=
  if_neg hb

theorem ne_zero_of_quotient? (h : quotient? a b = some q) : b ≠ 0 := by
  rintro rfl
  cases h

/-- What is cut off fits, as it is less than the divisor. -/
theorem fitsWord_tmod (hb : b.toInt ≠ 0) : FitsWord (a.toInt.tmod b.toInt) := by
  have hsize : (a.toInt.tmod b.toInt).natAbs = a.toInt.natAbs % b.toInt.natAbs :=
    Int.natAbs_tmod ..
  have hlt : a.toInt.natAbs % b.toInt.natAbs < b.toInt.natAbs := Nat.mod_lt _ (by omega)
  have hb' := natAbs_toInt_le b
  unfold FitsWord
  omega

theorem remainder?_eq (h : quotient? a b = some q) :
    remainder? a b = some (Int64.ofInt (a.toInt.tmod b.toInt)) := by
  rw [remainder?, h]
  exact narrow?_of_fitsWord (fitsWord_tmod (toInt_ne_zero (ne_zero_of_quotient? h)))

/-- Where something is cut off the quotient is at most half the size of a word, which leaves room
for one less. -/
theorem fitsWord_tdiv_sub_one (hcut : a.toInt.tmod b.toInt ≠ 0) :
    FitsWord (a.toInt.tdiv b.toInt - 1) := by
  have ha := natAbs_toInt_le a
  have hsize : (a.toInt.tdiv b.toInt).natAbs = a.toInt.natAbs / b.toInt.natAbs :=
    Int.natAbs_tdiv ..
  have hone : b.toInt.natAbs ≠ 1 := by
    intro hone
    have hmod : (a.toInt.tmod b.toInt).natAbs = a.toInt.natAbs % b.toInt.natAbs :=
      Int.natAbs_tmod ..
    rw [hone, Nat.mod_one] at hmod
    exact hcut (Int.natAbs_eq_zero.mp hmod)
  have hhalf : a.toInt.natAbs / b.toInt.natAbs ≤ a.toInt.natAbs / 2 := by
    rcases Nat.eq_zero_or_pos b.toInt.natAbs with hzero | hpos
    · rw [hzero, Nat.div_zero]
      exact Nat.zero_le _
    · exact Nat.div_le_div_left (by omega) (by decide)
  unfold FitsWord
  omega

/-- One can be taken away where something is cut off. -/
theorem pred?_eq (h : quotient? a b = some q) (hcut : Int64.ofInt (a.toInt.tmod b.toInt) ≠ 0) :
    pred? q = some (Int64.ofInt (a.toInt.tdiv b.toInt - 1)) := by
  have hb := ne_zero_of_quotient? h
  have hq := toInt_of_narrow? ((quotient?_eq hb).symm.trans h)
  have hcut' : a.toInt.tmod b.toInt ≠ 0 := fun hzero => hcut (congrArg Int64.ofInt hzero)
  rw [pred?, hq]
  exact narrow?_of_fitsWord (fitsWord_tdiv_sub_one hcut')

/-- A positive divisor is neither zero nor makes the quotient any greater. -/
theorem remEuclid?_eq (hb : 0 < b.toInt) :
    remEuclid? a b = some (Int64.ofInt (a.toInt % b.toInt)) := by
  have ha := natAbs_toInt_le a
  have hsize := Int.natAbs_ediv_le_natAbs a.toInt b.toInt
  have hsign : a.toInt < 0 → a.toInt / b.toInt < 0 := fun h => Int.ediv_neg_of_neg_of_pos h hb
  have ha' := a.toInt_lt
  have hb' := b.toInt_lt
  have hquotient : FitsWord (a.toInt / b.toInt) := by
    unfold FitsWord
    omega
  have hrest : FitsWord (a.toInt % b.toInt) := by
    have hnonneg := Int.emod_nonneg a.toInt (Int.ne_of_gt hb)
    have hlt := Int.emod_lt_of_pos a.toInt hb
    unfold FitsWord
    omega
  rw [remEuclid?, if_neg (ne_zero_of_toInt_pos hb), narrow?_of_fitsWord hquotient]
  exact narrow?_of_fitsWord hrest

example : remEuclid? (-7) 3 = some 2 ∧ remEuclid? Int64.minValue (-1) = none := by decide

/-- Of words that are not negative there is but one remainder. -/
theorem remainder?_eq_remEuclid? (ha : 0 ≤ a.toInt) : remainder? a b = remEuclid? a b := by
  rw [remainder?, quotient?, remEuclid?, Int.tdiv_eq_ediv_of_nonneg ha,
    Int.tmod_eq_emod_of_nonneg ha]
  split
  · rfl
  · rfl

/-- The opposite of a negative word, taken without its sign, is the size of the word, for the least
one as well. -/
theorem toNat_magnitude (a : Int64) : (magnitude a).toNat = a.toInt.natAbs := by
  have hword : a.toInt = a.toBitVec.toInt := rfl
  have hlt := a.toBitVec.isLt
  unfold magnitude
  split
  next hneg =>
    have hnat : (-a).toUInt64.toNat = (-a.toBitVec).toNat := rfl
    rw [Int64.lt_iff_toInt_lt, Int64.toInt_zero, hword, BitVec.toInt_eq_toNat_cond] at hneg
    rw [hword, hnat, BitVec.toInt_eq_toNat_cond, BitVec.toNat_neg]
    split at hneg <;> split <;> omega
  next hneg =>
    have hnonneg : 0 ≤ a.toInt := Int64.le_iff_toInt_le.mp (Int64.not_lt.mp hneg)
    rw [Int64.toNat_toUInt64_of_le (Int64.not_lt.mp hneg), Int64.toNatClampNeg]
    omega

end Fits

end Cohort.Number
