import Cohort.Number.Binary
import Mathlib

/-! The exact value of a double as a rational number, and the order of doubles as the order of
their values. -/
namespace Cohort.Number
open Float.Model (UnpackedFloat)
open Float.Model.UnpackedFloat (Sign)

def unpackedValue : UnpackedFloat → ℚ
  | .finite sign m e _ => (sign.apply m : ℤ) * 2 ^ e
  | _ => 0

/-- The exact value of a double; zero for what is not finite. -/
def exact (x : Float) : ℚ := unpackedValue x.toModel.unpack

/-- The form in which a double is unpacked: a mantissa of 53 bits, or of fewer at the least
exponent. -/
def Canonical : UnpackedFloat → Prop
  | .finite _ m e _ => m < 2 ^ 53 ∧ -1074 ≤ e ∧ e ≤ 971 ∧ (2 ^ 52 ≤ m ∨ e = -1074)
  | _ => True

/-- Any bits are unpacked to that form. -/
theorem canonical_unpackBits (bits : BitVec 64) :
    Canonical (UnpackedFloat.unpack .binary64 bits) := by
  unfold UnpackedFloat.unpack
  set mantissa := @UnpackedFloat.unpackMantissa .binary64 bits
  set exponent := @UnpackedFloat.unpackExponent .binary64 bits
  have hm : mantissa.toNat < 2 ^ 52 := mantissa.isLt
  have he : exponent.toNat < 2 ^ 11 := exponent.isLt
  dsimp only
  split_ifs with hones hinf hmin hzero
  · trivial
  · trivial
  · trivial
  · change mantissa.toNat < 2 ^ 53 ∧ -1074 ≤ (exponent.toNat : ℤ) - 1075 + 1 ∧
      (exponent.toNat : ℤ) - 1075 + 1 ≤ 971 ∧
      (2 ^ 52 ≤ mantissa.toNat ∨ (exponent.toNat : ℤ) - 1075 + 1 = -1074)
    have h : exponent.toNat = 0 := congrArg BitVec.toNat hmin
    omega
  · have hne : exponent.toNat ≠ 0 := fun h => hmin (BitVec.eq_of_toNat_eq h)
    have hne' : exponent.toNat ≠ 2047 := fun h => hones (BitVec.eq_of_toNat_eq h)
    have happend : (1#1 ++ mantissa).toNat = 2 ^ 52 + mantissa.toNat := by
      rw [BitVec.toNat_append, ← Nat.shiftLeft_add_eq_or_of_lt hm]
      rfl
    change (1#1 ++ mantissa).toNat < 2 ^ 53 ∧ -1074 ≤ (exponent.toNat : ℤ) - 1075 ∧
      (exponent.toNat : ℤ) - 1075 ≤ 971 ∧
      (2 ^ 52 ≤ (1#1 ++ mantissa).toNat ∨ (exponent.toNat : ℤ) - 1075 = -1074)
    omega

theorem canonical_unpack (x : Float.Model) : Canonical x.unpack :=
  canonical_unpackBits x.toBits.toBitVec

/-- Of two canonical mantissas the one with the greater exponent stands for the greater number. -/
lemma mul_zpow_lt_of_exponent_lt {m n : ℕ} {e f : ℤ} (hm : m < 2 ^ 53) (hn : 2 ^ 52 ≤ n)
    (h : e < f) : (m : ℚ) * 2 ^ e < n * 2 ^ f := by
  have hm' : (m : ℚ) < 2 ^ (53 : ℤ) := by exact_mod_cast hm
  have hn' : (2 : ℚ) ^ (52 : ℤ) ≤ n := by exact_mod_cast hn
  calc (m : ℚ) * 2 ^ e < 2 ^ (53 : ℤ) * 2 ^ e := by gcongr
    _ = 2 ^ (53 + e) := (zpow_add₀ two_ne_zero _ _).symm
    _ ≤ 2 ^ (52 + f) := zpow_le_zpow_right₀ one_le_two (by omega)
    _ = 2 ^ (52 : ℤ) * 2 ^ f := zpow_add₀ two_ne_zero _ _
    _ ≤ n * 2 ^ f := by gcongr

/-- Canonical sizes are compared by their exponents first and then by their mantissas. -/
lemma compare_mul_zpow {m n : ℕ} {e f : ℤ} (hm : m < 2 ^ 53) (he : -1074 ≤ e)
    (hme : 2 ^ 52 ≤ m ∨ e = -1074) (hn : n < 2 ^ 53) (hf : -1074 ≤ f)
    (hnf : 2 ^ 52 ≤ n ∨ f = -1074) :
    (compare e f).then (compare m n) = compare ((m : ℚ) * 2 ^ e) (n * 2 ^ f) := by
  rcases lt_trichotomy e f with hlt | rfl | hgt
  · rw [compare_lt_iff_lt.mpr hlt,
      compare_lt_iff_lt.mpr (mul_zpow_lt_of_exponent_lt hm (by omega) hlt)]
    rfl
  · rw [Std.compare_self, Ordering.then]
    rcases lt_trichotomy m n with hlt | rfl | hgt
    · rw [compare_lt_iff_lt.mpr hlt, compare_lt_iff_lt.mpr (by gcongr)]
    · rw [Std.compare_self, Std.compare_self]
    · rw [compare_gt_iff_gt.mpr hgt, compare_gt_iff_gt.mpr (by gcongr)]
  · rw [compare_gt_iff_gt.mpr hgt,
      compare_gt_iff_gt.mpr (mul_zpow_lt_of_exponent_lt hn (by omega) hgt)]
    rfl

lemma compare_neg_neg (x y : ℚ) : compare (-x) (-y) = (compare x y).swap := by
  rcases lt_trichotomy x y with hlt | rfl | hgt
  · rw [compare_lt_iff_lt.mpr hlt, compare_gt_iff_gt.mpr (neg_lt_neg hlt), Ordering.swap]
  · rw [Std.compare_self, Std.compare_self, Ordering.swap]
  · rw [compare_gt_iff_gt.mpr hgt, compare_lt_iff_lt.mpr (neg_lt_neg hgt), Ordering.swap]

theorem compare_eq_compare_unpackedValue {u v : UnpackedFloat} (hu : Canonical u)
    (hv : Canonical v) (fu : u.isFinite = true) (fv : v.isFinite = true) :
    u.compare v = some (compare (unpackedValue u) (unpackedValue v)) := by
  have pos {m : ℕ} (hm : 0 < m) (e : ℤ) : 0 < (m : ℚ) * 2 ^ e := by positivity
  cases u with
  | infinity | notANumber => cases fu
  | zero =>
    cases v with
    | infinity | notANumber => cases fv
    | zero => rfl
    | finite sign n f hn =>
      have := pos hn f
      cases sign <;>
        simp only [UnpackedFloat.compare, unpackedValue, Sign.apply, Int.cast_neg, Int.cast_natCast]
      · rw [compare_gt_iff_gt.mpr (by linarith)]
      · rw [compare_lt_iff_lt.mpr (by linarith)]
  | finite sign m e hm =>
    obtain ⟨hm53, he, -, hme⟩ := hu
    have hm₀ := pos hm e
    cases v with
    | infinity | notANumber => cases fv
    | zero =>
      cases sign <;>
        simp only [UnpackedFloat.compare, unpackedValue, Sign.apply, Int.cast_neg, Int.cast_natCast]
      · rw [compare_lt_iff_lt.mpr (by linarith)]
      · rw [compare_gt_iff_gt.mpr (by linarith)]
    | finite sign' n f hn =>
      obtain ⟨hn53, hf, -, hnf⟩ := hv
      have hn₀ := pos hn f
      cases sign <;> cases sign' <;>
        simp only [UnpackedFloat.compare, unpackedValue, Sign.apply, Int.cast_neg, Int.cast_natCast,
          neg_mul]
      · rw [compare_mul_zpow hm53 he hme hn53 hf hnf, compare_neg_neg]
      · rw [compare_lt_iff_lt.mpr (by linarith)]
      · rw [compare_gt_iff_gt.mpr (by linarith)]
      · rw [compare_mul_zpow hm53 he hme hn53 hf hnf]

section Order
variable {x y : Float}

theorem compare_unpack (hx : x.isFinite = true) (hy : y.isFinite = true) :
    x.toModel.unpack.compare y.toModel.unpack = some (compare (exact x) (exact y)) :=
  compare_eq_compare_unpackedValue (canonical_unpack x.toModel) (canonical_unpack y.toModel) hx hy

theorem le_iff_exact_le_exact (hx : x.isFinite = true) (hy : y.isFinite = true) :
    x ≤ y ↔ exact x ≤ exact y := by
  have h : x ≤ y ↔ (x.toModel.unpack.compare y.toModel.unpack).any (·.isLE) = true :=
    decide_eq_true_iff
  rw [h, compare_unpack hx hy, Option.any_some]
  exact Ordering.isLE_iff_ne_gt.trans compare_le_iff_le

end Order

theorem isFinite_of_le_of_le {x y z : Float} (hx : x.isFinite = true) (hz : z.isFinite = true)
    (hxy : x ≤ y) (hyz : y ≤ z) : y.isFinite = true := by
  change x.toModel.unpack.isFinite = true at hx
  change z.toModel.unpack.isFinite = true at hz
  change y.toModel.unpack.isFinite = true
  replace hxy : (x.toModel.unpack.compare y.toModel.unpack).any (·.isLE) = true :=
    decide_eq_true_eq.mp hxy
  replace hyz : (y.toModel.unpack.compare z.toModel.unpack).any (·.isLE) = true :=
    decide_eq_true_eq.mp hyz
  generalize x.toModel.unpack = u at *
  generalize y.toModel.unpack = v at *
  generalize z.toModel.unpack = w at *
  cases v with
  | zero | finite => rfl
  | notANumber => cases u <;> simp [UnpackedFloat.compare] at hxy
  | infinity sign =>
    cases sign with
    | negative => cases u <;> simp_all [UnpackedFloat.compare, UnpackedFloat.isFinite]
    | positive => cases w <;> simp_all [UnpackedFloat.compare, UnpackedFloat.isFinite]

end Cohort.Number
