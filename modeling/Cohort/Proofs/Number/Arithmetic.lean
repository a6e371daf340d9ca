import Cohort.Proofs.Number.Rounding
import Mathlib

/-!
The operations on doubles that sampling uses, against rational arithmetic: conversion of integers
and division give the exact result rounded once.
-/
namespace Cohort.Number
open Float.Model (UnpackedFloat totalExponent)
open Float.Model.UnpackedFloat (Sign ExtendedMantissa Accuracy packComponents)

/-- What an accuracy says about the number `x` whose mantissa was cut off to `m`. -/
def Leaves : Accuracy → ℕ → ℚ → Prop
  | .exact, m, x => x = m
  | .inexact .lt, m, x => m < x ∧ x < m + 1 / 2
  | .inexact .eq, m, x => x = m + 1 / 2
  | .inexact .gt, m, x => m + 1 / 2 < x ∧ x < m + 1

namespace Leaves
variable {accuracy : Accuracy} {m : ℕ} {x : ℚ}

lemma bounds (h : Leaves accuracy m x) : (m : ℚ) ≤ x ∧ x < m + 1 := by
  rcases accuracy with _ | _ | _ | _ <;> simp only [Leaves] at h <;> constructor <;> linarith

lemma floor_eq (h : Leaves accuracy m x) : ⌊x⌋₊ = m := by
  obtain ⟨hle, hlt⟩ := h.bounds
  exact (Nat.floor_eq_iff (m.cast_nonneg.trans hle)).mpr ⟨hle, hlt⟩

theorem roundToNearestEven (h : Leaves accuracy m x) :
    accuracy.roundToNearestEven m = nearestEven x := by
  unfold nearestEven
  rw [h.floor_eq]
  cases accuracy with
  | exact =>
    have hx : x = m := h
    rw [if_pos (by linarith only [hx])]
    rfl
  | inexact half =>
    cases half with
    | lt => rw [if_pos (by linarith only [(h : _ ∧ _).2])]; rfl
    | eq =>
      have hx : x = m + 1 / 2 := h
      rw [if_neg (by linarith only [hx]), if_pos (by linarith only [hx])]
      rfl
    | gt =>
      have hx : m + 1 / 2 < x := (h : _ ∧ _).1
      rw [if_neg (by linarith only [hx]), if_neg (by linarith only [hx])]
      rfl

lemma ofMantissaAndAccuracy (h : Leaves accuracy m x) :
    Leaves (ExtendedMantissa.ofMantissaAndAccuracy m accuracy).accuracy
      (ExtendedMantissa.ofMantissaAndAccuracy m accuracy).mantissa x := by
  rcases accuracy with _ | _ | _ | _ <;> exact h

lemma shiftRightOne {em : ExtendedMantissa} (h : Leaves em.accuracy em.mantissa x) :
    Leaves em.shiftRightOne.accuracy em.shiftRightOne.mantissa (x / 2) := by
  obtain ⟨m, roundBit, stickyBit⟩ := em
  have hm : (m : ℚ) = 2 * (m / 2 : ℕ) + (m % 2 : ℕ) := by exact_mod_cast (Nat.div_add_mod m 2).symm
  rcases Nat.mod_two_eq_zero_or_one m with hmod | hmod <;> cases roundBit <;> cases stickyBit <;>
    simp [ExtendedMantissa.shiftRightOne, ExtendedMantissa.accuracy, Leaves, hmod] at h hm ⊢ <;>
    grind

/-- Shifting keeps all that rounding needs to know about the bits cut off. -/
theorem shiftRight {em : ExtendedMantissa} (h : Leaves em.accuracy em.mantissa x) (n : ℕ) :
    Leaves (em >>> n).accuracy (em >>> n).mantissa (x / 2 ^ n) := by
  change Leaves (n.repeat ExtendedMantissa.shiftRightOne em).accuracy
    (n.repeat ExtendedMantissa.shiftRightOne em).mantissa _
  induction n with
  | zero => simpa [Nat.repeat] using h
  | succ n ih =>
    rw [pow_succ, ← div_div]
    exact ih.shiftRightOne

lemma log_eq (h : Leaves accuracy m x) (hm : 0 < m) : Int.log 2 x = m.log2 := by
  have hone : 1 ≤ x := (Nat.one_le_cast.mpr hm).trans h.bounds.1
  rw [Int.log_of_one_le_right 2 hone, h.floor_eq, Nat.log2_eq_log_two]

end Leaves

lemma log_mul_two_zpow {x : ℚ} (hx : 0 < x) (e : ℤ) : Int.log 2 (x * 2 ^ e) = Int.log 2 x + e := by
  have hpos : 0 < x * 2 ^ e := by positivity
  apply le_antisymm
  · rw [← Int.lt_add_one_iff, ← Int.lt_zpow_iff_log_lt one_lt_two hpos, add_right_comm,
      Nat.cast_ofNat, zpow_add₀ two_ne_zero]
    have := Int.lt_zpow_succ_log_self one_lt_two x
    gcongr
    exact_mod_cast this
  · rw [← Int.zpow_le_iff_le_log one_lt_two hpos, Nat.cast_ofNat, zpow_add₀ two_ne_zero]
    have := Int.zpow_log_le_self one_lt_two hx
    gcongr
    exact_mod_cast this

lemma targetExponent_eq (t : ℤ) :
    Float.Model.Format.binary64.targetExponent t = max (t - 53) (-1074) := rfl

/-- The exponent that a double takes is that of the last place of its value. Nothing may be left of
the mantissa only at the least exponent. -/
theorem targetExponent_totalExponent {accuracy : Accuracy} {m : ℕ} {x : ℚ} (e : ℤ)
    (h : Leaves accuracy m x) (hx : 0 < x) (hm : 0 < m ∨ e ≤ -1074) :
    Float.Model.Format.binary64.targetExponent (totalExponent m e) = lastPlace (x * 2 ^ e) := by
  rw [targetExponent_eq, lastPlace, log_mul_two_zpow hx, totalExponent]
  rcases m.eq_zero_or_pos with rfl | hpos
  · have hlog : Int.log 2 x < 0 :=
      (Int.lt_zpow_iff_log_lt one_lt_two hx).mp (by simpa using h.bounds.2)
    rw [Nat.log2_zero]
    omega
  · rw [h.log_eq hpos]
    omega

/-- The form that rounding gives to a number that is not negative. The exponent may still be too
great for a double. -/
def Rounded : UnpackedFloat → Prop
  | .zero _ => True
  | .finite .positive m e _ => m < 2 ^ 53 ∧ -1074 ≤ e ∧ (2 ^ 52 ≤ m ∨ e = -1074)
  | _ => False

structure Rounds (u : UnpackedFloat) (x : ℚ) : Prop where
  form : Rounded u
  value : unpackedValue u = x

/-- The second shift of a rounding leaves a mantissa of 53 bits alone. -/
lemma shiftToTargetExponent_of_lt {m : ℕ} {e : ℤ} (hm : m < 2 ^ 53) (he : -1074 ≤ e) :
    UnpackedFloat.shiftToTargetExponent .binary64 m e .exact = (⟨m, false, false⟩, e) := by
  have hlog : m.log2 ≤ 52 := by
    rw [Nat.log2_eq_log_two]
    exact Nat.lt_succ_iff.mp (Nat.log_lt_of_lt_pow' (by norm_num) hm)
  have hshift : (max (totalExponent m e - 53) (-1074) - e).toNat = 0 := by
    unfold totalExponent
    omega
  rw [UnpackedFloat.shiftToTargetExponent, UnpackedFloat.shiftToExponent, targetExponent_eq, hshift]
  exact congrArg _ (add_zero e)

/-- It takes back the bit that rounding up to a power of two adds. -/
lemma shiftToTargetExponent_two_pow {e : ℤ} (he : -1074 ≤ e) :
    UnpackedFloat.shiftToTargetExponent .binary64 (2 ^ 53) e .exact
      = (⟨2 ^ 52, false, false⟩, e + 1) := by
  have hshift : (max (totalExponent (2 ^ 53) e - 53) (-1074) - e).toNat = 1 := by
    rw [totalExponent, Nat.log2_two_pow]
    omega
  rw [UnpackedFloat.shiftToTargetExponent, UnpackedFloat.shiftToExponent, targetExponent_eq, hshift]
  rfl

/-- A mantissa cut off no higher than the last place is rounded as the number it was cut from. -/
theorem rounds_roundWithAccuracy {accuracy : Accuracy} {m : ℕ} {x : ℚ} {e : ℤ}
    (h : Leaves accuracy m x) (hx : 0 < x) (hm : 0 < m ∨ e ≤ -1074)
    (he : e ≤ lastPlace (x * 2 ^ e)) :
    Rounds (UnpackedFloat.roundWithAccuracy .binary64 .positive m e accuracy)
      (rounded (x * 2 ^ e)) := by
  have htarget := targetExponent_totalExponent e h hx hm
  obtain ⟨v, hv⟩ : ∃ v, v = x * 2 ^ e := ⟨_, rfl⟩
  rw [← hv] at he htarget ⊢
  have hlow : -1074 ≤ lastPlace v := le_max_right _ _
  obtain ⟨n, hn⟩ := Int.eq_ofNat_of_zero_le (sub_nonneg.mpr he)
  have hcut : x / 2 ^ n = v / 2 ^ lastPlace v := by
    rw [show lastPlace v = e + n by omega, zpow_add₀ two_ne_zero, zpow_natCast, hv]
    field_simp
  have hround := (h.ofMantissaAndAccuracy.shiftRight n).roundToNearestEven
  rw [hcut] at hround
  have hle : nearestEven (v / 2 ^ lastPlace v) ≤ 2 ^ 53 :=
    (nearestEven_mono (div_lastPlace_le v)).trans_eq (nearestEven_natCast _)
  have hfirst : UnpackedFloat.shiftToTargetExponent .binary64 m e accuracy
      = (ExtendedMantissa.ofMantissaAndAccuracy m accuracy >>> n, lastPlace v) := by
    rw [UnpackedFloat.shiftToTargetExponent, UnpackedFloat.shiftToExponent, htarget, hn,
      Int.toNat_natCast]
    exact congrArg _ (by omega)
  have hvalue : rounded v = nearestEven (v / 2 ^ lastPlace v) * 2 ^ lastPlace v := rfl
  obtain ⟨r, hr⟩ : ∃ r, nearestEven (v / 2 ^ lastPlace v) = r := ⟨_, rfl⟩
  rw [hr] at hround hle hvalue
  have hsmall : 2 ^ 52 ≤ r ∨ lastPlace v = -1074 := by
    rcases hlow.eq_or_lt with heq | hlt
    · exact .inr heq.symm
    · left
      rw [← hr]
      exact (nearestEven_natCast _).ge.trans
        (nearestEven_mono (le_div_lastPlace (by rw [hv]; positivity) hlt))
  unfold UnpackedFloat.roundWithAccuracy
  simp only [hfirst, ExtendedMantissa.roundedMantissa, hround]
  rcases hle.lt_or_eq with hlt | rfl
  · simp only [shiftToTargetExponent_of_lt hlt hlow]
    split_ifs with hzero
    · exact ⟨trivial, by simp [unpackedValue, hvalue, hzero]⟩
    · exact ⟨⟨hlt, hlow, hsmall⟩, by simp [unpackedValue, hvalue, Sign.apply]⟩
  · simp only [shiftToTargetExponent_two_pow hlow]
    rw [dif_neg (by decide)]
    refine ⟨⟨by decide, by omega, .inl le_rfl⟩, ?_⟩
    rw [unpackedValue, Sign.apply, hvalue, zpow_add₀ two_ne_zero]
    push_cast
    ring

/-- Numbers are rounded to the double nearest to them. -/
theorem rounds_round {m : ℕ} (hm : 0 < m) (e : ℤ) :
    Rounds (UnpackedFloat.round .binary64 .positive m e) (rounded (m * 2 ^ e)) := by
  have htarget := targetExponent_totalExponent e (show Leaves .exact m m from rfl)
    (Nat.cast_pos.mpr hm) (.inl hm)
  obtain ⟨n, hn⟩ : ∃ n : ℕ, (e - lastPlace (m * 2 ^ e)).toNat = n := ⟨_, rfl⟩
  have hvalue : ((m <<< n : ℕ) : ℚ) * 2 ^ (e - n) = m * 2 ^ e := by
    rw [Nat.shiftLeft_eq, zpow_sub₀ two_ne_zero, zpow_natCast]
    push_cast
    field_simp
  have hround : UnpackedFloat.round .binary64 .positive m e
      = UnpackedFloat.roundWithAccuracy .binary64 .positive (m <<< n) (e - n) .exact := by
    rw [UnpackedFloat.round, htarget, UnpackedFloat.decreaseExponent, hn]
  have hpos : 0 < m <<< n := by
    rw [Nat.shiftLeft_eq]
    positivity
  rw [hround, ← hvalue]
  refine rounds_roundWithAccuracy rfl (Nat.cast_pos.mpr hpos) (.inl hpos) ?_
  rw [hvalue]
  omega

lemma finite_congr {sign : Sign} {m n : ℕ} {e f : ℤ} (hm : 0 < m) (hn : 0 < n) (h : m = n)
    (h' : e = f) : UnpackedFloat.finite sign m e hm = .finite sign n f hn := by
  subst h h'
  rfl

lemma unpack_normal (sign : Sign) {m biased : ℕ} (hm : 0 < m) (hlow : 2 ^ 52 ≤ m)
    (hlt : m < 2 ^ 53) (hpos : 0 < biased) (hbiased : biased < 2047) :
    UnpackedFloat.unpack .binary64
        (packComponents .binary64 sign (BitVec.ofNat _ biased) (BitVec.ofNat _ m))
      = .finite sign m (biased - 1075) hm := by
  have hexp : (BitVec.ofNat 11 biased).toNat = biased := Nat.mod_eq_of_lt (by omega)
  have hne (c : BitVec 11) (hc : c.toNat ≠ biased) : ¬ BitVec.ofNat 11 biased = c := by
    rintro rfl
    exact hc hexp
  rw [UnpackedFloat.unpack]
  simp only [UnpackedFloat.unpackMantissa_packComponents,
    UnpackedFloat.unpackExponent_packComponents, UnpackedFloat.unpackSign_packComponents,
    UnpackedFloat.Sign.ofBitVec_toBitVec]
  rw [if_neg (hne _ (by change 2047 ≠ _; omega)), if_neg (hne _ (by change 0 ≠ _; omega))]
  refine finite_congr _ _ ?_ ?_
  · rw [BitVec.toNat_append, ← Nat.shiftLeft_add_eq_or_of_lt (BitVec.isLt _), BitVec.toNat_ofNat]
    change 1 <<< 52 + m % 2 ^ 52 = m
    omega
  · rw [hexp]
    rfl

lemma unpack_subnormal (sign : Sign) {m : ℕ} (hm : 0 < m) (hlt : m < 2 ^ 52) :
    UnpackedFloat.unpack .binary64 (packComponents .binary64 sign 0#_ (BitVec.ofNat _ m))
      = .finite sign m (-1074) hm := by
  have hmant : (BitVec.ofNat 52 m).toNat = m := Nat.mod_eq_of_lt hlt
  rw [UnpackedFloat.unpack]
  simp only [UnpackedFloat.unpackMantissa_packComponents,
    UnpackedFloat.unpackExponent_packComponents, UnpackedFloat.unpackSign_packComponents,
    UnpackedFloat.Sign.ofBitVec_toBitVec]
  rw [if_neg (by decide), if_pos trivial, dif_neg]
  · exact finite_congr _ _ hmant rfl
  · intro h
    replace h := congrArg BitVec.toNat h
    rw [hmant] at h
    exact hm.ne' h

lemma unpack_packedZero (sign : Sign) :
    UnpackedFloat.unpack .binary64 (UnpackedFloat.packedZero .binary64 sign) = .zero sign := by
  cases sign <;> rfl

theorem unpack_pack {u : UnpackedFloat} (hu : Canonical u) (hf : u.isFinite = true) :
    (Float.Model.pack u).unpack = u := by
  change UnpackedFloat.unpack .binary64 (UnpackedFloat.pack .binary64 u) = u
  cases u with
  | infinity | notANumber => cases hf
  | zero sign => exact unpack_packedZero sign
  | finite sign m e hm =>
    obtain ⟨hlt, he, he', hme⟩ := hu
    have hbias : (e + (Float.Model.Format.binary64.exponentBias : ℤ) +
        (Float.Model.Format.binary64.mantissaBitsWithoutImplicit : ℤ)).toNat
        = (e + 1075).toNat := by
      change (e + 1023 + 52).toNat = _
      omega
    simp only [UnpackedFloat.pack, hbias]
    rw [if_neg (by change ¬ 2048 ≤ (e + 1075).toNat + 1; omega)]
    by_cases hlow : 2 ^ 52 ≤ m
    · have hlog : m.log2 = 52 := (Nat.log2_eq_iff hm.ne').mpr ⟨hlow, hlt⟩
      rw [if_pos (by change m.log2 + 1 = 53; omega),
        unpack_normal sign hm hlow hlt (by omega) (by omega)]
      exact finite_congr _ _ rfl (by omega)
    · have hlog : m.log2 < 52 := (Nat.log2_lt hm.ne').mpr (not_le.mp hlow)
      rw [if_neg (by change ¬ m.log2 + 1 = 53; omega), unpack_subnormal sign hm (not_le.mp hlow)]
      exact finite_congr _ _ rfl (by omega)

theorem exact_pack {u : UnpackedFloat} (hu : Canonical u) (hf : u.isFinite = true) :
    (Float.ofModel (Float.Model.pack u)).isFinite = true ∧
      exact (.ofModel (Float.Model.pack u)) = unpackedValue u := by
  have hunpack := unpack_pack hu hf
  constructor
  · change (Float.Model.pack u).unpack.isFinite = true
    rw [hunpack, hf]
  · change unpackedValue (Float.Model.pack u).unpack = unpackedValue u
    rw [hunpack]

lemma Rounded.canonical {u : UnpackedFloat} (h : Rounded u)
    (hlt : unpackedValue u < 2 ^ (1024 : ℤ)) :
    Canonical u ∧ u.isFinite = true := by
  cases u with
  | infinity | notANumber => exact h.elim
  | zero => exact ⟨trivial, rfl⟩
  | finite sign m e =>
    cases sign with
    | negative => exact h.elim
    | positive =>
      obtain ⟨hm, he, hme⟩ := h
      refine ⟨⟨hm, he, ?_, hme⟩, rfl⟩
      rcases hme with hlow | rfl
      · by_contra! hhigh
        have hlow' : (2 : ℚ) ^ (52 : ℤ) ≤ m := by exact_mod_cast hlow
        have hvalue : (2 : ℚ) ^ (1024 : ℤ) ≤ m * 2 ^ e :=
          calc (2 : ℚ) ^ (1024 : ℤ) = 2 ^ (52 : ℤ) * 2 ^ (972 : ℤ) := zpow_add₀ two_ne_zero 52 972
            _ ≤ m * 2 ^ e := by
              gcongr
              · exact one_le_two
              · omega
        exact absurd hlt (not_lt.mpr hvalue)
      · decide

lemma Rounded.pack_eq {u : UnpackedFloat} (h : Rounded u) (hle : 2 ^ (1024 : ℤ) ≤ unpackedValue u) :
    Float.Model.pack u = Float.Model.pack (.infinity .positive) := by
  cases u with
  | infinity | notANumber => exact h.elim
  | zero =>
    have hpos : (0 : ℚ) < 2 ^ (1024 : ℤ) := by positivity
    exact absurd hle (not_le.mpr hpos)
  | finite sign m e hpos =>
    cases sign with
    | negative => exact h.elim
    | positive =>
      obtain ⟨hm, he, hme⟩ := h
      have hhigh : 972 ≤ e := by
        by_contra! hlow
        have hm' : (m : ℚ) < 2 ^ (53 : ℤ) := by exact_mod_cast hm
        have hvalue : (m : ℚ) * 2 ^ e < 2 ^ (1024 : ℤ) :=
          calc (m : ℚ) * 2 ^ e < 2 ^ (53 : ℤ) * 2 ^ e := by gcongr
            _ ≤ 2 ^ (53 : ℤ) * 2 ^ (971 : ℤ) := by
              gcongr
              · exact one_le_two
              · omega
            _ = 2 ^ (1024 : ℤ) := (zpow_add₀ two_ne_zero 53 971).symm
        exact absurd hle (not_le.mpr hvalue)
      have hpack : UnpackedFloat.pack .binary64 (.finite .positive m e hpos)
          = UnpackedFloat.pack .binary64 (.infinity .positive) := by
        rw [UnpackedFloat.pack]
        refine if_pos ?_
        change 2048 ≤ (e + 1023 + 52).toNat + 1
        omega
      simp only [Float.Model.pack, hpack]

/-- The double nearest to `x`, or to its opposite. From `2 ^ 1024` on there are no doubles but the
infinities. -/
def Nearest (negative : Bool) (x : ℚ) (y : Float) : Prop :=
  if rounded x < 2 ^ (1024 : ℤ) then
    y.isFinite = true ∧ exact y = if negative then -rounded x else rounded x
  else y = infinity (if negative then .negative else .positive)

theorem Rounds.nearest {u : UnpackedFloat} {x : ℚ} (h : Rounds u (rounded x)) :
    Nearest false x (.ofModel (Float.Model.pack u)) := by
  rw [Nearest]
  split
  next hlt =>
    obtain ⟨hcanonical, hfinite⟩ := h.form.canonical (h.value ▸ hlt)
    rw [← h.value]
    exact exact_pack hcanonical hfinite
  next hlt =>
    have hle : 2 ^ (1024 : ℤ) ≤ unpackedValue u := h.value ▸ not_lt.mp hlt
    rw [h.form.pack_eq hle]
    rfl

lemma rounded_lt_of_lastPlace_le {x : ℚ} (h : lastPlace x ≤ 970) : rounded x < 2 ^ (1024 : ℤ) := by
  have hle : nearestEven (x / 2 ^ lastPlace x) ≤ 2 ^ 53 :=
    (nearestEven_mono (div_lastPlace_le x)).trans_eq (nearestEven_natCast _)
  have hle' : (nearestEven (x / 2 ^ lastPlace x) : ℚ) ≤ 2 ^ (53 : ℤ) := by exact_mod_cast hle
  calc rounded x ≤ 2 ^ (53 : ℤ) * 2 ^ (970 : ℤ) := by
        unfold rounded
        gcongr
        exact one_le_two
    _ = 2 ^ (1023 : ℤ) := (zpow_add₀ two_ne_zero 53 970).symm
    _ < 2 ^ (1024 : ℤ) := zpow_lt_zpow_right₀ one_lt_two (by decide)

theorem Nearest.exact_eq {x : ℚ} {y : Float} (h : Nearest false x y) (hlast : lastPlace x ≤ 970) :
    y.isFinite = true ∧ exact y = rounded x := by
  rwa [Nearest, if_pos (rounded_lt_of_lastPlace_le hlast)] at h

theorem nearest_ofInteger {n : ℤ} (hn : 0 < n) : Nearest false n (ofInteger n) := by
  have hnat : ((n.natAbs : ℕ) : ℚ) = n := by
    rw [Nat.cast_natAbs, abs_of_pos hn]
  rw [← hnat, ← mul_one (n.natAbs : ℚ), ← zpow_zero 2, ofInteger, ofDyadic,
    if_neg (not_lt.mpr hn.le)]
  exact (rounds_round (Int.natAbs_pos.mpr hn.ne') 0).nearest

lemma unpackedValue_pos_iff {u : UnpackedFloat} (h : 0 < unpackedValue u) :
    ∃ m e hm, u = .finite .positive m e hm ∧ unpackedValue u = m * 2 ^ e := by
  cases u with
  | infinity | notANumber | zero => exact absurd h (lt_irrefl _)
  | finite sign m e hm =>
    cases sign with
    | positive => exact ⟨m, e, hm, rfl, rfl⟩
    | negative =>
      have hneg : 0 < (m : ℚ) * 2 ^ e := by positivity
      simp only [unpackedValue, Sign.apply, Int.cast_neg, Int.cast_natCast] at h
      linarith

/-- The remainder of a division tells how the quotient was cut off. -/
lemma leaves_accuracyOfFraction (n : ℕ) {d : ℕ} (hd : 0 < d) :
    Leaves (UnpackedFloat.accuracyOfFraction (n % d) d) (n / d) ((n : ℚ) / d) := by
  have hd' : (0 : ℚ) < d := Nat.cast_pos.mpr hd
  have hx : (n : ℚ) / d = (n / d : ℕ) + (n % d : ℕ) / d := by
    have hdiv : (n : ℚ) = d * (n / d : ℕ) + (n % d : ℕ) := by
      exact_mod_cast (Nat.div_add_mod n d).symm
    rw [← mul_right_inj' hd'.ne', mul_div_cancel₀ _ hd'.ne', mul_add, mul_div_cancel₀ _ hd'.ne']
    exact hdiv
  have hlt : ((n % d : ℕ) : ℚ) < d := Nat.cast_lt.mpr (Nat.mod_lt n hd)
  rw [hx]
  generalize n % d = r at hlt
  rw [UnpackedFloat.accuracyOfFraction]
  split_ifs with hr
  · simp [Leaves, hr]
  · have hr' : (0 : ℚ) < r := Nat.cast_pos.mpr (Nat.pos_of_ne_zero hr)
    have hfrac : (0 : ℚ) < r / d := by positivity
    have hone : (r : ℚ) / d < 1 := (div_lt_one hd').mpr hlt
    rcases hcmp : compare (2 * r) d with _ | _ | _
    · have hhalf : (r : ℚ) / d < 1 / 2 := by
        rw [div_lt_div_iff₀ hd' two_pos]
        have : 2 * r < d := Nat.compare_eq_lt.mp hcmp
        have : 2 * (r : ℚ) < d := by exact_mod_cast this
        linarith
      exact ⟨by linarith, by linarith⟩
    · have hhalf : (r : ℚ) / d = 1 / 2 := by
        rw [div_eq_div_iff hd'.ne' two_ne_zero]
        have : 2 * r = d := Nat.compare_eq_eq.mp hcmp
        have : 2 * (r : ℚ) = d := by exact_mod_cast this
        linarith
      exact congrArg _ hhalf
    · have hhalf : 1 / 2 < (r : ℚ) / d := by
        rw [div_lt_div_iff₀ two_pos hd']
        have : d < 2 * r := Nat.compare_eq_gt.mp hcmp
        have : (d : ℚ) < 2 * r := by exact_mod_cast this
        linarith
      exact ⟨by linarith, by linarith⟩

/-- The quotient of positive numbers is at least half of what their leading digits give. -/
lemma two_zpow_le_div {m n : ℕ} (hm : 0 < m) (hn : 0 < n) (e f : ℤ) :
    (2 : ℚ) ^ (totalExponent m e - totalExponent n f - 1) ≤ m * 2 ^ e / (n * 2 ^ f) := by
  have hm' : (2 : ℚ) ^ (m.log2 : ℤ) ≤ m := by exact_mod_cast Nat.log2_self_le hm.ne'
  have hn' : (n : ℚ) ≤ 2 ^ (n.log2 + 1 : ℤ) := by exact_mod_cast Nat.lt_log2_self.le
  rw [le_div_iff₀ (by positivity)]
  calc (2 : ℚ) ^ (totalExponent m e - totalExponent n f - 1) * (n * 2 ^ f)
      ≤ 2 ^ (totalExponent m e - totalExponent n f - 1) * (2 ^ (n.log2 + 1 : ℤ) * 2 ^ f) := by
        gcongr
    _ = 2 ^ (m.log2 : ℤ) * 2 ^ e := by
      rw [← zpow_add₀ two_ne_zero, ← zpow_add₀ two_ne_zero, ← zpow_add₀ two_ne_zero]
      congr 1
      unfold totalExponent
      ring
    _ ≤ m * 2 ^ e := by gcongr

theorem rounds_div {m n : ℕ} (hm : 0 < m) (hn : 0 < n) (e f : ℤ) :
    Rounds (UnpackedFloat.div .binary64 (.finite .positive m e hm) (.finite .positive n f hn))
      (rounded (m * 2 ^ e / (n * 2 ^ f))) := by
  have hlead := two_zpow_le_div hm hn e f
  rw [UnpackedFloat.div, UnpackedFloat.divCore, targetExponent_eq]
  obtain ⟨t, ht⟩ : ∃ t, t = min (e - f)
    (max (totalExponent m e - totalExponent n f - 53) (-1074)) := ⟨_, rfl⟩
  obtain ⟨shift, hshift⟩ := Int.eq_ofNat_of_zero_le (show 0 ≤ e - f - t by omega)
  simp only [← ht, hshift, Int.toNat_natCast]
  have hvalue : ((m <<< shift : ℕ) : ℚ) / n * 2 ^ t = m * 2 ^ e / (n * 2 ^ f) := by
    rw [show e = f + t + shift by omega, Nat.shiftLeft_eq, zpow_add₀ two_ne_zero,
      zpow_add₀ two_ne_zero, zpow_natCast]
    push_cast
    field_simp
  have hpos : (0 : ℚ) < ((m <<< shift : ℕ) : ℚ) / n := by
    rw [Nat.shiftLeft_eq]
    positivity
  rw [← hvalue]
  refine rounds_roundWithAccuracy (leaves_accuracyOfFraction _ hn) hpos ?_ ?_
  · rcases le_or_gt t (-1074) with hlow | hhigh
    · exact .inr hlow
    · have hunit : (2 : ℚ) ^ t ≤ m * 2 ^ e / (n * 2 ^ f) :=
        (zpow_le_zpow_right₀ one_le_two (by omega)).trans hlead
      rw [← hvalue] at hunit
      have hone : (1 : ℚ) ≤ ((m <<< shift : ℕ) : ℚ) / n :=
        le_of_mul_le_mul_right (by rwa [one_mul]) (show (0 : ℚ) < 2 ^ t by positivity)
      rw [one_le_div (by positivity), Nat.cast_le] at hone
      exact .inl (Nat.div_pos hone hn)
  · rw [hvalue]
    have hlog : totalExponent m e - totalExponent n f - 1
        ≤ Int.log 2 ((m : ℚ) * 2 ^ e / (n * 2 ^ f)) :=
      (Int.zpow_le_iff_le_log one_lt_two (by positivity)).mp (by exact_mod_cast hlead)
    unfold lastPlace
    omega

/-- The quotient of positive doubles is the double nearest to the quotient of their values. -/
theorem nearest_div {x y : Float} (hx : 0 < exact x) (hy : 0 < exact y) :
    Nearest false (exact x / exact y) (x / y) := by
  obtain ⟨m, e, hm, hxeq, hxval⟩ := unpackedValue_pos_iff hx
  obtain ⟨n, f, hn, hyeq, hyval⟩ := unpackedValue_pos_iff hy
  have hdiv := (rounds_div hm hn e f).nearest
  rw [← hxval, ← hyval, ← hxeq, ← hyeq] at hdiv
  exact hdiv

end Cohort.Number
