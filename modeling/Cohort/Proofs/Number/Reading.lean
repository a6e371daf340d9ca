import Cohort.Number.Read
import Cohort.Proofs.Number.Arithmetic
import Mathlib

/-!
Decimal numbers read as doubles. Whichever way is taken, through exact powers of ten, through the
general division or by the size alone, the result is the double nearest to the number.
-/
namespace Cohort.Number
open Float.Model (UnpackedFloat totalExponent)
open Float.Model.UnpackedFloat (Sign)

/-- A mantissa of at least 53 bits does not begin above the last place. -/
lemma le_lastPlace {m : ℕ} (h : 2 ^ 52 ≤ m) (e : ℤ) : e ≤ lastPlace (m * 2 ^ e) := by
  have hlow : (2 : ℚ) ^ (52 : ℤ) ≤ m := by exact_mod_cast h
  have hpos : (0 : ℚ) < m := (by positivity : (0 : ℚ) < 2 ^ (52 : ℤ)).trans_le hlow
  have hlog : 52 ≤ Int.log 2 (m : ℚ) :=
    (Int.zpow_le_iff_le_log one_lt_two hpos).mp (by exact_mod_cast hlow)
  unfold lastPlace
  rw [log_mul_two_zpow hpos]
  omega

theorem rounds_mul {m n : ℕ} (hm : 0 < m) (hn : 0 < n) {e f : ℤ}
    (h : 2 ^ 52 ≤ m * n ∨ e + f ≤ -1074) :
    Rounds (UnpackedFloat.mul .binary64 (.finite .positive m e hm) (.finite .positive n f hn))
      (rounded (m * 2 ^ e * (n * 2 ^ f))) := by
  have hvalue : (m : ℚ) * 2 ^ e * (n * 2 ^ f) = (m * n : ℕ) * 2 ^ (e + f) := by
    rw [zpow_add₀ two_ne_zero]
    push_cast
    ring
  have hpos : 0 < m * n := Nat.mul_pos hm hn
  rw [hvalue]
  refine rounds_roundWithAccuracy (show Leaves .exact _ _ from rfl) (Nat.cast_pos.mpr hpos)
    (.inl hpos) ?_
  rcases h with h | h
  · exact le_lastPlace h _
  · exact h.trans (le_max_right _ _)

/-- The product of positive doubles is the double nearest to the product of their values. -/
theorem nearest_mul {x y : Float} (hx : 0 < exact x) (hy : 0 < exact y) :
    Nearest false (exact x * exact y) (x * y) := by
  obtain ⟨m, e, hm, hxeq, hxval⟩ := unpackedValue_pos_iff hx
  obtain ⟨n, f, hn, hyeq, hyval⟩ := unpackedValue_pos_iff hy
  have hxcanonical := canonical_unpack x.toModel
  have hycanonical := canonical_unpack y.toModel
  rw [hxeq] at hxcanonical
  rw [hyeq] at hycanonical
  have h : 2 ^ 52 ≤ m * n ∨ e + f ≤ -1074 := by
    obtain ⟨-, -, -, hm' | rfl⟩ := hxcanonical
    · exact .inl (hm'.trans (Nat.le_mul_of_pos_right m hn))
    · obtain ⟨-, -, -, hn' | rfl⟩ := hycanonical
      · exact .inl (hn'.trans (Nat.le_mul_of_pos_left n hm))
      · exact .inr (by decide)
  have hmul := (rounds_mul hm hn h).nearest
  rw [← hxval, ← hyval, ← hxeq, ← hyeq] at hmul
  exact hmul

lemma unpackedValue_neg (u : UnpackedFloat) : unpackedValue u.neg = -unpackedValue u := by
  cases u with
  | infinity | notANumber | zero => simp [unpackedValue, UnpackedFloat.neg]
  | finite sign m e hm =>
    cases sign <;> simp [unpackedValue, UnpackedFloat.neg, Sign.apply]

theorem exact_neg {x : Float} (hx : x.isFinite = true) :
    (-x).isFinite = true ∧ exact (-x) = -exact x := by
  have hcanonical : Canonical x.toModel.unpack.neg := by
    have := canonical_unpack x.toModel
    generalize x.toModel.unpack = u at this
    cases u <;> exact this
  have hfinite : x.toModel.unpack.neg.isFinite = true := by
    change x.toModel.unpack.isFinite = true at hx
    generalize x.toModel.unpack = u at hx
    cases u <;> exact hx
  rw [exact.eq_1 x, ← unpackedValue_neg]
  exact exact_pack hcanonical hfinite

theorem Nearest.neg {x : ℚ} {y : Float} (h : Nearest false x y) : Nearest true x (-y) := by
  by_cases hlt : rounded x < 2 ^ (1024 : ℤ)
  · rw [Nearest, if_pos hlt] at h ⊢
    obtain ⟨hfinite, hvalue⟩ := h
    have hneg := exact_neg hfinite
    rw [hvalue] at hneg
    exact hneg
  · rw [Nearest, if_neg hlt] at h ⊢
    rw [h]
    rfl

theorem rounded_natCast {n : ℕ} (hpos : 0 < n) (h : n < 2 ^ 53) : rounded n = n := by
  have hlog : Int.log 2 (n : ℚ) ≤ 52 := by
    have hlt : (n : ℚ) < 2 ^ (53 : ℤ) := by exact_mod_cast h
    have := (Int.lt_zpow_iff_log_lt one_lt_two (Nat.cast_pos.mpr hpos)).mp hlt
    omega
  obtain ⟨k, hk⟩ : ∃ k : ℕ, lastPlace n = -k := by
    refine ⟨(-lastPlace n).toNat, ?_⟩
    unfold lastPlace
    omega
  have hdiv : (n : ℚ) / 2 ^ (-k : ℤ) = (n * 2 ^ k : ℕ) := by
    rw [zpow_neg, div_inv_eq_mul, zpow_natCast]
    push_cast
    rfl
  rw [rounded, hk, hdiv, nearestEven_natCast, ← hdiv, div_mul_cancel₀ _ (by positivity)]

theorem exact_toFloat {n : ℕ} (hpos : 0 < n) (h : n < 2 ^ 53) : exact n.toUInt64.toFloat = n := by
  have hnat : n.toUInt64.toNat = n := Nat.mod_eq_of_lt (h.trans (by decide))
  have hround : UnpackedFloat.ofUInt64 .binary64 n.toUInt64
      = UnpackedFloat.round .binary64 .positive n 0 := by
    rw [UnpackedFloat.ofUInt64, hnat, UnpackedFloat.ofNat, UnpackedFloat.ofInt,
      UnpackedFloat.normalize, Int.compare_eq_gt.mpr (by omega)]
    rfl
  have hnearest := (rounds_round hpos 0).nearest
  rw [zpow_zero, mul_one, Nearest, rounded_natCast hpos h, ← hround, if_pos] at hnearest
  · exact hnearest.2
  · have hlt : (n : ℚ) < 2 ^ (53 : ℤ) := by exact_mod_cast h
    exact hlt.trans (zpow_lt_zpow_right₀ one_lt_two (by decide))

theorem exact_toFloat_pos {n : ℕ} (hpos : 0 < n) (h : n < 2 ^ 53) :
    0 < exact n.toUInt64.toFloat := by
  rw [exact_toFloat hpos h]
  exact_mod_cast hpos

theorem exact_of_whole? {x : Float} {n : ℤ} (h : whole? x = some n) : exact x = n := by
  unfold whole? at h
  unfold exact
  split at h
  next hunpack =>
    cases h
    rw [hunpack]
    rfl
  next sign m e hm hunpack =>
    rw [hunpack, unpackedValue]
    split_ifs at h with he hdvd
    · cases h
      obtain ⟨k, rfl⟩ := Int.eq_ofNat_of_zero_le he
      cases sign <;> simp [Sign.apply]
    · cases h
      obtain ⟨k, rfl⟩ : ∃ k : ℕ, e = -k := ⟨(-e).toNat, by omega⟩
      rw [neg_neg, Int.toNat_natCast] at hdvd ⊢
      obtain ⟨q, rfl⟩ := Nat.dvd_of_mod_eq_zero hdvd
      cases sign <;> simp [Sign.apply] <;> field_simp
  next => cases h

theorem whole?_powersOfTen : ∀ n : Fin Float.exactlyRepresentablePowersOfTen.size,
    whole? Float.exactlyRepresentablePowersOfTen[n] = some (10 ^ (n : ℕ)) := by
  decide +kernel

theorem exact_powersOfTen {n : ℕ} (h : n < Float.exactlyRepresentablePowersOfTen.size) :
    exact Float.exactlyRepresentablePowersOfTen[n] = 10 ^ n := by
  have hexact := exact_of_whole? (whole?_powersOfTen ⟨n, h⟩)
  exact_mod_cast hexact

theorem exact_powersOfTen_pos {n : ℕ} (h : n < Float.exactlyRepresentablePowersOfTen.size) :
    0 < exact Float.exactlyRepresentablePowersOfTen[n] := by
  rw [exact_powersOfTen h]
  positivity

section Scientific
variable {m k : ℕ}

theorem nearest_ofScientific_false (hm : 0 < m) (hk : k ≤ 2048) :
    Nearest false (m * 10 ^ k) (Float.ofScientific m false k) := by
  rw [Float.ofScientific]
  split
  next hfast =>
    have hsize : k < Float.exactlyRepresentablePowersOfTen.size := Nat.lt_succ_of_le hfast.2
    have hmul := nearest_mul (exact_toFloat_pos hm hfast.1) (exact_powersOfTen_pos hsize)
    rwa [exact_toFloat hm hfast.1, exact_powersOfTen hsize] at hmul
  next =>
    have hshift : 2 ^ 53 ≤ m <<< 53 := by
      rw [Nat.shiftLeft_eq]
      exact Nat.le_mul_of_pos_left _ hm
    have hten : 0 < 10 ^ k := by positivity
    have hmul : UnpackedFloat.ofScientific .binary64 m k
        = UnpackedFloat.mul .binary64 (.finite .positive (m <<< 53) (-53) (by omega))
          (.finite .positive (10 ^ k) 0 hten) := by
      rw [UnpackedFloat.ofScientific, dif_neg hm.ne', if_neg (by norm_num; omega),
        if_neg (by norm_num; omega), if_pos (by omega)]
      rfl
    have hvalue : (m : ℚ) * (10 : ℚ) ^ k
        = (m <<< 53 : ℕ) * 2 ^ (-53 : ℤ) * ((10 ^ k : ℕ) * 2 ^ (0 : ℤ)) := by
      rw [Nat.shiftLeft_eq, zpow_neg]
      push_cast
      field_simp
    change Nearest false _ (.ofModel (Float.Model.pack (UnpackedFloat.ofScientific .binary64 m k)))
    rw [hmul, hvalue]
    refine (rounds_mul _ hten (.inl ?_)).nearest
    exact (show 2 ^ 52 ≤ m <<< 53 by omega).trans (Nat.le_mul_of_pos_right _ hten)

theorem nearest_ofScientific_true (hm : 0 < m) (hk : k ≤ 2048 + m.log2) (hpos : 0 < k) :
    Nearest false (m / 10 ^ k) (Float.ofScientific m true k) := by
  rw [Float.ofScientific]
  split
  next hfast =>
    have hsize : k < Float.exactlyRepresentablePowersOfTen.size := Nat.lt_succ_of_le hfast.2
    have hdiv := nearest_div (exact_toFloat_pos hm hfast.1) (exact_powersOfTen_pos hsize)
    rwa [exact_toFloat hm hfast.1, exact_powersOfTen hsize] at hdiv
  next =>
    have hten : 0 < 10 ^ k := by positivity
    have hdiv : UnpackedFloat.ofScientific .binary64 m (Int.negOfNat k)
        = UnpackedFloat.div .binary64 (.finite .positive m 0 hm)
          (.finite .positive (10 ^ k) 0 hten) := by
      rw [Int.negOfNat_eq, Int.ofNat_eq_natCast, UnpackedFloat.ofScientific, dif_neg hm.ne',
        if_neg (by norm_num), if_neg (by norm_num; omega), if_neg (by omega)]
      simp only [neg_neg, Int.toNat_natCast]
    have hvalue : (m : ℚ) / 10 ^ k = m * 2 ^ (0 : ℤ) / ((10 ^ k : ℕ) * 2 ^ (0 : ℤ)) := by
      push_cast
      simp
    change Nearest false _
      (.ofModel (Float.Model.pack (UnpackedFloat.ofScientific .binary64 m (Int.negOfNat k))))
    rw [hdiv, hvalue]
    exact (rounds_div hm hten 0 0).nearest

end Scientific

/-- A number that is less than half of the least positive double rounds to zero. -/
theorem rounded_eq_zero {x : ℚ} (hx : 0 ≤ x) (h : x < 2 ^ (-1075 : ℤ)) : rounded x = 0 := by
  have hlast : (2 : ℚ) ^ (-1074 : ℤ) ≤ 2 ^ lastPlace x :=
    zpow_le_zpow_right₀ one_le_two (le_max_right _ _)
  have hhalf : x / 2 ^ lastPlace x < 1 / 2 :=
    calc x / 2 ^ lastPlace x ≤ x / 2 ^ (-1074 : ℤ) := by gcongr
      _ < 2 ^ (-1075 : ℤ) / 2 ^ (-1074 : ℤ) := by gcongr
      _ = 1 / 2 := by rw [← zpow_sub₀ two_ne_zero]; norm_num
  have hfloor : ⌊x / 2 ^ lastPlace x⌋₊ = 0 := Nat.floor_eq_zero.mpr (by linarith)
  rw [rounded, nearestEven, hfloor, Nat.cast_zero, sub_zero, if_pos hhalf, Nat.cast_zero, zero_mul]

theorem nearest_zero {x : ℚ} (hx : 0 ≤ x) (h : x < 2 ^ (-1075 : ℤ)) : Nearest false x 0.0 := by
  have hzero : whole? 0.0 = some 0 := by decide +kernel
  rw [Nearest, rounded_eq_zero hx h, if_pos (by positivity)]
  exact ⟨by decide +kernel, (exact_of_whole? hzero).trans Int.cast_zero⟩

theorem nearest_infinity {x : ℚ} (h : 2 ^ (1024 : ℤ) ≤ x) :
    Nearest false x (infinity .positive) := by
  have hround : 2 ^ (1024 : ℤ) ≤ rounded x := by
    rw [← rounded_two_zpow (n := 1024) (by decide)]
    exact rounded_mono (by positivity) h
  rw [Nearest, if_neg (not_lt.mpr hround)]
  rfl

section Decimal
variable {digits : ℕ} {x : ℚ} {n exponent : ℤ}

/-- A power of ten lies beyond the power of two with three times its exponent. -/
lemma two_zpow_le_ten_zpow (hn : 0 ≤ n) : (2 : ℚ) ^ (3 * n) ≤ 10 ^ n := by
  rw [zpow_mul]
  exact zpow_le_zpow_left₀ hn (by norm_num) (by norm_num)

lemma two_zpow_le_scaled (hx : 10 ^ n ≤ x) (h : 1024 ≤ 3 * (n + exponent)) :
    2 ^ (1024 : ℤ) ≤ x * 10 ^ exponent :=
  calc (2 : ℚ) ^ (1024 : ℤ) ≤ 2 ^ (3 * (n + exponent)) := zpow_le_zpow_right₀ one_le_two h
    _ ≤ 10 ^ (n + exponent) := two_zpow_le_ten_zpow (by omega)
    _ = 10 ^ n * 10 ^ exponent := zpow_add₀ (by norm_num) _ _
    _ ≤ x * 10 ^ exponent := by gcongr

lemma scaled_lt_two_zpow (hx : x < 10 ^ n) (h : 1075 ≤ 3 * -(n + exponent)) :
    x * 10 ^ exponent < 2 ^ (-1075 : ℤ) :=
  calc x * 10 ^ exponent < 10 ^ n * 10 ^ exponent := by gcongr
    _ = (10 ^ (-(n + exponent)))⁻¹ := by rw [← zpow_add₀ (by norm_num), zpow_neg, inv_inv]
    _ ≤ (2 ^ (3 * -(n + exponent)))⁻¹ := by
      gcongr
      exact two_zpow_le_ten_zpow (by omega)
    _ = 2 ^ (-(3 * -(n + exponent))) := (zpow_neg _ _).symm
    _ ≤ 2 ^ (-1075 : ℤ) := zpow_le_zpow_right₀ one_le_two (by omega)

lemma lt_ten_pow_length (digits : ℕ) : digits < 10 ^ (toString digits).length :=
  (Nat.length_repr_le_iff Nat.length_repr_pos).mp le_rfl

lemma ten_pow_le (hpos : 0 < digits) : 10 ^ ((toString digits).length - 1) ≤ digits := by
  have hlength : 0 < (toString digits).length := Nat.length_repr_pos
  rcases Nat.eq_or_lt_of_le (Nat.succ_le_of_lt hlength) with hone | hlt
  · rw [← hone]
    exact hpos
  · by_contra! h
    have hle := (Nat.length_repr_le_iff (show 0 < (toString digits).length - 1 by omega)).mpr h
    change (toString digits).length ≤ _ at hle
    omega

theorem nearest_magnitude (hpos : 0 < digits) (exponent : ℤ) :
    Nearest false (digits * 10 ^ exponent) (ofDecimal false digits exponent) := by
  obtain ⟨n, hn⟩ : ∃ n, (toString digits).length = n + 1 :=
    Nat.exists_eq_add_one.mpr Nat.length_repr_pos
  have hhigh : (digits : ℚ) < 10 ^ (n + 1 : ℤ) := by
    have := lt_ten_pow_length digits
    rw [hn] at this
    exact_mod_cast this
  have hlow : 10 ^ n ≤ digits := by
    have := ten_pow_le hpos
    rwa [hn] at this
  have hlow' : (10 : ℚ) ^ (n : ℤ) ≤ digits := by exact_mod_cast hlow
  have hlog : n ≤ digits.log2 := by
    rw [Nat.le_log2 hpos.ne']
    exact (Nat.pow_le_pow_left (by decide) n).trans hlow
  simp only [ofDecimal, hn, if_neg hpos.ne', Bool.false_eq_true, if_false]
  push_cast
  split_ifs with hgreat hsmall
  · exact nearest_infinity (two_zpow_le_scaled hlow' (by omega))
  · exact nearest_zero (by positivity) (scaled_lt_two_zpow hhigh (by omega))
  · rcases lt_or_ge exponent 0 with hneg | hnonneg
    · obtain ⟨k, rfl⟩ : ∃ k : ℕ, exponent = -k := ⟨(-exponent).toNat, by omega⟩
      have htrue := nearest_ofScientific_true (k := k) hpos (by omega) (by omega)
      rw [decide_eq_true hneg, Int.natAbs_neg, Int.natAbs_natCast, zpow_neg, zpow_natCast,
        ← div_eq_mul_inv]
      exact htrue
    · obtain ⟨k, rfl⟩ := Int.eq_ofNat_of_zero_le hnonneg
      have hfalse := nearest_ofScientific_false (k := k) hpos (by omega)
      rw [decide_eq_false (not_lt.mpr hnonneg), Int.natAbs_natCast, zpow_natCast]
      exact hfalse

end Decimal

/-- A decimal number is read as the double nearest to it. -/
theorem nearest_ofDecimal (negative : Bool) (digits : ℕ) (exponent : ℤ) :
    Nearest negative (digits * 10 ^ exponent) (ofDecimal negative digits exponent) := by
  have hmagnitude : Nearest false (digits * 10 ^ exponent) (ofDecimal false digits exponent) := by
    rcases digits.eq_zero_or_pos with rfl | hpos
    · rw [Nat.cast_zero, zero_mul]
      exact nearest_zero le_rfl (by positivity)
    · exact nearest_magnitude hpos exponent
  cases negative with
  | false => exact hmagnitude
  | true => exact hmagnitude.neg

end Cohort.Number
