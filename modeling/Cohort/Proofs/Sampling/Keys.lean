import Cohort.Proofs.Number.Exact
import Cohort.Proofs.Text.Hexadecimal
import Cohort.Sampling.Basic
import Mathlib

/-!
Keys, their texts and the fractions they come from. Texts of keys are ordered like the keys, and the
key of a fraction is the floor of its share of the key space.
-/
namespace Cohort

namespace Key

@[simp] theorem length_text (key : Key) : key.text.length = 64 := by simp [text]

@[simp] theorem text_lt_text (a b : Key) : a.text < b.text ↔ a < b := by
  rw [String.lt_iff, text, text, String.toList_ofList, String.toList_ofList,
    Text.hexDigits_lt_hexDigits (by simpa using a.isLt) (by simpa using b.isLt), BitVec.lt_def]

@[simp] theorem text_le_text (a b : Key) : a.text ≤ b.text ↔ a ≤ b := by
  rw [← String.not_lt, text_lt_text, BitVec.not_lt]

theorem text_injective : Function.Injective text := fun a b h => by
  have hab := text_lt_text a b
  have hba := text_lt_text b a
  rw [h] at hab hba
  exact BitVec.le_antisymm (BitVec.not_lt.mp (by simpa using hba))
    (BitVec.not_lt.mp (by simpa using hab))

/-- Sixty-four lowercase hexadecimal digits. -/
structure IsText (text : String) : Prop where
  length_eq : text.length = 64
  digits : ∀ c ∈ text.toList, c ∈ Text.hexAlphabet

theorem isText_text (key : Key) : IsText key.text := by
  refine ⟨length_text key, fun c hc => ?_⟩
  rw [text, String.toList_ofList] at hc
  exact Text.mem_hexAlphabet_of_mem_hexDigits hc

theorem toNat_lt (key : Key) : key.toNat < 16 ^ 64 := by simpa using key.isLt

theorem hexValue?_text (key : Key) : Text.hexValue? key.text.toList = some key.toNat := by
  rw [text, String.toList_ofList, Text.hexValue?_hexDigits key.toNat_lt]

theorem IsText.exists_text_eq {s : String} (h : IsText s) : ∃ key : Key, key.text = s := by
  obtain ⟨n, hn, hdigits⟩ := Text.exists_hexDigits_eq s.toList h.digits
  rw [String.length_toList, h.length_eq] at hn hdigits
  have hlt : n < 2 ^ 256 := hn.trans_eq (by norm_num)
  refine ⟨BitVec.ofNat 256 n, ?_⟩
  rw [text, BitVec.toNat_ofNat, Nat.mod_eq_of_lt hlt, hdigits, String.ofList_toList]

end Key

namespace Sampling
open Number
open Float.Model.UnpackedFloat (Sign)

lemma two_zpow_of_nonpos {e : ℤ} (he : e ≤ 0) : (2 : ℚ) ^ e = (2 ^ (-e).toNat)⁻¹ := by
  obtain ⟨n, hn⟩ := Int.eq_ofNat_of_zero_le (neg_nonneg.mpr he)
  obtain rfl : e = -n := by omega
  simp

/-- What is read as a fraction is the exact value, and lies between zero and one. -/
theorem exact_of_unitFraction? {x : Float} {m shift : ℕ} (h : unitFraction? x = some (m, shift)) :
    x.isFinite = true ∧ exact x = m / 2 ^ shift ∧ m ≤ 2 ^ shift := by
  change x.toModel.unpack.isFinite = true ∧ unpackedValue x.toModel.unpack = _ ∧ _
  unfold unitFraction? at h
  generalize x.toModel.unpack = u at *
  cases u with
  | infinity | notANumber => cases h
  | zero => cases h; exact ⟨rfl, by simp [unpackedValue], by simp⟩
  | finite sign n e =>
    cases sign with
    | negative => cases h
    | positive =>
      simp only [Option.ite_none_right_eq_some, Option.some.injEq, Prod.mk.injEq] at h
      obtain ⟨⟨he, hn⟩, rfl, rfl⟩ := h
      refine ⟨rfl, ?_, hn⟩
      rw [unpackedValue, Sign.apply, Int.cast_natCast, two_zpow_of_nonpos he, div_eq_mul_inv]

theorem inUnit_of_unitFraction? {x : Float} {m shift : ℕ} (h : unitFraction? x = some (m, shift)) :
    x.isFinite = true ∧ 0 ≤ exact x ∧ exact x ≤ 1 := by
  obtain ⟨hfinite, hval, hle⟩ := exact_of_unitFraction? h
  have hle' : (m : ℚ) ≤ 2 ^ shift := by exact_mod_cast hle
  refine ⟨hfinite, ?_, ?_⟩
  · rw [hval]
    positivity
  · rw [hval]
    exact (div_le_one (by positivity)).mpr hle'

theorem unitFraction?_isSome {x : Float} (hx : x.isFinite = true) (h₀ : 0 ≤ exact x)
    (h₁ : exact x ≤ 1) : (unitFraction? x).isSome = true := by
  change x.toModel.unpack.isFinite = true at hx
  unfold exact at h₀ h₁
  unfold unitFraction?
  generalize x.toModel.unpack = u at *
  cases u with
  | infinity | notANumber => cases hx
  | zero => rfl
  | finite sign n e hn =>
    have hn' : (0 : ℚ) < n := by exact_mod_cast hn
    have hpos : (0 : ℚ) < n * 2 ^ e := by positivity
    cases sign with
    | negative =>
      simp only [unpackedValue, Sign.apply, Int.cast_neg, Int.cast_natCast] at h₀
      linarith
    | positive =>
      simp only [unpackedValue, Sign.apply, Int.cast_natCast] at h₁
      have he : e ≤ 0 := by
        by_contra hcon
        have hlt : (1 : ℚ) < 2 ^ e := one_lt_zpow₀ one_lt_two (by omega)
        have hone : (1 : ℚ) ≤ n := by exact_mod_cast hn
        nlinarith
      have hle : n ≤ 2 ^ (-e).toNat := by
        rw [two_zpow_of_nonpos he, ← div_eq_mul_inv, div_le_one (by positivity)] at h₁
        exact_mod_cast h₁
      simp [he, hle]

/-- The share of the key space that a fraction takes is no more than all of it. -/
theorem scaled_lt {x : Float} {m shift : ℕ} (h : unitFraction? x = some (m, shift)) :
    (2 ^ 256 - 1) * m / 2 ^ shift < 2 ^ 256 := by
  obtain ⟨-, -, hle⟩ := exact_of_unitFraction? h
  have hdiv := Nat.div_le_div_right (c := 2 ^ shift) (Nat.mul_le_mul_left (2 ^ 256 - 1) hle)
  rw [Nat.mul_div_cancel _ (by positivity)] at hdiv
  omega

/-- The key of a fraction is the floor of its share of the key space. -/
theorem fractionToKey_eq_ok_iff {x : Float} {key : Key} :
    fractionToKey x = .ok key ↔ x.isFinite = true ∧ 0 ≤ exact x ∧ exact x ≤ 1 ∧
      key.toNat = ⌊(2 ^ 256 - 1) * exact x⌋₊ := by
  have hkey {m shift : ℕ} (h : unitFraction? x = some (m, shift)) :
      ∃ k, fractionToKey x = .ok k ∧ k.toNat = ⌊(2 ^ 256 - 1) * exact x⌋₊ := by
    obtain ⟨-, hval, -⟩ := exact_of_unitFraction? h
    have hfloor : ⌊(2 ^ 256 - 1) * exact x⌋₊ = (2 ^ 256 - 1) * m / 2 ^ shift := by
      rw [hval, ← Nat.floor_div_eq_div (K := ℚ)]
      congr 1
      push_cast
      ring
    refine ⟨_, by rw [fractionToKey, h], ?_⟩
    rw [Key.clamp, if_pos (scaled_lt h), hfloor, BitVec.toNat_ofNat, Nat.mod_eq_of_lt (scaled_lt h)]
  constructor
  · intro h
    obtain hnone | ⟨⟨m, shift⟩, hsome⟩ := (unitFraction? x).eq_none_or_eq_some
    · rw [fractionToKey, hnone] at h
      cases h
    · obtain ⟨hfin, h₀, h₁⟩ := inUnit_of_unitFraction? hsome
      obtain ⟨k, hk, hnat⟩ := hkey hsome
      obtain rfl : k = key := Except.ok.inj (hk.symm.trans h)
      exact ⟨hfin, h₀, h₁, hnat⟩
  · rintro ⟨hfin, h₀, h₁, hnat⟩
    obtain ⟨⟨m, shift⟩, hsome⟩ := Option.isSome_iff_exists.mp (unitFraction?_isSome hfin h₀ h₁)
    obtain ⟨k, hk, hnat'⟩ := hkey hsome
    rw [hk, BitVec.eq_of_toNat_eq (hnat'.trans hnat.symm)]

theorem exists_fractionToKey {x : Float} (hx : x.isFinite = true) (h₀ : 0 ≤ exact x)
    (h₁ : exact x ≤ 1) : ∃ key, fractionToKey x = .ok key := by
  have hlt : ⌊(2 ^ 256 - 1) * exact x⌋₊ < 2 ^ 256 := by
    rw [Nat.floor_lt (by positivity)]
    push_cast
    nlinarith
  refine ⟨BitVec.ofNat 256 ⌊(2 ^ 256 - 1) * exact x⌋₊, fractionToKey_eq_ok_iff.mpr ⟨hx, h₀, h₁, ?_⟩⟩
  rw [BitVec.toNat_ofNat, Nat.mod_eq_of_lt hlt]

/-- All other doubles are refused, and there is no other fault. -/
theorem fractionToKey_eq_error_iff {x : Float} {fault : RangeError} :
    fractionToKey x = .error fault ↔ fault = .fractionOutOfRange x ∧
      ¬(x.isFinite = true ∧ 0 ≤ exact x ∧ exact x ≤ 1) := by
  constructor
  · intro h
    refine ⟨?_, fun ⟨hx, h₀, h₁⟩ => ?_⟩
    · unfold fractionToKey at h
      split at h
      · cases h
      · exact (Except.error.inj h).symm
    · obtain ⟨key, hkey⟩ := exists_fractionToKey hx h₀ h₁
      rw [hkey] at h
      cases h
  · rintro ⟨rfl, hout⟩
    rw [fractionToKey]
    split
    next hsome => exact absurd (inUnit_of_unitFraction? hsome) hout
    next => rfl

end Sampling

end Cohort
