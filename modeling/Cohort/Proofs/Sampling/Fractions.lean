import Cohort.Proofs.Number.Bits
import Cohort.Proofs.Sampling.Keys
import Mathlib

/-!
Keys of fractions, from the bits of a double to the text of its key. A double from zero to one has
the key whose number is the floor of its share of the key space. All other doubles are refused.
-/
namespace Cohort.Sampling
open Number
open Cohort.Text (hexText hexValue?)

section Bits
variable {bits : UInt64}

/-- What has no key is a NaN, or stands for a number outside the unit interval. -/
theorem not_inUnit_ofBits_iff :
    ¬((Float.ofBits bits).isFinite = true ∧ 0 ≤ exact (.ofBits bits) ∧ exact (.ofBits bits) ≤ 1) ↔
      fieldsValue? bits = none ∨ ∃ v ∈ fieldsValue? bits, v < 0 ∨ 1 < v := by
  have hvalue (v : ℚ) := fieldsValue?_eq_some_iff bits (v := v)
  have hnone (h : ∀ v : ℚ, fieldsValue? bits ≠ some (v : WithBotTop ℚ)) :
      ¬(Float.ofBits bits).isFinite = true := fun hfinite => h _ ((hvalue _).mpr ⟨hfinite, rfl⟩)
  rcases hfields : fieldsValue? bits with _ | v
  · simp [hnone (by simp [hfields])]
  · induction v using WithBotTop.rec with
    | bot => simp [hnone fun v => by simp [hfields, (WithBotTop.coe_ne_bot v).symm]]
    | top =>
      have hone : (1 : WithBotTop ℚ) < ⊤ := lt_top_iff_ne_top.mpr (WithBotTop.coe_ne_top 1)
      simp [hnone fun v => by simp [hfields, (WithBotTop.coe_ne_top v).symm], hone]
    | coe v =>
      obtain ⟨hfinite, hexact⟩ := (hvalue v).mp hfields
      have hzero : (v : WithBotTop ℚ) < 0 ↔ v < 0 := WithBotTop.coe_lt_coe
      have hone : 1 < (v : WithBotTop ℚ) ↔ 1 < v := WithBotTop.coe_lt_coe
      have hout : ¬(0 ≤ v ∧ v ≤ 1) ↔ v < 0 ∨ 1 < v := by rw [not_and_or, not_le, not_le]
      simp only [hfinite, hexact, true_and, hout, reduceCtorEq, false_or, Option.mem_some_iff,
        exists_eq_left', hzero, hone]

/-- The share of the key space that a fraction takes has no more digits than a key. -/
theorem length_hexText_scaled_le {x : Float} {m shift : ℕ}
    (h : unitFraction? x = some (m, shift)) :
    (hexText ((2 ^ 256 - 1) * m / 2 ^ shift)).length ≤ 64 :=
  Text.length_hexText_le (by decide) ((scaled_lt h).trans_eq (by norm_num))

end Bits

/-- A key is written as the shortest text of its number with zeros in front. -/
theorem toList_text_eq_padded (key : Key) :
    key.text.toList =
      List.replicate (64 - (hexText key.toNat).length) '0' ++ hexText key.toNat := by
  rw [Key.text, String.toList_ofList, Text.hexDigits_eq_padded (by decide) key.toNat_lt]

/-- The texts of two keys stand in the order of their numbers. -/
theorem lt_iff_of_isText {s t : String} (hs : Key.IsText s) (ht : Key.IsText t) :
    ∃ a b, hexValue? s.toList = some a ∧ hexValue? t.toList = some b ∧ (s < t ↔ a < b) := by
  obtain ⟨a, rfl⟩ := hs.exists_text_eq
  obtain ⟨b, rfl⟩ := ht.exists_text_eq
  exact ⟨a.toNat, b.toNat, a.hexValue?_text, b.hexValue?_text, Key.text_lt_text a b⟩

/-- A pattern of bits is refused just when it is a NaN or its number is below zero or above one. In
between, zeros of either sign and subnormal numbers included, the key is the floor of the number's
share of the key space, in 64 lowercase hexadecimal digits, and it never has to be cut off. Such
texts are ordered like their numbers. -/
theorem fractionToKey_ofBits (bits : UInt64) :
    (∀ fault, fractionToKey (.ofBits bits) = .error fault ↔
      fault = .fractionOutOfRange (.ofBits bits) ∧
        (fieldsValue? bits = none ∨ ∃ v ∈ fieldsValue? bits, v < 0 ∨ 1 < v)) ∧
    (∀ v : ℚ, fieldsValue? bits = some (v : WithBotTop ℚ) → 0 ≤ v → v ≤ 1 →
      ∃ key, fractionToKey (.ofBits bits) = .ok key ∧ Key.IsText key.text ∧
        hexValue? key.text.toList = some ⌊v * (2 ^ 256 - 1)⌋₊ ∧
        key.text.toList =
          List.replicate (64 - (hexText key.toNat).length) '0' ++ hexText key.toNat) ∧
    (∀ m shift, unitFraction? (.ofBits bits) = some (m, shift) →
      (hexText ((2 ^ 256 - 1) * m / 2 ^ shift)).length ≤ 64) ∧
    ∀ s t, Key.IsText s → Key.IsText t →
      ∃ a b, hexValue? s.toList = some a ∧ hexValue? t.toList = some b ∧ (s < t ↔ a < b) := by
  refine ⟨fun fault => ?refused, fun v hfields h₀ h₁ => ?key, fun m shift h => ?width,
    fun s t hs ht => lt_iff_of_isText hs ht⟩
  case refused => rw [fractionToKey_eq_error_iff, not_inUnit_ofBits_iff]
  case key =>
    obtain ⟨hfinite, rfl⟩ := (fieldsValue?_eq_some_iff bits).mp hfields
    obtain ⟨key, hkey⟩ := exists_fractionToKey hfinite h₀ h₁
    obtain ⟨-, -, -, hnumber⟩ := fractionToKey_eq_ok_iff.mp hkey
    refine ⟨key, hkey, key.isText_text, ?_, toList_text_eq_padded key⟩
    rw [key.hexValue?_text, hnumber, mul_comm]
  case width => exact length_hexText_scaled_le h

/-- The bits of negative zero, of one half and of a NaN. -/
theorem fractionToKey_ofBits_half :
    let zeros := String.ofList (List.replicate 64 '0')
    let half := String.ofList ('7' :: List.replicate 63 'f')
    fieldsValue? 0x8000000000000000 = some ((0 : ℚ) : WithBotTop ℚ) ∧
      (∃ key, fractionToKey (.ofBits 0x8000000000000000) = .ok key ∧
        hexValue? key.text.toList = some ⌊(0 : ℚ) * (2 ^ 256 - 1)⌋₊) ∧
      fieldsValue? 0x3fe0000000000000 = some ((1 / 2 : ℚ) : WithBotTop ℚ) ∧
      (∃ key, fractionToKey (.ofBits 0x3fe0000000000000) = .ok key ∧
        hexValue? key.text.toList = some ⌊(1 / 2 : ℚ) * (2 ^ 256 - 1)⌋₊) ∧
      unitFraction? (.ofBits 0x3fe0000000000000) = some (2 ^ 52, 53) ∧
      (hexText ((2 ^ 256 - 1) * 2 ^ 52 / 2 ^ 53)).length ≤ 64 ∧
      Key.IsText zeros ∧ Key.IsText half ∧
      (∃ a b, hexValue? zeros.toList = some a ∧ hexValue? half.toList = some b ∧
        (zeros < half ↔ a < b)) ∧
      fractionToKey (.ofBits 0x7ff8000000000000)
        = .error (.fractionOutOfRange (.ofBits 0x7ff8000000000000)) := by
  intro zeros half
  have hzero : fieldsValue? 0x8000000000000000 = some ((0 : ℚ) : WithBotTop ℚ) := by
    decide +kernel
  have hhalf : fieldsValue? 0x3fe0000000000000 = some ((1 / 2 : ℚ) : WithBotTop ℚ) := by
    decide +kernel
  have hread : unitFraction? (.ofBits 0x3fe0000000000000) = some (2 ^ 52, 53) := by decide +kernel
  have hnan : fieldsValue? 0x7ff8000000000000 = none := by decide +kernel
  have hzeros : Key.text 0 = zeros := by decide +kernel
  have hhalfText : Key.text (BitVec.ofNat 256 (2 ^ 255 - 1)) = half := by decide +kernel
  replace hzeros : Key.IsText zeros := hzeros ▸ Key.isText_text _
  replace hhalfText : Key.IsText half := hhalfText ▸ Key.isText_text _
  obtain ⟨zero, hzeroKey, -, hzeroText, -⟩ :=
    (fractionToKey_ofBits 0x8000000000000000).2.1 0 hzero le_rfl zero_le_one
  obtain ⟨-, hkey, hwidth, horder⟩ := fractionToKey_ofBits 0x3fe0000000000000
  obtain ⟨key, hkeyOk, -, hkeyText, -⟩ := hkey (1 / 2) hhalf (by norm_num) (by norm_num)
  exact ⟨hzero, ⟨zero, hzeroKey, hzeroText⟩, hhalf, ⟨key, hkeyOk, hkeyText⟩, hread,
    hwidth _ _ hread, hzeros, hhalfText, horder _ _ hzeros hhalfText,
    ((fractionToKey_ofBits 0x7ff8000000000000).1 _).mpr ⟨rfl, .inl hnan⟩⟩

end Cohort.Sampling
