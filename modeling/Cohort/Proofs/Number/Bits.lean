import Cohort.Proofs.Number.Arithmetic
import Mathlib

/-!
Doubles by their bits: a sign, eleven bits of exponent and fifty-two of mantissa. Every pattern of
64 bits is a rational number, an infinity or a NaN.
-/
namespace Cohort.Number
open Float.Model (UnpackedFloat)
open Float.Model.UnpackedFloat (Sign)

def signBit (bits : UInt64) : Bool := 2 ^ 63 ≤ bits.toNat

def exponentField (bits : UInt64) : ℕ := bits.toNat / 2 ^ 52 % 2 ^ 11

def mantissaField (bits : UInt64) : ℕ := bits.toNat % 2 ^ 52

/-- The size of the number with these bits. The mantissa counts the least doubles where the exponent
is zero, and is what follows a one where it is not. -/
def fieldsMagnitude (bits : UInt64) : ℚ :=
  if exponentField bits = 0 then mantissaField bits * 2 ^ (-1074 : ℤ)
  else (2 ^ 52 + mantissaField bits) * 2 ^ (exponentField bits - 1075 : ℤ)

/-- The number with these bits, the infinities being the bounds of all numbers, and nothing for a
NaN. -/
def fieldsValue? (bits : UInt64) : Option (WithBotTop ℚ) :=
  if exponentField bits = 2047 then
    if mantissaField bits = 0 then some (if signBit bits then ⊥ else ⊤) else none
  else some ((if signBit bits then -fieldsMagnitude bits else fieldsMagnitude bits : ℚ))

section Fields
variable (bits : UInt64)

lemma toNat_unpackMantissa :
    (@UnpackedFloat.unpackMantissa .binary64 bits.toBitVec).toNat = mantissaField bits := by
  change (bits.toNat >>> 0) % 2 ^ (51 - 0 + 1) = _
  rw [Nat.shiftRight_zero]
  rfl

lemma toNat_unpackExponent :
    (@UnpackedFloat.unpackExponent .binary64 bits.toBitVec).toNat = exponentField bits := by
  change (bits.toNat >>> 52) % 2 ^ (62 - 52 + 1) = _
  rw [Nat.shiftRight_eq_div_pow]
  rfl

lemma unpackExponent_eq_iff (exponent : BitVec 11) :
    @UnpackedFloat.unpackExponent .binary64 bits.toBitVec = exponent ↔
      exponentField bits = exponent.toNat := by
  rw [← BitVec.toNat_inj, toNat_unpackExponent]

lemma ofBitVec_unpackSign :
    Sign.ofBitVec (@UnpackedFloat.unpackSign .binary64 bits.toBitVec) =
      if signBit bits then .negative else .positive := by
  have hbit : @UnpackedFloat.unpackSign .binary64 bits.toBitVec = 0#1 ↔
      signBit bits = false := by
    rw [← BitVec.toNat_inj]
    change (bits.toNat >>> 63) % 2 ^ (63 - 63 + 1) = 0 ↔ _
    have := bits.toNat_lt
    rw [Nat.shiftRight_eq_div_pow, signBit, decide_eq_false_iff_not]
    omega
  cases h : signBit bits <;> simp [Sign.ofBitVec, hbit, h]

/-- A double has the bits that it was made from, unless these are a NaN. -/
theorem unpack_ofBits :
    (Float.ofBits bits).toModel.unpack = UnpackedFloat.unpack .binary64 bits.toBitVec := by
  have hcanonical := canonical_unpackBits bits.toBitVec
  change (Float.Model.pack (UnpackedFloat.unpack .binary64 bits.toBitVec)).unpack = _
  generalize UnpackedFloat.unpack .binary64 bits.toBitVec = u at *
  cases u with
  | notANumber => rfl
  | infinity sign => cases sign <;> rfl
  | zero | finite => exact unpack_pack hcanonical rfl

theorem isFinite_ofBits : (Float.ofBits bits).isFinite = true ↔ exponentField bits ≠ 2047 := by
  have hones : @UnpackedFloat.unpackExponent .binary64 bits.toBitVec = -1#_ ↔
      exponentField bits = 2047 := unpackExponent_eq_iff bits (-1#11)
  change (Float.ofBits bits).toModel.unpack.isFinite = true ↔ _
  rw [unpack_ofBits, UnpackedFloat.unpack, Ne, ← hones]
  split_ifs <;> simp_all [UnpackedFloat.isFinite]

lemma unpackedValue_finite (negative : Bool) {m : ℕ} (e : ℤ) (hm : 0 < m) :
    unpackedValue (.finite (if negative then .negative else .positive) m e hm) =
      if negative then -((m : ℚ) * 2 ^ e) else m * 2 ^ e := by
  cases negative <;> simp [unpackedValue, Sign.apply]

theorem exact_ofBits (h : exponentField bits ≠ 2047) :
    exact (.ofBits bits) = if signBit bits then -fieldsMagnitude bits else fieldsMagnitude bits := by
  have hones : ¬ @UnpackedFloat.unpackExponent .binary64 bits.toBitVec = -1#_ := by
    rw [unpackExponent_eq_iff]
    exact h
  rw [exact, unpack_ofBits, UnpackedFloat.unpack, if_neg hones, ofBitVec_unpackSign]
  by_cases hmin : @UnpackedFloat.unpackExponent .binary64 bits.toBitVec = 0#_
  · have hfield : exponentField bits = 0 := (unpackExponent_eq_iff bits 0#_).mp hmin
    rw [if_pos hmin, fieldsMagnitude, if_pos hfield]
    split
    next hzero =>
      have hmantissa : mantissaField bits = 0 :=
        (toNat_unpackMantissa bits).symm.trans (congrArg BitVec.toNat hzero)
      simp [unpackedValue, hmantissa]
    next =>
      rw [unpackedValue_finite, toNat_unpackMantissa, toNat_unpackExponent, hfield]
      rfl
  · have hfield : exponentField bits ≠ 0 := mt (unpackExponent_eq_iff bits 0#_).mpr hmin
    have hlead : (1#1 ++ @UnpackedFloat.unpackMantissa .binary64 bits.toBitVec).toNat
        = 2 ^ 52 + mantissaField bits := by
      rw [BitVec.toNat_append, ← Nat.shiftLeft_add_eq_or_of_lt (BitVec.isLt _),
        toNat_unpackMantissa]
      rfl
    rw [if_neg hmin, fieldsMagnitude, if_neg hfield, unpackedValue_finite, toNat_unpackExponent]
    simp only [hlead]
    push_cast
    rfl

/-- The bits of a double tell its value. -/
theorem fieldsValue?_eq_some_iff {v : ℚ} :
    fieldsValue? bits = some (v : WithBotTop ℚ) ↔
      (Float.ofBits bits).isFinite = true ∧ exact (.ofBits bits) = v := by
  rw [isFinite_ofBits, fieldsValue?]
  by_cases h : exponentField bits = 2047
  · rw [if_pos h]
    split_ifs <;> simp [h, (WithBotTop.coe_ne_bot v).symm, (WithBotTop.coe_ne_top v).symm]
  · rw [if_neg h, Option.some.injEq, WithBotTop.coe_injective.eq_iff, exact_ofBits bits h]
    simp [h]

end Fields

end Cohort.Number
