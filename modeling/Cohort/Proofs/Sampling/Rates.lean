import Cohort.Proofs.Sampling.Keys
import Mathlib

/-!
Samples by rate. Raising the rate only ever adds values to the sample, the rate zero samples
nothing, and the rate one leaves out the last point of the key space alone.
-/
namespace Cohort.Sampling
open Number

/-- A result whose value is known is that value. -/
lemma eq_ok_of_toOption {ε α : Type} {x : Except ε α} {a : α} (h : x.toOption = some a) :
    x = .ok a := by
  cases x with
  | error => cases h
  | ok => cases h; rfl

/-- The text of a key always has the width that is asked for. -/
@[simp] theorem checkWidth_text (key : Key) : checkWidth key.text = .ok () := by
  simp [checkWidth]

/-- Comparing texts comes to comparing points of the key space. -/
theorem belowRate_eq (hash : Key) (rate : Float) :
    belowRate hash rate = (fractionToKey rate).map fun point => decide (hash < point) := by
  unfold belowRate
  cases fractionToKey rate with
  | error fault => rfl
  | ok point =>
    simp only [bind, Except.bind, checkWidth_text, pure, Except.pure, Except.map, Key.text_lt_text]

theorem belowRate_eq_true_iff {hash : Key} {rate : Float} :
    belowRate hash rate = .ok true ↔ ∃ point, fractionToKey rate = .ok point ∧ hash < point := by
  rw [belowRate_eq]
  cases fractionToKey rate <;> simp [Except.map]

theorem fractionToKey_le_fractionToKey {x y : Float} {a b : Key} (ha : fractionToKey x = .ok a)
    (hb : fractionToKey y = .ok b) (h : exact x ≤ exact y) : a ≤ b := by
  obtain ⟨-, -, -, ha⟩ := fractionToKey_eq_ok_iff.mp ha
  obtain ⟨-, -, -, hb⟩ := fractionToKey_eq_ok_iff.mp hb
  rw [BitVec.le_def, ha, hb]
  exact Nat.floor_le_floor (by gcongr)

/-- The fraction zero is the first point of the key space. -/
theorem fractionToKey_of_exact_eq_zero {x : Float} (hx : x.isFinite = true) (h : exact x = 0) :
    fractionToKey x = .ok 0 :=
  fractionToKey_eq_ok_iff.mpr ⟨hx, h.ge, by rw [h]; exact zero_le_one, by simp [h]⟩

/-- The fraction one is the last point of the key space. -/
theorem fractionToKey_of_exact_eq_one {x : Float} (hx : x.isFinite = true) (h : exact x = 1) :
    fractionToKey x = .ok (BitVec.allOnes 256) := by
  refine fractionToKey_eq_ok_iff.mpr ⟨hx, by rw [h]; exact zero_le_one, h.le, ?_⟩
  rw [h, BitVec.toNat_allOnes, mul_one]
  exact_mod_cast (Nat.floor_natCast (R := ℚ) (2 ^ 256 - 1)).symm

theorem isFinite_zero_and_exact : (0.0 : Float).isFinite = true ∧ exact 0.0 = 0 := ⟨by rfl, by rfl⟩

theorem isFinite_neg_zero_and_exact : (-0.0 : Float).isFinite = true ∧ exact (-0.0) = 0 :=
  ⟨by rfl, by rfl⟩

theorem isFinite_one_and_exact : (1.0 : Float).isFinite = true ∧ exact 1.0 = 1 := by
  refine ⟨by rfl, ?_⟩
  have h : (1.0 : Float).toModel.unpack = .finite .positive (2 ^ 52) (-52) (by decide) := by rfl
  rw [exact, h]
  norm_num [unpackedValue, Float.Model.UnpackedFloat.Sign.apply]

theorem text_allOnes : Key.text (BitVec.allOnes 256) = String.ofList (List.replicate 64 'f') := by
  decide +kernel

theorem belowRate_mono {hash : Key} {r₁ r₂ : Float} (hle : r₁ ≤ r₂) (hone : r₂ ≤ 1.0)
    (h : belowRate hash r₁ = .ok true) : belowRate hash r₂ = .ok true := by
  obtain ⟨point₁, hkey₁, hbelow⟩ := belowRate_eq_true_iff.mp h
  obtain ⟨hfin₁, hnonneg, -, -⟩ := fractionToKey_eq_ok_iff.mp hkey₁
  obtain ⟨hfin, hexact⟩ := isFinite_one_and_exact
  have hfin₂ := isFinite_of_le_of_le hfin₁ hfin hle hone
  have hle' := (le_iff_exact_le_exact hfin₁ hfin₂).mp hle
  have hone' := (le_iff_exact_le_exact hfin₂ hfin).mp hone
  obtain ⟨point₂, hkey₂⟩ := exists_fractionToKey hfin₂ (hnonneg.trans hle') (hexact ▸ hone')
  have hpoints := fractionToKey_le_fractionToKey hkey₁ hkey₂ hle'
  refine belowRate_eq_true_iff.mpr ⟨point₂, hkey₂, ?_⟩
  rw [BitVec.lt_def] at hbelow ⊢
  exact lt_of_lt_of_le hbelow hpoints

theorem belowRate_of_exact_eq_zero (hash : Key) {rate : Float} (hfin : rate.isFinite = true)
    (h : exact rate = 0) : belowRate hash rate = .ok false := by
  rw [belowRate_eq, fractionToKey_of_exact_eq_zero hfin h]
  simp [Except.map]

theorem belowRate_one {hash : Key} (h : hash ≠ BitVec.allOnes 256) :
    belowRate hash 1.0 = .ok true := by
  obtain ⟨hfin, hexact⟩ := isFinite_one_and_exact
  refine belowRate_eq_true_iff.mpr ⟨_, fractionToKey_of_exact_eq_one hfin hexact, ?_⟩
  have hne : hash.toNat ≠ (BitVec.allOnes 256).toNat := fun heq => h (BitVec.eq_of_toNat_eq heq)
  have hlt := hash.isLt
  rw [BitVec.lt_def]
  rw [BitVec.toNat_allOnes] at hne ⊢
  omega

/-- Raising the rate only adds values to a sample, whatever the digest. -/
theorem stableSampleUnder_mono (digest : List UInt8 → Key) (value : Value) :
    (∀ r₁ r₂ : Float, r₁ ≤ r₂ → r₂ ≤ 1.0 → stableSampleUnder digest value r₁ = .ok true →
      stableSampleUnder digest value r₂ = .ok true) ∧
    stableSampleUnder digest value 0.0 = .ok false ∧
    stableSampleUnder digest value (-0.0) = .ok false ∧
    ((hashUnder digest value).text ≠ String.ofList (List.replicate 64 'f') →
      stableSampleUnder digest value 1.0 = .ok true) := by
  refine ⟨fun r₁ r₂ hle hone h => belowRate_mono hle hone h, ?_, ?_, fun h => ?_⟩
  · exact belowRate_of_exact_eq_zero _ isFinite_zero_and_exact.1 isFinite_zero_and_exact.2
  · exact belowRate_of_exact_eq_zero _ isFinite_neg_zero_and_exact.1 isFinite_neg_zero_and_exact.2
  · exact belowRate_one fun heq => h (by rw [heq, text_allOnes])

theorem stableSampleUnder_mono_sha256 :
    (0.2 : Float) ≤ 0.7 ∧ (0.7 : Float) ≤ 1.0 ∧
    stableSampleUnder Sha256.digest (.array [.string "test-1"]) 0.2 = .ok true ∧
    stableSampleUnder Sha256.digest (.array [.string "test-1"]) 0.7 = .ok true ∧
    stableSampleUnder Sha256.digest (.array [.string "test-1"]) 1.0 = .ok true := by
  have hle : (0.2 : Float) ≤ 0.7 := by decide +kernel
  have hone : (0.7 : Float) ≤ 1.0 := by decide +kernel
  have hlow : stableSampleUnder Sha256.digest (.array [.string "test-1"]) 0.2 = .ok true :=
    eq_ok_of_toOption (by decide +kernel)
  have hlast : (hashUnder Sha256.digest (.array [.string "test-1"])).text ≠
      String.ofList (List.replicate 64 'f') := by decide +kernel
  have h := stableSampleUnder_mono Sha256.digest (.array [.string "test-1"])
  exact ⟨hle, hone, hlow, h.1 _ _ hle hone hlow, h.2.2.2 hlast⟩

end Cohort.Sampling
