import Cohort.Proofs.Value.IntegerArithmetic
import Mathlib

/-!
Powers of integers. A power is found by squaring, with every product in a word, and there is none as
soon as a product does not fit. The products only grow, so that happens just when the power itself
does not fit. Exponents from `2 ^ 32` on give a double at once, although the powers of 0, 1 and -1
fit for all of them.
-/
namespace Cohort
open Cohort.Number (FitsWord narrow? narrow?_eq_some_iff narrow?_eq_none_iff narrow?_toInt
  fitsWord_toInt toInt_of_narrow?)

namespace Number
variable {k m c : ℤ} {n : ℕ}

theorem not_fitsWord_of_natAbs (h : 2 ^ 63 < k.natAbs) : ¬FitsWord k := by
  unfold FitsWord
  omega

theorem not_fitsWord_mul (h : ¬FitsWord k) (hm : 1 ≤ m) : ¬FitsWord (k * m) := by
  unfold FitsWord at *
  rcases lt_or_ge k 0 with hneg | hpos
  · have hle : k * m ≤ k := by nlinarith
    omega
  · have hle : k ≤ k * m := by nlinarith
    omega

/-- A square that does not fit is greater than any word in size, as `2 ^ 63` is no square. -/
theorem lt_mul_self_of_not_fitsWord (h : ¬FitsWord (c * c)) : 2 ^ 63 < c * c := by
  have hnonneg : 0 ≤ c * c := mul_self_nonneg c
  have hle : 2 ^ 63 ≤ c * c := by
    unfold FitsWord at h
    omega
  refine lt_of_le_of_ne hle fun heq => ?_
  have hsquare : c.natAbs * c.natAbs = 2 ^ 63 := by
    rw [← Int.natAbs_mul, ← heq]
    rfl
  rcases le_or_gt c.natAbs 3037000499 with hsmall | hlarge
  · have hle := Nat.mul_le_mul hsmall hsmall
    omega
  · have hle := Nat.mul_le_mul hlarge hlarge
    omega

theorem not_fitsWord_mul_pow (hk : k ≠ 0) (hc : 2 ^ 63 < c) (hn : n ≠ 0) :
    ¬FitsWord (k * c ^ n) := by
  have hc' : 2 ^ 63 < c.natAbs := by omega
  apply not_fitsWord_of_natAbs
  calc 2 ^ 63 < c.natAbs := hc'
    _ ≤ c.natAbs ^ n := Nat.le_self_pow hn _
    _ ≤ k.natAbs * c.natAbs ^ n := Nat.le_mul_of_pos_left _ (Int.natAbs_pos.mpr hk)
    _ = (k * c ^ n).natAbs := by rw [Int.natAbs_mul, Int.natAbs_pow]

theorem not_fitsWord_pow (hk : 2 ≤ k.natAbs) (hn : 64 ≤ n) : ¬FitsWord (k ^ n) := by
  apply not_fitsWord_of_natAbs
  calc 2 ^ 63 < 2 ^ 64 := by decide
    _ ≤ 2 ^ n := Nat.pow_le_pow_right (by decide) hn
    _ ≤ k.natAbs ^ n := Nat.pow_le_pow_left hk n
    _ = (k ^ n).natAbs := (Int.natAbs_pow k n).symm

theorem pow_eq_of_natAbs_le_one (hk : k.natAbs ≤ 1) (hn : n ≠ 0) :
    k ^ n = if n % 2 = 0 then k * k else k := by
  obtain rfl | rfl | rfl : k = -1 ∨ k = 0 ∨ k = 1 := by omega
  · rcases n.even_or_odd with heven | hodd
    · rw [heven.neg_one_pow, if_pos (Nat.even_iff.mp heven)]
      rfl
    · rw [hodd.neg_one_pow, if_neg (Nat.mod_two_ne_zero.mpr (Nat.odd_iff.mp hodd))]
  · rw [zero_pow hn, mul_zero, ite_self]
  · rw [one_pow, mul_one, ite_self]

theorem fitsWord_pow (hk : k.natAbs ≤ 1) : FitsWord (k ^ n) := by
  have hsize : (k ^ n).natAbs ≤ 1 := by
    rw [Int.natAbs_pow]
    exact pow_le_one₀ (Nat.zero_le _) hk
  unfold FitsWord
  omega

/-- What stands in front of the power of the square when an exponent is halved. -/
def factor (k c : ℤ) (n : ℕ) : ℤ := if n % 2 = 1 then k * c else k

theorem mul_pow_eq_factor_mul (k c : ℤ) (n : ℕ) :
    k * c ^ n = factor k c n * (c * c) ^ (n / 2) := by
  have hpow : c ^ n = c ^ (n % 2) * (c * c) ^ (n / 2) := by
    rw [← pow_two, ← pow_mul, ← pow_add, Nat.mod_add_div]
  rw [hpow, ← mul_assoc, factor]
  rcases Nat.mod_two_eq_zero_or_one n with h | h <;> simp [h]

/-- If the factor in front vanishes with the base only, it keeps doing so. -/
theorem eq_zero_of_factor (h : k = 0 → c = 0) (hfactor : factor k c n = 0) : c = 0 := by
  unfold factor at hfactor
  split_ifs at hfactor
  · exact (mul_eq_zero.mp hfactor).elim h id
  · exact h hfactor

theorem ne_zero_of_not_fitsWord_factor (hk : FitsWord k) (h : ¬FitsWord (factor k c n)) :
    c ≠ 0 := by
  rintro rfl
  unfold factor at h
  split_ifs at h
  · exact h (by rw [mul_zero]; decide)
  · exact h hk

end Number

namespace Operators
open Number

/-- A word times a power of another one by squaring. There is none as soon as a product does not
fit. -/
def squarings? (found base : Int64) (exponent : ℕ) : Option Int64 :=
  if exponent = 0 then some found
  else
    (narrow? (factor found.toInt base.toInt exponent)).bind fun found =>
      if exponent = 1 then some found
      else
        (narrow? (base.toInt * base.toInt)).bind fun square =>
          squarings? found square (exponent / 2)
termination_by exponent
decreasing_by omega

/-- No product is too large on the way to a power that fits, unless the factor in front is zero and
the base is not. -/
theorem squarings?_eq {found base : Int64} (h : found.toInt = 0 → base.toInt = 0) (n : ℕ) :
    squarings? found base n = narrow? (found.toInt * base.toInt ^ n) := by
  induction n using Nat.strong_induction_on generalizing found base with
  | _ n ih =>
    by_cases hzero : n = 0
    · rw [squarings?, if_pos hzero, hzero, pow_zero, mul_one, narrow?_toInt]
    rw [squarings?, if_neg hzero, mul_pow_eq_factor_mul]
    cases hfound : narrow? (factor found.toInt base.toInt n) with
    | none =>
      have hfits : ¬FitsWord (factor found.toInt base.toInt n) := narrow?_eq_none_iff.mp hfound
      have hbase : base.toInt ≠ 0 := ne_zero_of_not_fitsWord_factor (fitsWord_toInt found) hfits
      have hsquares : 1 ≤ (base.toInt * base.toInt) ^ (n / 2) :=
        one_le_pow₀ (mul_self_pos.mpr hbase)
      exact (narrow?_eq_none_iff.mpr (not_fitsWord_mul hfits hsquares)).symm
    | some found' =>
      have hfound' := toInt_of_narrow? hfound
      rw [Option.bind_some]
      split_ifs with hone
      · rw [hone, Nat.div_eq_of_lt one_lt_two, pow_zero, mul_one, ← hone, hfound]
      cases hsquare : narrow? (base.toInt * base.toInt) with
      | none =>
        have hlarge := lt_mul_self_of_not_fitsWord (narrow?_eq_none_iff.mp hsquare)
        have hne : factor found.toInt base.toInt n ≠ 0 := fun hfactor => by
          rw [eq_zero_of_factor h hfactor] at hlarge
          omega
        have hhalf : n / 2 ≠ 0 := by omega
        exact (narrow?_eq_none_iff.mpr (not_fitsWord_mul_pow hne hlarge hhalf)).symm
      | some square =>
        have hsquare' := toInt_of_narrow? hsquare
        rw [Option.bind_some, ih (n / 2) (by omega), hfound', hsquare']
        intro hfactor
        rw [hsquare', eq_zero_of_factor h (hfound'.symm.trans hfactor), mul_zero]

theorem wordPower?_eq (base : ℤ) (n : ℕ) : wordPower? base n = narrow? (base ^ n) := by
  unfold wordPower?
  by_cases hzero : n = 0
  · rw [if_pos hzero, hzero, pow_zero]
    rfl
  rw [if_neg hzero]
  dsimp only
  split_ifs with hsmall heven hlarge
  · rw [pow_eq_of_natAbs_le_one hsmall hzero, if_pos heven]
  · rw [pow_eq_of_natAbs_le_one hsmall hzero, if_neg heven]
  · exact (narrow?_eq_none_iff.mpr (not_fitsWord_pow (not_le.mp hsmall) hlarge)).symm
  · rfl

def floatPower (a b : Int64) : Float := Float.pow (Float.ofInt a.toInt) (Float.ofInt b.toInt)

variable {a b : Int64}

theorem power_of_small (hb : 0 ≤ b.toInt) (hsmall : b.toInt < 2 ^ 32) :
    power (.int a) (.int b) =
      .ok (((narrow? (a.toInt ^ b.toInt.toNat)).map Value.int).getD (.float (floatPower a b))) := by
  rw [← wordPower?_eq]
  unfold power
  dsimp only
  rw [if_pos ⟨hb, hsmall⟩]
  cases wordPower? a.toInt b.toInt.toNat <;> rfl

theorem power_of_large (hlarge : 2 ^ 32 ≤ b.toInt) :
    power (.int a) (.int b) = .ok (.float (floatPower a b)) := by
  unfold power
  dsimp only
  rw [if_neg fun h => absurd h.2 (not_lt.mpr hlarge)]
  rfl

/-- Powers to large exponents fit only if the base does not grow. -/
theorem power_eq (hb : 0 ≤ b.toInt) (h : ¬(a.toInt.natAbs ≤ 1 ∧ 2 ^ 32 ≤ b.toInt)) :
    power (.int a) (.int b) =
      .ok (((narrow? (a.toInt ^ b.toInt.toNat)).map Value.int).getD (.float (floatPower a b))) := by
  rcases lt_or_ge b.toInt (2 ^ 32) with hsmall | hlarge
  · exact power_of_small hb hsmall
  · have hbase : 2 ≤ a.toInt.natAbs := by omega
    have hexponent : 64 ≤ b.toInt.toNat := by omega
    rw [power_of_large hlarge, narrow?_eq_none_iff.mpr (not_fitsWord_pow hbase hexponent)]
    rfl

end Operators

namespace Grammar
open Operators
variable {a b : Int64}

theorem givesWord_power (hb : 0 ≤ b.toInt) (h : ¬(a.toInt.natAbs ≤ 1 ∧ 2 ^ 32 ≤ b.toInt)) :
    GivesWord "^" a b (a.toInt ^ b.toInt.toNat) (floatPower a b) := by
  constructor
  · intro m
    rw [gives_iff rfl, power_eq hb h, ← narrow?_eq_some_iff]
    cases narrow? (a.toInt ^ b.toInt.toNat) <;> simp
  · intro y
    rw [gives_iff rfl, power_eq hb h, ← narrow?_eq_none_iff]
    cases narrow? (a.toInt ^ b.toInt.toNat) <;> simp [eq_comm]

/-- A power of integers to an exponent that is not negative is exact where it fits a word and a
double where it does not, and squaring words finds it as long as it fits. Only the powers of 0, 1
and -1 to exponents from `2 ^ 32` on are doubles although they fit. -/
theorem powers_exact (a b : Int64) (hb : 0 ≤ b.toInt) :
    let exact := a.toInt ^ b.toInt.toNat
    wordPower? a.toInt b.toInt.toNat = squarings? 1 a b.toInt.toNat ∧
    (¬(a.toInt.natAbs ≤ 1 ∧ 2 ^ 32 ≤ b.toInt) → GivesWord "^" a b exact (floatPower a b)) ∧
    (a.toInt.natAbs ≤ 1 → 2 ^ 32 ≤ b.toInt →
      FitsWord exact ∧ standard.Gives "^" (.int a) (.int b) (.float (floatPower a b))) := by
  intro exact
  refine ⟨?_, givesWord_power hb, fun hsmall hlarge => ⟨Number.fitsWord_pow hsmall, ?_⟩⟩
  · have hone : (1 : Int64).toInt = 1 := rfl
    rw [wordPower?_eq, squarings?_eq (by rw [hone]; omega), hone, one_mul]
  · exact (gives_iff rfl).mpr (power_of_large hlarge)

/-- The least word is a power of `-2`, and `2 ^ 63` is no word. -/
theorem powers_exact_least :
    (0 ≤ (63 : Int64).toInt ∧ (63 : Int64).toInt < 2 ^ 32) ∧
      standard.Gives "^" (.int (-2)) (.int 63) (.int Int64.minValue) ∧
      standard.Gives "^" (.int 2) (.int 63) (.float (floatPower 2 63)) := by
  have hb : 0 ≤ (63 : Int64).toInt := by decide
  have hsmall : (63 : Int64).toInt < 2 ^ 32 := by decide
  obtain ⟨-, hleast, -⟩ := powers_exact (-2) 63 hb
  obtain ⟨-, hnext, -⟩ := powers_exact 2 63 hb
  have hexponent (a : Int64) : ¬(a.toInt.natAbs ≤ 1 ∧ 2 ^ 32 ≤ (63 : Int64).toInt) :=
    fun h => hsmall.not_ge h.2
  exact ⟨⟨hb, hsmall⟩, ((hleast (hexponent _)).int _).mpr (by decide),
    ((hnext (hexponent _)).float _).mpr ⟨by decide, rfl⟩⟩

/-- All powers of one are one, and the one to the exponent `2 ^ 32` is a double. -/
theorem power_of_one :
    let exponent : Int64 := 4294967296
    0 ≤ exponent.toInt ∧ (1 : Int64).toInt ^ exponent.toInt.toNat = 1 ∧ FitsWord 1 ∧
      standard.Gives "^" (.int 1) (.int exponent) (.float (floatPower 1 exponent)) ∧
      ¬standard.Gives "^" (.int 1) (.int exponent) (.int 1) := by
  intro exponent
  have hpower : power (.int 1) (.int exponent) = .ok (.float (floatPower 1 exponent)) :=
    power_of_large (by decide)
  refine ⟨by decide, one_pow _, by decide, (gives_iff rfl).mpr hpower, fun h => ?_⟩
  cases hpower.symm.trans ((gives_iff rfl).mp h)

end Grammar

end Cohort
