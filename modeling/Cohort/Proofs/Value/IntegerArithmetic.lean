import Cohort.Proofs.Value.Division
import Mathlib

/-!
Arithmetic on integers. A sum, a difference or a product of two integers is exact where it fits a
word and a double where it does not, and nothing wraps around. Quotients are exact when they are
integers, floors and remainders always, but for the one pair of integers whose quotient is no word.
The operators that divide use operations on words that may trap, and none of these does.
-/
namespace Cohort
open Cohort.Number (FitsWord narrow? narrow?_eq_some_iff narrow?_eq_none_iff exists_toInt_eq_iff
  toInt_ofInt_of_fitsWord fitsWord_tdiv_iff fitsWord_fdiv fitsWord_tmod fdiv_eq_floor toInt_ne_zero
  quotient? quotient?_eq_some_iff remainder? remainder?_eq_some_iff remainder?_eq_zero_iff)

namespace Operators

namespace Arithmetic
variable (op : Arithmetic) {a b m : Int64} {x : Float}

/-- The result is an integer just when the operation on words has one. -/
theorem apply_eq_int_iff :
    op.apply (.int a) (.int b) = .ok (.int m) ↔ op.onWords a b = some m := by
  simp only [apply]
  cases op.onWords a b <;> simp

theorem apply_eq_float_iff :
    op.apply (.int a) (.int b) = .ok (.float x) ↔
      op.onWords a b = none ∧ x = op.onFloats (Float.ofInt a.toInt) (Float.ofInt b.toInt) := by
  simp only [apply]
  cases op.onWords a b <;> simp [eq_comm]

end Arithmetic

section Words
variable {a b : Int64}

theorem divide_eq_int_iff (hb : b ≠ 0) {q : Int64} :
    divide (.int a) (.int b) = .ok (.int q) ↔ a.toInt = q.toInt * b.toInt := by
  rw [← Option.some.injEq, ← divideWords?_eq_some_divide hb, divideWords?]
  split_ifs with hzero
  · obtain ⟨k, hk⟩ := (remainder?_eq_zero_iff hb).mp hzero
    have hquotient : quotient? a b = some k := by
      rw [quotient?_eq_some_iff hb, hk, Int.mul_tdiv_cancel _ (toInt_ne_zero hb)]
    rw [hquotient, hk, mul_left_inj' (toInt_ne_zero hb), Int64.toInt_inj]
    simp
  · refine iff_of_false (by simp) fun h => hzero ?_
    exact (remainder?_eq_zero_iff hb).mpr ⟨q, h⟩

theorem divide_eq_float_iff (hb : b ≠ 0) {x : Float} :
    divide (.int a) (.int b) = .ok (.float x) ↔
      (∀ q : Int64, a.toInt ≠ q.toInt * b.toInt) ∧
        x = Float.ofInt a.toInt / Float.ofInt b.toInt := by
  rw [← not_exists, ← remainder?_eq_zero_iff hb, ← Option.some.injEq,
    ← divideWords?_eq_some_divide hb, divideWords?]
  split_ifs with hzero
  · obtain ⟨q, hq, -⟩ := Option.bind_eq_some_iff.mp hzero
    simp [hq, hzero]
  · simp [hzero, eq_comm]

theorem floorDivide_ints (hb : b ≠ 0) (h : FitsWord (a.toInt.tdiv b.toInt)) :
    floorDivide (.int a) (.int b) = .ok (.int (Int64.ofInt (a.toInt.fdiv b.toInt))) := by
  rw [← Option.some.injEq, ← floorDivideWords?_eq_some_floorDivide hb, floorDivideWords?_eq hb,
    if_pos h]

theorem modulo_ints (hb : b ≠ 0) :
    modulo (.int a) (.int b) = remainder.apply (.int a) (.int b) := by
  rw [modulo, dividesByZero_eq_false hb, if_neg Bool.false_ne_true]

end Words

end Operators

namespace Grammar
open Operators
variable {symbol : String} {precedence : Int32} {apply : Value → Value → Outcome} {a b : Int64}

/-- An operator gives two integers the integer `n` when it fits a word, and otherwise the double
`x`. -/
structure GivesWord (symbol : String) (a b : Int64) (n : ℤ) (x : Float) : Prop where
  int (m : Int64) : standard.Gives symbol (.int a) (.int b) (.int m) ↔ m.toInt = n
  float (y : Float) : standard.Gives symbol (.int a) (.int b) (.float y) ↔ ¬FitsWord n ∧ y = x

theorem givesWord (op : Arithmetic) {n : ℤ}
    (hop : standard.binary.get? symbol = some ⟨precedence, .eager apply⟩)
    (happly : apply (.int a) (.int b) = op.apply (.int a) (.int b))
    (hn : op.onWords a b = narrow? n) :
    GivesWord symbol a b n (op.onFloats (Float.ofInt a.toInt) (Float.ofInt b.toInt)) := by
  constructor
  · intro m
    rw [gives_iff hop, happly, op.apply_eq_int_iff, hn, narrow?_eq_some_iff]
  · intro y
    rw [gives_iff hop, happly, op.apply_eq_float_iff, hn, narrow?_eq_none_iff]

theorem gives_floorDivide (hb : b ≠ 0) (h : FitsWord (a.toInt.tdiv b.toInt)) :
    ∃ q : Int64, standard.Gives "//" (.int a) (.int b) (.int q) ∧
      q.toInt = ⌊(a.toInt / b.toInt : ℚ)⌋ := by
  refine ⟨_, (gives_iff rfl).mpr (floorDivide_ints hb h), ?_⟩
  rw [toInt_ofInt_of_fitsWord (fitsWord_fdiv (toInt_ne_zero hb) h), fdiv_eq_floor]

theorem gives_modulo (hb : b ≠ 0) (h : FitsWord (a.toInt.tdiv b.toInt)) :
    ∃ r : Int64, standard.Gives "%" (.int a) (.int b) (.int r) ∧
      r.toInt = a.toInt.tmod b.toInt := by
  obtain ⟨r, hr⟩ := exists_toInt_eq_iff.mpr (fitsWord_tmod (a := a) (toInt_ne_zero hb))
  refine ⟨r, (gives_iff rfl).mpr ?_, hr⟩
  rw [modulo_ints hb, remainder.apply_eq_int_iff]
  exact (remainder?_eq_some_iff hb).mpr ⟨h, hr⟩

/-- What remains has the sign of the dividend and is less than the divisor. -/
lemma tmod_bounds (m : ℤ) {n : ℤ} (hn : n ≠ 0) :
    (0 ≤ m → 0 ≤ m.tmod n) ∧ (m ≤ 0 → m.tmod n ≤ 0) ∧ |m.tmod n| < |n| := by
  refine ⟨Int.tmod_nonneg n, fun hm => ?_, ?_⟩
  · have hnonneg := Int.tmod_nonneg n (neg_nonneg.mpr hm)
    rw [Int.neg_tmod] at hnonneg
    omega
  · rw [Int.abs_eq_natAbs, Int.abs_eq_natAbs, Int.natAbs_tmod]
    exact_mod_cast Nat.mod_lt _ (Int.natAbs_pos.mpr hn)

/-- Integers are added, subtracted and multiplied exactly where the result fits a word, and as
doubles where it does not. They are divided by operations on words that never trap. A quotient is
an integer just when it is one that fits. Where the quotient fits when it is cut off, which is
always but for one pair of integers, its floor and the remainder are integers, and the remainder
has the sign of the dividend and is less than the divisor. -/
theorem integers_exact (a b : Int64) :
    GivesWord "+" a b (a.toInt + b.toInt) (Float.ofInt a.toInt + Float.ofInt b.toInt) ∧
    GivesWord "-" a b (a.toInt - b.toInt) (Float.ofInt a.toInt - Float.ofInt b.toInt) ∧
    GivesWord "*" a b (a.toInt * b.toInt) (Float.ofInt a.toInt * Float.ofInt b.toInt) ∧
    (b ≠ 0 →
      divideWords? a b = some (divide (.int a) (.int b)) ∧
      floorDivideWords? a b = some (floorDivide (.int a) (.int b)) ∧
      (∀ q : Int64, standard.Gives "/" (.int a) (.int b) (.int q) ↔
        a.toInt = q.toInt * b.toInt) ∧
      ∀ y, standard.Gives "/" (.int a) (.int b) (.float y) ↔
        (∀ q : Int64, a.toInt ≠ q.toInt * b.toInt) ∧
          y = Float.ofInt a.toInt / Float.ofInt b.toInt) ∧
    (b ≠ 0 → ¬(a = Int64.minValue ∧ b = -1) →
      (∃ q : Int64, standard.Gives "//" (.int a) (.int b) (.int q) ∧
        q.toInt = ⌊(a.toInt / b.toInt : ℚ)⌋) ∧
      ∃ r : Int64, standard.Gives "%" (.int a) (.int b) (.int r) ∧
        r.toInt = a.toInt - b.toInt * a.toInt.tdiv b.toInt ∧
        (0 ≤ a.toInt → 0 ≤ r.toInt) ∧ (a.toInt ≤ 0 → r.toInt ≤ 0) ∧
          |r.toInt| < |b.toInt|) := by
  refine ⟨givesWord addition rfl rfl rfl, givesWord subtraction rfl rfl rfl,
    givesWord multiplication rfl rfl rfl,
    fun hb => ⟨divideWords?_eq_some_divide hb, floorDivideWords?_eq_some_floorDivide hb,
      fun q => (gives_iff rfl).trans (divide_eq_int_iff hb),
      fun y => (gives_iff rfl).trans (divide_eq_float_iff hb)⟩,
    fun hb hpair => ?_⟩
  have hfits : FitsWord (a.toInt.tdiv b.toInt) := fitsWord_tdiv_iff.mpr hpair
  obtain ⟨r, hgives, hr⟩ := gives_modulo hb hfits
  refine ⟨gives_floorDivide hb hfits, r, hgives, hr.trans (Int.tmod_def ..), ?_⟩
  rw [hr]
  exact tmod_bounds a.toInt (toInt_ne_zero hb)

/-- The least integer by three: the floor is one less than what is left of the quotient when it is
cut off, and the difference of the two does not fit. -/
theorem integers_exact_least :
    (3 : Int64) ≠ 0 ∧ (3 : Int64) ≠ -1 ∧
    standard.Gives "//" (.int Int64.minValue) (.int 3) (.int (-3074457345618258603)) ∧
    standard.Gives "%" (.int Int64.minValue) (.int 3) (.int (-2)) ∧
    standard.Gives "-" (.int Int64.minValue) (.int 3)
      (.float (Float.ofInt Int64.minValue.toInt - Float.ofInt (3 : Int64).toInt)) ∧
    ∀ q : Int64, ¬standard.Gives "/" (.int Int64.minValue) (.int 3) (.int q) := by
  have hb : (3 : Int64) ≠ 0 := by decide
  have hb' : (3 : Int64) ≠ -1 := by decide
  obtain ⟨-, hminus, -, hquotient, hrest⟩ := integers_exact Int64.minValue 3
  obtain ⟨⟨q, hfloor, hq⟩, r, hmodulo, hr, -⟩ := hrest hb fun hpair => hb' hpair.2
  have hq' : q = -3074457345618258603 := by
    rw [← Int64.toInt_inj, hq]
    decide +kernel
  have hr' : r = -2 := by
    rw [← Int64.toInt_inj, hr]
    decide
  refine ⟨hb, hb', hq' ▸ hfloor, hr' ▸ hmodulo, (hminus.float _).mpr ⟨by decide, rfl⟩, ?_⟩
  intro q hgives
  have hmul : Int64.minValue.toInt = q.toInt * 3 := ((hquotient hb).2.2.1 q).mp hgives
  change -9223372036854775808 = q.toInt * 3 at hmul
  omega

end Grammar

end Cohort
