import Cohort.Number.Written
import Cohort.Proofs.Number.Exact
import Cohort.Proofs.Number.Decimal
import Mathlib

/-!
Doubles in canonical text. The text is that of a whole number just when the shortest digits of the
double stand for this number. All its characters may stand in a number, so that the text ends where
they do.
-/
namespace Cohort.Number
open Cohort.Text (isDigit digitsValue)
open Float.Model.UnpackedFloat (Sign)

namespace Decimal

def value (d : Decimal) : ℚ := d.digits * 10 ^ d.exponent

def Trimmed (d : Decimal) : Prop := d.digits ≠ 0 → d.digits % 10 ≠ 0

lemma trimmed_go {fuel : ℕ} {d : Decimal} (h : d.digits < 2 ^ (fuel + 1)) :
    (trim.go fuel d).Trimmed := by
  induction fuel generalizing d with
  | zero =>
    unfold trim.go Trimmed
    omega
  | succ fuel ih =>
    unfold trim.go
    split_ifs with hzero
    · refine ih ?_
      change d.digits / 10 < _
      rw [pow_succ] at h
      omega
    · exact fun hne hmod => hzero ⟨hne, hmod⟩

theorem trimmed_trim (d : Decimal) : d.trim.Trimmed := trimmed_go Nat.lt_log2_self

theorem value_of_nonneg {digits k : ℕ} : value ⟨digits, k⟩ = (digits * 10 ^ k : ℕ) := by
  simp [value]

/-- Trimmed digits that go on after the point are no whole number but zero. -/
theorem Trimmed.value_ne {d : Decimal} (hd : d.Trimmed) (hneg : d.exponent < 0) {n : ℕ}
    (hn : 0 < n) : d.value ≠ n := by
  obtain ⟨k, hk⟩ : ∃ k : ℕ, d.exponent = -(k + 1 : ℕ) := ⟨(-d.exponent - 1).toNat, by omega⟩
  intro h
  rw [value, hk, zpow_neg, zpow_natCast, ← div_eq_mul_inv, div_eq_iff (by positivity)] at h
  have hdigits : d.digits = n * 10 ^ (k + 1) := by exact_mod_cast h
  have hpos : 0 < d.digits := hdigits ▸ (by positivity)
  refine hd hpos.ne' ?_
  rw [hdigits, pow_succ, ← mul_assoc, Nat.mul_mod_left]

end Decimal

/-- The number that the shortest decimal of a double stands for; zero for zeros and for what is not
finite. -/
def shortestValue (x : Float) : ℚ :=
  match x.toModel.unpack with
  | .finite sign m e _ =>
    if negativeSign sign then -(shortest m e).value else (shortest m e).value
  | _ => 0

section Text
variable {d : Decimal} {n : ℕ}

theorem toDigits_mul_ten_pow (hn : 0 < n) (k : ℕ) :
    Nat.toDigits 10 (n * 10 ^ k) = Nat.toDigits 10 n ++ List.replicate k '0' := by
  induction k with
  | zero => simp
  | succ k ih =>
    have happend := Nat.toDigits_append_toDigits (b := 10) (n := n * 10 ^ k) (d := 0) (by decide)
      (by positivity) (by decide)
    rw [add_zero, Nat.toDigits_zero, ih] at happend
    rw [pow_succ, ← mul_assoc, mul_comm _ 10, ← happend, List.replicate_succ', List.append_assoc]

theorem toDigits_injective : Function.Injective (Nat.toDigits 10) := fun a b h => by
  rw [← digitsValue_toDigits (n := a), h, digitsValue_toDigits]

/-- Digits with zeros behind them are the digits of the number they stand for. -/
theorem toDigits_append_replicate_eq_iff {digits k : ℕ} (hn : 0 < n) :
    Nat.toDigits 10 digits ++ List.replicate k '0' = Nat.toDigits 10 n ↔ digits * 10 ^ k = n := by
  rcases digits.eq_zero_or_pos with rfl | hpos
  · refine ⟨fun h => ?_, fun h => by omega⟩
    have hvalue := congrArg (Nat.ofDigitChars 10 · 0) h
    simp only [Nat.ofDigitChars_append, Nat.ofDigitChars_ten_toDigits,
      Nat.ofDigitChars_replicate_zero] at hvalue
    omega
  · rw [← toDigits_mul_ten_pow hpos]
    exact toDigits_injective.eq_iff

theorem toList_positional_of_nonneg {digits k : ℕ} :
    (Decimal.positional ⟨digits, k⟩ "").toList
      = Nat.toDigits 10 digits ++ List.replicate k '0' := by
  rw [Decimal.positional, if_pos (Int.natCast_nonneg k)]
  simp [zeros]

theorem mem_positional_of_neg (h : d.exponent < 0) : '.' ∈ (d.positional "").toList := by
  rw [Decimal.positional, if_neg (not_le.mpr h)]
  dsimp only
  split_ifs <;> simp

theorem mem_scientific (d : Decimal) : 'e' ∈ (d.scientific "e+").toList := by
  unfold Decimal.scientific
  dsimp only
  split_ifs <;> simp

theorem isDigit_of_mem_toString {c : Char} (h : c ∈ (toString n).toList) : isDigit c = true := by
  rw [Nat.toString_eq_repr, Nat.toList_repr] at h
  exact isDigit_of_mem_toDigits h

lemma canonical_decimal (d : Decimal) :
    Style.canonical.decimal d =
      if -6 ≤ d.exponent + (toString d.digits).length - 1 ∧
          d.exponent + (toString d.digits).length - 1 < 21 then d.positional ""
      else d.scientific "e+" := rfl

/-- A decimal is written as a whole number when it stands for that number. -/
theorem canonical_decimal_eq_iff (hd : d.Trimmed) (hn : 0 < n) (hlt : n < 10 ^ 21) :
    Style.canonical.decimal d = toString n ↔ d.value = n := by
  have hmark {c : Char} {text : String} (hc : c ∈ text.toList) (hnot : isDigit c = false) :
      text ≠ toString n := by
    rintro rfl
    rw [isDigit_of_mem_toString hc] at hnot
    cases hnot
  rw [canonical_decimal]
  rcases lt_or_ge d.exponent 0 with hneg | hnonneg
  · refine iff_of_false ?_ (hd.value_ne hneg hn)
    split_ifs
    · exact hmark (mem_positional_of_neg hneg) rfl
    · exact hmark (mem_scientific d) rfl
  · obtain ⟨digits, exponent⟩ := d
    obtain ⟨k, rfl⟩ := Int.eq_ofNat_of_zero_le hnonneg
    have hwhole : (Decimal.positional ⟨digits, k⟩ "") = toString n
        ↔ (Decimal.value ⟨digits, k⟩) = n := by
      rw [← String.toList_inj, toList_positional_of_nonneg, Nat.toString_eq_repr, Nat.toList_repr,
        toDigits_append_replicate_eq_iff hn, Decimal.value_of_nonneg, Nat.cast_inj]
    split_ifs with hpower
    · exact hwhole
    · refine iff_of_false (hmark (mem_scientific _) rfl) (fun h => hpower ?_)
      have hlength := congrArg String.length (hwhole.mpr h)
      have hshort : (toString n).length ≤ 21 :=
        (Nat.length_repr_le_iff (by decide)).mpr hlt
      have hdigits : 0 < (toString digits).length := Nat.length_repr_pos
      rw [← String.length_toList, toList_positional_of_nonneg, List.length_append,
        List.length_replicate, ← Nat.toList_repr, String.length_toList] at hlength
      change digits.repr.length + k = _ at hlength
      change 0 < digits.repr.length at hdigits
      change -6 ≤ (k : ℤ) + digits.repr.length - 1 ∧ (k : ℤ) + digits.repr.length - 1 < 21
      omega

end Text

section Double
variable {x : Float}

/-- A double and an integer of the same sign are written alike just when the shortest decimal of the
double stands for the integer. -/
theorem canonical_text_eq_iff {n : ℤ} (hsign : 0 < exact x * n) (hlt : n.natAbs < 10 ^ 21) :
    Style.canonical.text x = toString n ↔ shortestValue x = n := by
  unfold Style.text shortestValue
  unfold exact at hsign
  generalize x.toModel.unpack = u at *
  cases u with
  | infinity | notANumber | zero => simp [unpackedValue] at hsign
  | finite sign m e hm =>
    have hsize : (0 : ℚ) < m * 2 ^ e := by positivity
    have htrim : (shortest m e).Trimmed := Decimal.trimmed_trim _
    cases sign with
    | positive =>
      simp only [unpackedValue, Sign.apply, Int.cast_natCast] at hsign
      have hn : 0 < n := by exact_mod_cast (mul_pos_iff_of_pos_left hsize).mp hsign
      obtain ⟨k, rfl⟩ := Int.eq_ofNat_of_zero_le hn.le
      exact canonical_decimal_eq_iff htrim (Int.natCast_pos.mp hn) hlt
    | negative =>
      simp only [unpackedValue, Sign.apply, Int.cast_neg, Int.cast_natCast, neg_mul] at hsign
      have hn : 0 < -n := by
        rw [← mul_neg] at hsign
        exact_mod_cast (mul_pos_iff_of_pos_left hsize).mp hsign
      obtain ⟨k, hk⟩ := Int.eq_ofNat_of_zero_le hn.le
      obtain rfl : n = -k := by omega
      have htext : toString (-k : ℤ) = "-" ++ toString k := by
        rw [← String.toList_inj, toList_toString_of_neg (by omega), neg_neg, Int.toNat_natCast,
          String.toList_append, Nat.toString_eq_repr, Nat.toList_repr]
        rfl
      have hdecimal := canonical_decimal_eq_iff htrim (n := k) (by omega) (by simpa using hlt)
      simp only [negativeSign, if_true, htext, String.append_right_inj, hdecimal, Int.cast_neg,
        Int.cast_natCast, neg_inj]

end Double

def isNumeral (c : Char) : Bool := isDigit c || c ∈ ['-', '+', '.', 'e']

def Numeral (text : String) : Prop := ∀ c ∈ text.toList, isNumeral c = true

namespace Numeral
variable {a b text : String}

theorem of_all (h : text.toList.all isNumeral = true) : Numeral text := List.all_eq_true.mp h

theorem append (ha : Numeral a) (hb : Numeral b) : Numeral (a ++ b) := fun c hc => by
  rw [String.toList_append, List.mem_append] at hc
  exact hc.elim (ha c) (hb c)

theorem ofList {chars : List Char} (h : Numeral text) (hsub : chars ⊆ text.toList) :
    Numeral (String.ofList chars) := fun c hc => by
  rw [String.toList_ofList] at hc
  exact h c (hsub hc)

theorem nat (n : ℕ) : Numeral (toString n) := fun c hc => by
  rw [isNumeral, isDigit_of_mem_toString hc, Bool.true_or]

theorem int (n : ℤ) : Numeral (toString n) := by
  rcases lt_or_ge n 0 with hneg | hnonneg
  · intro c hc
    rw [toList_toString_of_neg hneg, List.mem_cons] at hc
    obtain rfl | hc := hc
    · rfl
    · rw [isNumeral, isDigit_of_mem_toDigits hc, Bool.true_or]
  · obtain ⟨k, rfl⟩ := Int.eq_ofNat_of_zero_le hnonneg
    exact nat k

theorem zeros (n : ℕ) : Numeral (Number.zeros n) := fun c hc => by
  rw [Number.zeros, String.toList_ofList] at hc
  rw [List.eq_of_mem_replicate hc]
  rfl

theorem positional (d : Decimal) : Numeral (d.positional "") := by
  have hdigits := nat d.digits
  have hempty : Numeral "" := of_all rfl
  have hpoint : Numeral "." := of_all rfl
  have hzero : Numeral "0." := of_all rfl
  unfold Decimal.positional
  dsimp only
  split_ifs
  · exact (hdigits.append (zeros _)).append hempty
  · exact ((hdigits.ofList (List.take_subset _ _)).append hpoint).append
      (hdigits.ofList (List.drop_subset _ _))
  · exact (hzero.append (zeros _)).append hdigits

theorem scientific (d : Decimal) : Numeral (d.scientific "e+") := by
  have hdigits := nat d.digits
  have hempty : Numeral "" := of_all rfl
  have hpoint : Numeral "." := of_all rfl
  have hmark : Numeral "e" := of_all rfl
  have hmark' : Numeral "e+" := of_all rfl
  unfold Decimal.scientific
  dsimp only
  refine (((hdigits.ofList (List.take_subset _ _)).append ?_).append ?_).append (int _)
  · split_ifs
    · exact hempty
    · exact hpoint.append (hdigits.ofList (List.drop_subset _ _))
  · split_ifs
    · exact hmark
    · exact hmark'

theorem decimal (d : Decimal) : Numeral (Style.canonical.decimal d) := by
  rw [canonical_decimal]
  split_ifs
  · exact positional d
  · exact scientific d

/-- Nothing else stands in the canonical text of a finite double. -/
theorem canonical {x : Float} (hx : x.isFinite = true) : Numeral (Style.canonical.text x) := by
  have hminus : Numeral "-" := of_all rfl
  have hzero : Numeral ("0" ++ Style.canonical.wholeMark) := of_all rfl
  have hsigned {sign : Sign} {text : String} (h : Numeral text) :
      Numeral (if negativeSign sign then "-" ++ text else text) := by
    split_ifs
    · exact hminus.append h
    · exact h
  unfold Style.text
  change x.toModel.unpack.isFinite = true at hx
  generalize x.toModel.unpack = u at *
  cases u with
  | infinity | notANumber => cases hx
  | zero => exact hsigned hzero
  | finite => exact hsigned (decimal _)

end Numeral

end Cohort.Number
