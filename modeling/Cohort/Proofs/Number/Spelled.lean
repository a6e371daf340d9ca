import Cohort.Proofs.Number.Decimal
import Cohort.Proofs.Number.Reading
import Cohort.Proofs.Text.Classes
import Mathlib

/-!
Numbers spelled by digits, with a minus sign before them or not, and with a fraction or not. Such a
text always reads as a number.
-/
namespace Cohort.Number
open Cohort.Text (Ends isDigit digitsValue toLower_of_isDigit)

def Digits (text : List Char) : Prop := text ≠ [] ∧ ∀ c ∈ text, isDigit c = true

theorem digits_singleton {c : Char} (h : isDigit c = true) : Digits [c] :=
  ⟨List.cons_ne_nil _ _, List.forall_mem_singleton.mpr h⟩

def minus (negative : Bool) : List Char := if negative then ['-'] else []

def pointed : Option (List Char) → List Char
  | none => []
  | some fraction => '.' :: fraction

def signed (negative : Bool) (n : ℤ) : ℤ := if negative then -n else n

/-- The number that digits with a fraction or without stand for. -/
def decimal (whole : List Char) (fraction : Option (List Char)) : ℚ :=
  digitsValue (whole ++ fraction.getD []) / 10 ^ (fraction.getD []).length

section Digits
variable {digits : List Char}

theorem endsNumber_pointed (fraction : Option (List Char)) : EndsNumber (pointed fraction) := by
  intro c hc
  cases fraction with
  | none => cases hc
  | some fraction =>
    cases hc
    rfl

theorem Digits.exists_cons (h : Digits digits) :
    ∃ c rest, digits = c :: rest ∧ isDigit c = true := by
  obtain ⟨c, rest, rfl⟩ := List.exists_cons_of_ne_nil h.1
  exact ⟨c, rest, rfl, h.2 c List.mem_cons_self⟩

theorem exists_toList_toString_eq (n : ℤ) :
    ∃ negative whole, (toString n).toList = minus negative ++ whole ∧ Digits whole ∧
      signed negative (digitsValue whole) = n := by
  have hdigits (k : ℕ) : Digits (Nat.toDigits 10 k) :=
    ⟨Nat.toDigits_ne_nil, fun _ => isDigit_of_mem_toDigits⟩
  by_cases h : 0 ≤ n
  · refine ⟨false, Nat.toDigits 10 n.toNat, toList_toString_of_nonneg h, hdigits _, ?_⟩
    rw [digitsValue_toDigits]
    exact Int.toNat_of_nonneg h
  · refine ⟨true, Nat.toDigits 10 (-n).toNat, toList_toString_of_neg (not_le.mp h), hdigits _, ?_⟩
    rw [digitsValue_toDigits, signed, if_pos rfl]
    omega

end Digits

section Reading
variable {whole : List Char} {fraction : Option (List Char)}

theorem splitSign_minus (negative : Bool) (hwhole : Digits whole) (rest : List Char) :
    splitSign (minus negative ++ (whole ++ rest)) = (negative, whole ++ rest) := by
  cases negative with
  | true => rfl
  | false =>
    obtain ⟨c, digits, rfl, hc⟩ := hwhole.exists_cons
    change splitSign (c :: (digits ++ rest)) = _
    unfold splitSign
    split
    next heq =>
      rw [(List.cons.inj heq).1] at hc
      cases hc
    next heq =>
      rw [(List.cons.inj heq).1] at hc
      cases hc
    next => rfl

theorem readInt?_digits (negative : Bool) (hwhole : Digits whole) :
    readInt? (minus negative ++ whole) = some (signed negative (digitsValue whole)) := by
  have hsplit := splitSign_minus negative hwhole []
  rw [List.append_nil] at hsplit
  have hall : (!whole.all isDigit) = false := by simpa using hwhole.2
  simp only [readInt?, hsplit, hall, List.isEmpty_eq_false_iff.mpr hwhole.1]
  rfl

theorem readMagnitude?_digits (negative : Bool) (hwhole : Digits whole)
    (hfraction : ∀ digits ∈ fraction, Digits digits) :
    readMagnitude? negative (whole ++ pointed fraction) =
      some (ofDecimal negative (digitsValue (whole ++ fraction.getD []))
        (-(fraction.getD []).length)) := by
  have hends : Ends isDigit (pointed fraction) := endsNumber_pointed fraction
  rw [readMagnitude?, hends.takeWhile_append hwhole.2, hends.dropWhile_append hwhole.2]
  cases fraction with
  | none => simp [pointed, hwhole.1, readExponent?]
  | some digits =>
    have htake : digits.takeWhile isDigit = digits :=
      List.takeWhile_eq_self_iff.mpr (hfraction digits rfl).2
    have hdrop : digits.dropWhile isDigit = [] :=
      List.dropWhile_eq_nil_iff.mpr (hfraction digits rfl).2
    simp [pointed, hwhole.1, htake, hdrop, readExponent?]

/-- What begins with a digit is not the name of an infinity or of NaN. -/
theorem readFloat?_digits (negative : Bool) (hwhole : Digits whole)
    (hfraction : ∀ digits ∈ fraction, Digits digits) :
    readFloat? (minus negative ++ (whole ++ pointed fraction)) =
      some (ofDecimal negative (digitsValue (whole ++ fraction.getD []))
        (-(fraction.getD []).length)) := by
  obtain ⟨c, digits, rfl, hc⟩ := hwhole.exists_cons
  have hname (word : String) (hword : ∀ d ∈ word.toList.head?, isDigit d = false) :
      (String.ofList ((c :: digits ++ pointed fraction).map Char.toLower) == word) = false := by
    rw [beq_eq_false_iff_ne]
    rintro rfl
    rw [String.toList_ofList] at hword
    have hdigit := hword c.toLower rfl
    rw [toLower_of_isDigit hc, hc] at hdigit
    cases hdigit
  have hinf := hname "inf" (by simp [isDigit])
  have hinfinity := hname "infinity" (by simp [isDigit])
  have hnan := hname "nan" (by simp [isDigit])
  rw [readFloat?, splitSign_minus negative hwhole]
  simp only [hinf, hinfinity, hnan, Bool.or_self, Bool.false_eq_true, if_false]
  exact readMagnitude?_digits negative hwhole hfraction

theorem nearest_decimal (negative : Bool) (whole : List Char) (fraction : Option (List Char)) :
    Nearest negative (decimal whole fraction)
      (ofDecimal negative (digitsValue (whole ++ fraction.getD []))
        (-(fraction.getD []).length)) := by
  have hvalue : decimal whole fraction = digitsValue (whole ++ fraction.getD [])
      * 10 ^ (-(fraction.getD []).length : ℤ) := by
    rw [decimal, zpow_neg, zpow_natCast, div_eq_mul_inv]
  rw [hvalue]
  exact nearest_ofDecimal negative _ _

end Reading

end Cohort.Number
