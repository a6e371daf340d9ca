import Cohort.Proofs.Text.Blanks
import Cohort.Text.Digits
import Mathlib

/-!
The classes of characters that a lexer tells apart. Digits and small letters stand in names, no blank
does, and a name does not begin with a digit.
-/
namespace Cohort.Text
variable {c : Char}

theorem toNat_of_isDigit (h : isDigit c = true) : 48 ≤ c.toNat ∧ c.toNat ≤ 57 := by
  simpa [isDigit, Char.le_def, UInt32.le_iff_toNat_le] using h

theorem toNat_of_isLower (h : c.isLower = true) : 97 ≤ c.toNat ∧ c.toNat ≤ 122 := by
  simpa [Char.isLower, UInt32.le_iff_toNat_le] using h

theorem isNameStart_of_isLower (h : c.isLower = true) : isNameStart c = true := by
  have hascii : c.toNat < 128 := by
    have := toNat_of_isLower h
    omega
  simp [isNameStart, isAlphabetic, hascii, Char.isAlpha, h]

theorem isNameChar_of_isDigit (h : isDigit c = true) : isNameChar c = true := by
  have hascii : c.toNat < 128 := by
    have := toNat_of_isDigit h
    omega
  have hdigit : c.isDigit = true := by
    simpa [Char.isDigit, UInt32.le_iff_toNat_le] using toNat_of_isDigit h
  simp [isNameChar, isAlphanumeric, isNumeric, hascii, hdigit]

theorem isNameChar_of_isLower (h : c.isLower = true) : isNameChar c = true := by
  have hascii : c.toNat < 128 := by
    have := toNat_of_isLower h
    omega
  simp [isNameChar, isAlphanumeric, isAlphabetic, hascii, Char.isAlpha, h]

theorem isBlank_of_isNameChar (h : isNameChar c = true) : isBlank c = false := by
  by_contra hblank
  cases (isNameChar_of_isBlank (Bool.of_not_eq_false hblank)).symm.trans h

theorem not_isDigit_of_isBlank (h : isBlank c = true) : isDigit c = false := by
  by_contra hdigit
  have hname := isNameChar_of_isDigit (Bool.of_not_eq_false hdigit)
  cases (isNameChar_of_isBlank h).symm.trans hname

theorem isBlank_of_isDigit (h : isDigit c = true) : isBlank c = false :=
  isBlank_of_isNameChar (isNameChar_of_isDigit h)

theorem isNameChar_of_isNameStart (h : isNameStart c = true) : isNameChar c = true := by
  rw [isNameStart, Bool.or_eq_true] at h
  rw [isNameChar, isAlphanumeric, Bool.or_eq_true, Bool.or_eq_true]
  exact h.imp_left .inl

theorem isBlank_of_isNameStart (h : isNameStart c = true) : isBlank c = false :=
  isBlank_of_isNameChar (isNameChar_of_isNameStart h)

theorem isDigit_of_isNameStart (h : isNameStart c = true) : isDigit c = false := by
  by_contra hdigit
  obtain ⟨hlow, hhigh⟩ := toNat_of_isDigit (Bool.of_not_eq_false hdigit)
  have hascii : c.toNat < 128 := by omega
  have hunderscore : c ≠ '_' := by
    rintro rfl
    cases Bool.of_not_eq_false hdigit
  have hupper : ¬ 65 ≤ c.toNat := by omega
  have hlower : ¬ 97 ≤ c.toNat := by omega
  simp [isNameStart, isAlphabetic, hascii, hunderscore, Char.isAlpha, Char.isUpper,
    Char.isLower, UInt32.le_iff_toNat_le, hupper, hlower] at h

theorem toLower_of_isDigit (h : isDigit c = true) : c.toLower = c := by
  have hle := (toNat_of_isDigit h).2
  refine dif_neg fun hupper => ?_
  have hge : 65 ≤ c.toNat := UInt32.le_iff_toNat_le.mp hupper.1
  omega

end Cohort.Text
