import Cohort.Proofs.Text.Tables
import Cohort.Text.Character
import Mathlib

/-!
White space never stands in a name, so that a name ends where a blank follows.
-/
namespace Cohort.Text

/-- The blanks that are not among the first 128 characters. -/
def wideBlanks : List ℕ :=
  [0x85, 0xA0, 0x1680, 0x2000, 0x2001, 0x2002, 0x2003, 0x2004, 0x2005, 0x2006, 0x2007, 0x2008,
    0x2009, 0x200A, 0x2028, 0x2029, 0x202F, 0x205F, 0x3000]

theorem mem_wideBlanks {c : Char} (h : isBlank c = true) (hwide : ¬ c.toNat < 128) :
    c.toNat ∈ wideBlanks := by
  simp only [isBlank, Bool.or_eq_true, Bool.and_eq_true, decide_eq_true_eq, beq_iff_eq] at h
  simp only [wideBlanks, List.mem_cons, List.not_mem_nil, or_false]
  omega

theorem markIn_wideBlanks : ∀ n ∈ wideBlanks, markIn (categoryRuns.map String.toList) n
    ∈ [some ['C', 'c'], some ['Z', 's'], some ['Z', 'l'], some ['Z', 'p']] := by
  obtain ⟨texts, htexts, hmarks⟩ : ∃ texts, categoryRuns.map String.toList = texts ∧
      ∀ n ∈ wideBlanks, markIn texts n
        ∈ [some ['C', 'c'], some ['Z', 's'], some ['Z', 'l'], some ['Z', 'p']] := by
    constructor
    constructor
    case left =>
      repeat apply map_toList_cons
      exact List.map_nil
    case right => decide +kernel
  rw [htexts]
  exact hmarks

theorem not_otherAlphabetic_wideBlanks : ∀ n ∈ wideBlanks, otherAlphabetic.contains n = false := by
  obtain ⟨texts, htexts, hpassed⟩ : ∃ texts, otherAlphabeticRuns.map String.toList = texts ∧
      ∀ n ∈ wideBlanks, (passedIn texts n % 2 == 1) = false := by
    constructor
    constructor
    case left =>
      repeat apply map_toList_cons
      exact List.map_nil
    case right => decide +kernel
  simp only [otherAlphabetic, contains_ofText, htexts]
  exact hpassed

theorem category_of_wide_blank {c : Char} (h : c.toNat ∈ wideBlanks) :
    category c ∈ [.control, .spaceSeparator, .lineSeparator, .paragraphSeparator] := by
  have hmark := markIn_wideBlanks c.toNat h
  rw [category, categoryTable, get_ofText]
  simp only [List.mem_cons, List.not_mem_nil, or_false] at hmark
  obtain hmark | hmark | hmark | hmark := hmark <;> rw [hmark] <;> decide

/-- No blank among the first 128 characters comes after the digits. -/
theorem toNat_of_isBlank {c : Char} (h : isBlank c = true) (hascii : c.toNat < 128) :
    c.toNat < 48 := by
  simp only [isBlank, Bool.or_eq_true, Bool.and_eq_true, decide_eq_true_eq, beq_iff_eq] at h
  omega

theorem not_isAlphanumeric_of_isBlank {c : Char} (h : isBlank c = true) :
    isAlphanumeric c = false := by
  rw [isAlphanumeric, isAlphabetic, isNumeric]
  by_cases hascii : c.toNat < 128
  · have hlow := toNat_of_isBlank h hascii
    have hdigit : ¬ 48 ≤ c.toNat := by omega
    have hupper : ¬ 65 ≤ c.toNat := by omega
    have hlower : ¬ 97 ≤ c.toNat := by omega
    simp [hascii, Char.isAlpha, Char.isUpper, Char.isLower, Char.isDigit, UInt32.le_iff_toNat_le,
      hdigit, hupper, hlower]
  · have hwide := mem_wideBlanks h hascii
    have hcategory := category_of_wide_blank hwide
    have hother := not_otherAlphabetic_wideBlanks c.toNat hwide
    rw [if_neg hascii, if_neg hascii]
    dsimp only
    rw [hother]
    revert hcategory
    generalize category c = k
    revert k
    decide

theorem isNameChar_of_isBlank {c : Char} (h : isBlank c = true) : isNameChar c = false := by
  have hunderscore : c ≠ '_' := by
    rintro rfl
    cases h
  rw [isNameChar, not_isAlphanumeric_of_isBlank h, beq_false_of_ne hunderscore, Bool.or_false]

end Cohort.Text
