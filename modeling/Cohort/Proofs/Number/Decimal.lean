import Cohort.Number.Read
import Mathlib

/-!
Integers in decimal. The text of an integer ends where its digits do, so two such texts never run
into each other.
-/
namespace Cohort

namespace Text
variable {p : Char → Bool} {run rest : List Char}

/-- What does not begin with a character of a class, so that a run of the class before it ends
there. -/
def Ends (p : Char → Bool) (rest : List Char) : Prop := ∀ c ∈ rest.head?, p c = false

theorem ends_cons {c : Char} (h : p c = false) : Ends p (c :: rest) := by
  intro d hd
  cases hd
  exact h

theorem ends_dropWhile (p : Char → Bool) (text : List Char) : Ends p (text.dropWhile p) := by
  intro c hc
  have hnot := List.head?_dropWhile_not p text
  rw [hc] at hnot
  exact hnot

theorem Ends.takeWhile_append (h : Ends p rest) (hrun : ∀ c ∈ run, p c = true) :
    (run ++ rest).takeWhile p = run := by
  rw [List.takeWhile_append_of_pos hrun]
  cases rest with
  | nil => rw [List.takeWhile_nil, List.append_nil]
  | cons c rest => rw [List.takeWhile_cons_of_neg (by simp [h c rfl]), List.append_nil]

theorem Ends.dropWhile_append (h : Ends p rest) (hrun : ∀ c ∈ run, p c = true) :
    (run ++ rest).dropWhile p = rest := by
  rw [List.dropWhile_append_of_pos hrun]
  cases rest with
  | nil => rfl
  | cons c rest => exact List.dropWhile_cons_of_neg (by simp [h c rfl])

end Text

namespace Number
open Cohort.Text (Ends isDigit digitsValue)

def EndsNumber (text : List Char) : Prop := ∀ c ∈ text.head?, isDigit c = false

section Digits
variable {n : ℕ} {rest : List Char}

theorem isDigit_of_mem_toDigits {c : Char} (h : c ∈ Nat.toDigits 10 n) : isDigit c = true :=
  Nat.isDigit_of_mem_toDigits (by decide) (by decide) h

@[simp] theorem digitsValue_toDigits : digitsValue (Nat.toDigits 10 n) = n :=
  Nat.ofDigitChars_ten_toDigits

theorem takeWhile_toDigits_append (h : EndsNumber rest) :
    (Nat.toDigits 10 n ++ rest).takeWhile isDigit = Nat.toDigits 10 n :=
  Ends.takeWhile_append h fun _ => isDigit_of_mem_toDigits

/-- The digits of a number begin with one. -/
theorem exists_toDigits_eq_cons (n : ℕ) :
    ∃ c digits, Nat.toDigits 10 n = c :: digits ∧ isDigit c = true := by
  obtain ⟨c, digits, hdigits⟩ := List.exists_cons_of_ne_nil (Nat.toDigits_ne_nil (n := n) (b := 10))
  exact ⟨c, digits, hdigits, isDigit_of_mem_toDigits (hdigits ▸ List.mem_cons_self)⟩

theorem toDigits_append_inj {m : ℕ} {rest' : List Char} (hrest : EndsNumber rest)
    (hrest' : EndsNumber rest') (h : Nat.toDigits 10 n ++ rest = Nat.toDigits 10 m ++ rest') :
    n = m ∧ rest = rest' := by
  have hdigits : Nat.toDigits 10 n = Nat.toDigits 10 m := by
    rw [← takeWhile_toDigits_append hrest, h, takeWhile_toDigits_append hrest']
  have hvalue := congrArg digitsValue hdigits
  rw [digitsValue_toDigits, digitsValue_toDigits] at hvalue
  subst hvalue
  exact ⟨rfl, List.append_cancel_left h⟩

theorem toDigits_append_ne_minus (n : ℕ) (rest text : List Char) :
    Nat.toDigits 10 n ++ rest ≠ '-' :: text := by
  obtain ⟨c, digits, hdigits, hc⟩ := exists_toDigits_eq_cons n
  rw [hdigits]
  intro h
  rw [(List.cons.inj h).1] at hc
  cases hc

end Digits

section Integers
variable {n m : ℤ} {rest rest' : List Char}

theorem toList_toString_of_nonneg (h : 0 ≤ n) : (toString n).toList = Nat.toDigits 10 n.toNat := by
  rw [Int.toString_eq_repr, Int.repr_eq_if, if_pos h, Nat.toList_repr]

theorem toList_toString_of_neg (h : n < 0) :
    (toString n).toList = '-' :: Nat.toDigits 10 (-n).toNat := by
  rw [Int.toString_eq_repr, Int.repr_eq_if, if_neg (not_le.mpr h), String.toList_append,
    Nat.toList_repr]
  rfl

theorem exists_toList_toString_eq_cons (n : ℤ) :
    ∃ c text, (toString n).toList = c :: text ∧ (c = '-' ∨ isDigit c = true) := by
  by_cases h : 0 ≤ n
  · obtain ⟨c, digits, hdigits, hc⟩ := exists_toDigits_eq_cons n.toNat
    exact ⟨c, digits, (toList_toString_of_nonneg h).trans hdigits, .inr hc⟩
  · exact ⟨_, _, toList_toString_of_neg (not_le.mp h), .inl rfl⟩

/-- An integer and what follows it can be told from the text of both, unless more digits follow. -/
theorem toString_append_inj (hrest : EndsNumber rest) (hrest' : EndsNumber rest')
    (h : (toString n).toList ++ rest = (toString m).toList ++ rest') : n = m ∧ rest = rest' := by
  by_cases hn : 0 ≤ n <;> by_cases hm : 0 ≤ m
  · rw [toList_toString_of_nonneg hn, toList_toString_of_nonneg hm] at h
    obtain ⟨hvalue, heq⟩ := toDigits_append_inj hrest hrest' h
    exact ⟨by omega, heq⟩
  · rw [toList_toString_of_nonneg hn, toList_toString_of_neg (not_le.mp hm)] at h
    exact absurd h (toDigits_append_ne_minus _ _ _)
  · rw [toList_toString_of_neg (not_le.mp hn), toList_toString_of_nonneg hm] at h
    exact absurd h.symm (toDigits_append_ne_minus _ _ _)
  · rw [toList_toString_of_neg (not_le.mp hn), toList_toString_of_neg (not_le.mp hm)] at h
    obtain ⟨hvalue, heq⟩ := toDigits_append_inj hrest hrest' (List.cons.inj h).2
    exact ⟨by omega, heq⟩

end Integers

end Number

end Cohort
