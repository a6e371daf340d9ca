import Cohort.Text.Digits
import Mathlib

/-!
Hexadecimal digits. Runs of one width are ordered like the numbers they stand for, every run of
lowercase digits is that of a number, and a wider run only has more zeros in front.
-/
namespace Cohort.Text

def hexAlphabet : List Char := "0123456789abcdef".toList

lemma mem_hexAlphabet_iff {c : Char} : c ∈ hexAlphabet ↔ ∃ n < 16, hexChar n = c := by
  have h : hexAlphabet = (List.range 16).map hexChar := by decide
  simp [h]

lemma hexDigit?_hexChar {n : ℕ} (h : n < 16) : hexDigit? (hexChar n) = some n := by
  interval_cases n <;> rfl

lemma append_singleton_lt_iff {xs ys : List Char} {x y : Char} (h : xs.length = ys.length) :
    xs ++ [x] < ys ++ [y] ↔ xs < ys ∨ xs = ys ∧ x < y := by
  induction xs generalizing ys with
  | nil =>
    obtain rfl : ys = [] := List.length_eq_zero_iff.mp h.symm
    simp [List.cons_lt_cons_iff]
  | cons a xs ih =>
    obtain _ | ⟨b, ys⟩ := ys
    · simp at h
    · simp only [List.cons_append, List.cons_lt_cons_iff, ih (by simpa using h), List.cons.injEq]
      tauto

lemma hexChar_lt_hexChar {a b : ℕ} (ha : a < 16) (hb : b < 16) :
    hexChar a < hexChar b ↔ a < b := by
  have h : ∀ a b : Fin 16, hexChar a < hexChar b ↔ a < b := by decide
  exact h ⟨a, ha⟩ ⟨b, hb⟩

lemma div_lt_pow {width n : ℕ} (h : n < 16 ^ (width + 1)) : n / 16 < 16 ^ width :=
  Nat.div_lt_of_lt_mul (by rwa [pow_succ'] at h)

theorem hexDigits_lt_hexDigits {width a b : ℕ} (ha : a < 16 ^ width) (hb : b < 16 ^ width) :
    hexDigits width a < hexDigits width b ↔ a < b := by
  induction width generalizing a b with
  | zero => simp_all [hexDigits]
  | succ width ih =>
    have ha' := div_lt_pow ha
    have hb' := div_lt_pow hb
    have heq : hexDigits width (a / 16) = hexDigits width (b / 16) ↔ a / 16 = b / 16 := by
      refine ⟨fun h => ?_, fun h => by rw [h]⟩
      have hab := ih ha' hb'
      have hba := ih hb' ha'
      rw [h] at hab hba
      simp only [List.lt_irrefl, false_iff] at hab hba
      omega
    rw [hexDigits, hexDigits, append_singleton_lt_iff (by simp), ih ha' hb', heq,
      hexChar_lt_hexChar (Nat.mod_lt _ (by decide)) (Nat.mod_lt _ (by decide))]
    omega

theorem mem_hexAlphabet_of_mem_hexDigits {width n : ℕ} {c : Char} (h : c ∈ hexDigits width n) :
    c ∈ hexAlphabet := by
  induction width generalizing n with
  | zero => simp [hexDigits] at h
  | succ width ih =>
    rw [hexDigits, List.mem_append, List.mem_singleton] at h
    rcases h with h | rfl
    · exact ih h
    · exact mem_hexAlphabet_iff.mpr ⟨n % 16, Nat.mod_lt n (by decide), rfl⟩

theorem hexValue?_hexDigits {width n : ℕ} (h : n < 16 ^ width) :
    hexValue? (hexDigits width n) = some n := by
  induction width generalizing n with
  | zero =>
    obtain rfl : n = 0 := by simpa using h
    rfl
  | succ width ih =>
    have hlast := hexDigit?_hexChar (Nat.mod_lt n (by decide : 0 < 16))
    have hinit := ih (div_lt_pow h)
    unfold hexValue? at hinit ⊢
    rw [hexDigits, List.foldlM_append, hinit, Option.bind_eq_bind, Option.bind_some]
    simp only [List.foldlM_cons, List.foldlM_nil, hlast, Option.map_some, Option.pure_def,
      Option.bind_eq_bind, Option.bind_some]
    rw [Nat.div_add_mod]

/-- Every run of lowercase digits is that of a number. -/
theorem exists_hexDigits_eq (digits : List Char) (h : ∀ c ∈ digits, c ∈ hexAlphabet) :
    ∃ n < 16 ^ digits.length, hexDigits digits.length n = digits := by
  induction digits using List.reverseRecOn with
  | nil => exact ⟨0, by simp, rfl⟩
  | append_singleton digits c ih =>
    rw [List.forall_mem_append, List.forall_mem_singleton] at h
    obtain ⟨n, hn, hdigits⟩ := ih h.1
    obtain ⟨k, hk, rfl⟩ := mem_hexAlphabet_iff.mp h.2
    refine ⟨16 * n + k, ?_, ?_⟩
    · rw [List.length_append, List.length_singleton, pow_succ]
      omega
    · have hdiv : (16 * n + k) / 16 = n := by omega
      have hmod : (16 * n + k) % 16 = k := by omega
      rw [List.length_append, List.length_singleton, hexDigits, hdiv, hmod, hdigits]

/-- A wider run has zeros in front. -/
theorem hexDigits_add {width n : ℕ} (h : n < 16 ^ width) (more : ℕ) :
    hexDigits (more + width) n = List.replicate more '0' ++ hexDigits width n := by
  induction width generalizing n with
  | zero =>
    obtain rfl : n = 0 := by simpa using h
    rw [hexDigits, List.append_nil, add_zero]
    induction more with
    | zero => rfl
    | succ more ih =>
      rw [hexDigits, Nat.zero_div, ih, List.replicate_succ']
      rfl
  | succ width ih => rw [← add_assoc, hexDigits, hexDigits, ih (div_lt_pow h), List.append_assoc]

lemma lt_pow_hexText (n : ℕ) : n < 16 ^ (n.log2 / 4 + 1) := by
  calc n < 2 ^ (n.log2 + 1) := Nat.lt_log2_self
    _ ≤ 2 ^ (4 * (n.log2 / 4 + 1)) := Nat.pow_le_pow_right two_pos (by omega)
    _ = 16 ^ (n.log2 / 4 + 1) := by rw [pow_mul]; norm_num

/-- A number is not wider in digits than its bound. -/
theorem length_hexText_le {width n : ℕ} (hpos : 0 < width) (h : n < 16 ^ width) :
    (hexText n).length ≤ width := by
  rw [hexText, length_hexDigits]
  rcases n.eq_zero_or_pos with rfl | hn
  · rw [Nat.log2_zero]
    omega
  · have hlog : n.log2 < 4 * width := by
      rw [Nat.log2_lt hn.ne', pow_mul]
      exact h
    omega

/-- A run of digits of a given width is the shortest text of the number with zeros in front. -/
theorem hexDigits_eq_padded {width n : ℕ} (hpos : 0 < width) (h : n < 16 ^ width) :
    hexDigits width n = List.replicate (width - (hexText n).length) '0' ++ hexText n := by
  have hle := length_hexText_le hpos h
  have hadd := hexDigits_add (lt_pow_hexText n) (width - (hexText n).length)
  rw [hexText, length_hexDigits] at hle ⊢
  rwa [hexText, length_hexDigits, Nat.sub_add_cancel hle] at hadd

end Cohort.Text
