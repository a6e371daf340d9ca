import Cohort.Json.Reader
import Mathlib

/-!
Quoted strings of JSON text are read back: the reader finds the characters that were quoted, and
what stands after the closing quote. So a quoted string tells where it ends.
-/
namespace Cohort.Json

theorem readUnicode_hexDigits {c : Char} (h : c.toNat < 0x20) (rest : List Char) :
    readUnicode (Text.hexDigits 4 c.toNat ++ rest) = some (c, rest) := by
  have hread (n : ℕ) (hn : n < 0x20) :
      readUnicode (Text.hexDigits 4 n ++ rest) = some (Char.ofNat n, rest) := by
    interval_cases n <;> rfl
  rw [hread _ h, Char.ofNat_toNat]

theorem readString_simpleEscape {c letter : Char} (h : simpleEscape? letter = some c) (fuel : ℕ)
    (rest : List Char) :
    readString (fuel + 1) ('\\' :: letter :: rest) =
      (readString fuel rest).map fun (cs, rest) => (c :: cs, rest) := by
  have hletter : letter ≠ 'u' := by
    rintro rfl
    cases h
  rw [readString, h, Option.bind_eq_bind, Option.bind_some]
  · cases readString fuel rest <;> rfl
  · exact hletter

theorem readString_escape (c : Char) (fuel : ℕ) (rest : List Char) :
    readString (fuel + 1) (escape c ++ rest) =
      (readString fuel rest).map fun (cs, rest) => (c :: cs, rest) := by
  unfold escape
  split_ifs with hquote hslash hline hreturn htab hback hfeed hcontrol
  case pos =>
    subst hquote
    exact readString_simpleEscape rfl fuel rest
  case pos =>
    subst hslash
    exact readString_simpleEscape rfl fuel rest
  case pos =>
    subst hline
    exact readString_simpleEscape rfl fuel rest
  case pos =>
    subst hreturn
    exact readString_simpleEscape rfl fuel rest
  case pos =>
    subst htab
    exact readString_simpleEscape rfl fuel rest
  case pos =>
    subst hback
    exact readString_simpleEscape rfl fuel rest
  case pos =>
    subst hfeed
    exact readString_simpleEscape rfl fuel rest
  case pos =>
    rw [List.cons_append, List.cons_append, readString, readUnicode_hexDigits hcontrol,
      Option.bind_eq_bind, Option.bind_some]
    dsimp only
    cases readString fuel rest <;> rfl
  case neg =>
    rw [List.singleton_append, readString]
    · simp [hslash, hcontrol]
    · exact hquote
    · exact fun _ hc => absurd hc hslash
    · exact fun _ _ hc => absurd hc hslash

theorem readString_quoted (text rest : List Char) {fuel : ℕ} (h : text.length < fuel) :
    readString fuel (text.flatMap escape ++ '"' :: rest) = some (text, rest) := by
  induction text generalizing fuel with
  | nil =>
    obtain ⟨fuel, rfl⟩ := Nat.exists_eq_succ_of_ne_zero (Nat.ne_of_gt h)
    rfl
  | cons c text ih =>
    obtain ⟨fuel, rfl⟩ := Nat.exists_eq_succ_of_ne_zero (Nat.ne_of_gt (Nat.zero_lt_of_lt h))
    rw [List.flatMap_cons, List.append_assoc, readString_escape,
      ih (Nat.succ_lt_succ_iff.mp h), Option.map_some]

/-- A quoted string and what follows it can be told from the text of both. -/
theorem quoteChars_append_inj {text text' rest rest' : List Char}
    (h : quoteChars text ++ rest = quoteChars text' ++ rest') : text = text' ∧ rest = rest' := by
  simp only [quoteChars, List.cons_append, List.append_assoc, List.nil_append,
    List.cons.injEq, true_and] at h
  have hread := congrArg (readString (text.length + text'.length + 1)) h
  rw [readString_quoted text rest (by omega), readString_quoted text' rest' (by omega)] at hread
  exact Prod.mk.inj (Option.some.inj hread)

end Cohort.Json
