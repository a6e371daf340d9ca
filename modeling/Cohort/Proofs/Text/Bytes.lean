import Mathlib

/-!
The order of texts is that of their bytes. The bytes of a character tell how many they are and give
its code point from the highest part down, so the bytes of two characters differ before either of
them ends, and in the order of the characters.
-/
namespace Cohort.Text

def bytes (text : String) : List UInt8 := text.toUTF8.data.toList

theorem bytes_eq_flatMap (text : String) :
    bytes text = text.toList.flatMap String.utf8EncodeChar := by
  conv_lhs => rw [bytes, ← String.ofList_toList (s := text)]
  exact List.toList_data_toByteArray

/-- Whatever follows two characters, their bytes decide. -/
theorem encode_append_lt {c d : Char} (h : c < d) (after after' : List UInt8) :
    String.utf8EncodeChar c ++ after < String.utf8EncodeChar d ++ after' := by
  have hlt : c.val.toNat < d.val.toNat := h
  have hmax : d.val.toNat < 0x110000 := by
    have hvalid : d.val.toNat < 0xd800 ∨ 0xdfff < d.val.toNat ∧ d.val.toNat < 0x110000 := d.valid
    omega
  unfold String.utf8EncodeChar
  dsimp only
  generalize c.val.toNat = m, d.val.toNat = n at *
  have hthird (k : ℕ) : k / 4096 = k / 64 / 64 := by omega
  have hfourth (k : ℕ) : k / 262144 = k / 64 / 64 / 64 := by omega
  have hbyte (k : ℕ) (hk : k < 256) : (UInt8.ofNat k).toNat = k := by
    rw [UInt8.toNat_ofNat', Nat.mod_eq_of_lt hk]
  split_ifs <;>
    simp (disch := omega) only [List.cons_append, List.cons_lt_cons_iff, UInt8.lt_iff_toNat_lt,
      ← UInt8.toNat_inj, hbyte, hthird, hfourth] <;> omega

theorem flatMap_encode_lt {chars chars' : List Char} (h : chars < chars') :
    chars.flatMap String.utf8EncodeChar < chars'.flatMap String.utf8EncodeChar := by
  induction List.lex_lt.mpr h with
  | @nil c chars =>
    have hne : String.utf8EncodeChar c ≠ [] := String.utf8EncodeChar_ne_nil
    obtain ⟨byte, rest, hbytes⟩ := List.exists_cons_of_ne_nil hne
    rw [List.flatMap_nil, List.flatMap_cons, hbytes]
    exact List.nil_lt_cons _ _
  | @cons c chars chars' hlex ih =>
    exact List.lex_lt.mp (.append_left _ (List.lex_lt.mpr (ih (List.lex_lt.mp hlex))) _)
  | rel hless => exact encode_append_lt hless _ _

/-- A text that comes before another one has its bytes before those of the other. -/
theorem bytes_lt_bytes {text text' : String} (h : text < text') : bytes text < bytes text' := by
  rw [bytes_eq_flatMap, bytes_eq_flatMap]
  exact flatMap_encode_lt (String.lt_iff_toList_lt.mp h)

end Cohort.Text
