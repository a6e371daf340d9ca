import Cohort.Grammar.Standard
import Cohort.Proofs.Token.Taken
import Mathlib

/-!
Texts as tokens with blanks between them. The lexer cuts a text into some tokens just when the text
is put together from blanks and what the tokens take.
-/
namespace Cohort
open Cohort.Text (Ends ends_dropWhile isBlank isDigit isNameStart isNameChar)
open Cohort.Number (Digits minus pointed)

/-- The empty symbol counts as a word, so that every sign takes something. -/
theorem Grammar.empty_not_mem_signs (g : Grammar) : "" ∉ g.lexicon.signs := by
  intro h
  have hword := (List.mem_filter.mp h).2
  simp [isWord] at hword

namespace Lexer

/-- A text that stands `o` characters into the whole text is cut into tokens: blanks come first,
then what the first token takes, then the text of the others. -/
inductive Scans (lexicon : Lexicon) : ℕ → Bool → List Char → List Token → Prop where
  | eof {o expected gap} (hgap : ∀ c ∈ gap, isBlank c = true) :
    Scans lexicon o expected gap [⟨.eof, o + gap.length⟩]
  | token {o expected gap kind spelling after tokens} (hgap : ∀ c ∈ gap, isBlank c = true)
    (hhead : Ends isBlank spelling) (htaken : Taken lexicon expected kind spelling after)
    (hrest : Scans lexicon (o + gap.length + spelling.length) kind.operandFollows after tokens) :
    Scans lexicon o expected (gap ++ (spelling ++ after)) (⟨kind, o + gap.length⟩ :: tokens)

theorem forall_isBlank_space : ∀ c ∈ [' '], isBlank c = true := List.forall_mem_singleton.mpr rfl

section Scans
variable {lexicon : Lexicon} {o : ℕ} {expected : Bool} {text spelling after : List Char}
  {kind : TokenKind} {tokens : List Token}

theorem Scans.unspaced (hhead : Ends isBlank spelling)
    (htaken : Taken lexicon expected kind spelling after)
    (hrest : Scans lexicon (o + spelling.length) kind.operandFollows after tokens) :
    Scans lexicon o expected (spelling ++ after) (⟨kind, o⟩ :: tokens) :=
  @Scans.token lexicon o expected [] _ _ _ _ (List.forall_mem_nil _) hhead htaken hrest

theorem Scans.spaced (hhead : Ends isBlank spelling)
    (htaken : Taken lexicon expected kind spelling after)
    (hrest : Scans lexicon (o + 1 + spelling.length) kind.operandFollows after tokens) :
    Scans lexicon o expected (' ' :: (spelling ++ after)) (⟨kind, o + 1⟩ :: tokens) :=
  .token forall_isBlank_space hhead htaken hrest

theorem Scans.le_offset (h : Scans lexicon o expected text tokens) :
    ∀ token ∈ tokens, o ≤ token.offset := by
  induction h with
  | eof => simp
  | token _ _ _ _ ih =>
    refine List.forall_mem_cons.mpr ⟨Nat.le_add_right _ _, fun token hmem => ?_⟩
    have := ih token hmem
    omega

theorem scans_of_scanFrom (hempty : "" ∉ lexicon.signs)
    (h : scanFrom lexicon o expected text = .ok tokens) : Scans lexicon o expected text tokens := by
  fun_induction scanFrom lexicon o expected text generalizing tokens with
  | case1 o expected text start =>
    rename_i hblanks
    cases h
    have htext := List.takeWhile_append_dropWhile (p := isBlank) (l := text)
    rw [hblanks, List.append_nil] at htext
    change Scans lexicon o expected text [⟨.eof, o + (text.takeWhile isBlank).length⟩]
    rw [htext]
    exact .eof (List.takeWhile_eq_self_iff.mp htext)
  | case2 => cases h
  | case3 o expected text start c rest hblanks kind after htaken next =>
    rename_i ih
    obtain ⟨others, hscan, rfl⟩ := exists_of_map_eq_ok h
    obtain ⟨spelling, heq, htaken⟩ := exists_taken_of_lexeme hempty htaken
    have htext := List.takeWhile_append_dropWhile (p := isBlank) (l := text)
    have hends := ends_dropWhile isBlank text
    have hnext : next = start + spelling.length := by
      have hlength := congrArg List.length heq
      rw [List.length_cons, List.length_append] at hlength
      omega
    rw [hblanks, heq] at htext hends
    have hne := htaken.ne_nil
    have htoken : Scans lexicon o expected (text.takeWhile isBlank ++ (spelling ++ after)) _ :=
      .token (fun _ => List.mem_takeWhile_imp) (fun d hd => hends d ?_) htaken (hnext ▸ ih hscan)
    · rwa [htext] at htoken
    · rw [List.head?_append_of_ne_nil _ hne]
      exact hd

/-- After blanks a token is cut off, and the rest of the text is cut from there. -/
theorem Taken.scanFrom_eq {gap : List Char} (h : Taken lexicon expected kind spelling after)
    (hgap : ∀ c ∈ gap, isBlank c = true) (hhead : Ends isBlank spelling) :
    scanFrom lexicon o expected (gap ++ (spelling ++ after))
      = (scanFrom lexicon (o + gap.length + spelling.length) kind.operandFollows after).map
        (⟨kind, o + gap.length⟩ :: ·) := by
  obtain ⟨c, word, rfl⟩ := List.exists_cons_of_ne_nil h.ne_nil
  have hends : Ends isBlank (c :: (word ++ after)) := Text.ends_cons (hhead c rfl)
  have hlexeme : lexeme lexicon expected c (word ++ after) = .ok (kind, after) := h.lexeme_eq rfl
  have hlength : (word ++ after).length + 1 - after.length = (c :: word).length := by
    rw [List.length_append, List.length_cons]
    omega
  rw [Lexer.scanFrom_eq, List.cons_append, hends.takeWhile_append hgap, hends.dropWhile_append hgap]
  simp only [hlexeme, hlength]

theorem Scans.scanFrom_eq_ok (h : Scans lexicon o expected text tokens) :
    scanFrom lexicon o expected text = .ok tokens := by
  induction h with
  | @eof o expected gap hgap =>
    rw [scanFrom_eq, List.takeWhile_eq_self_iff.mpr hgap, List.dropWhile_eq_nil_iff.mpr hgap]
  | token hgap hhead htaken _ ih =>
    rw [htaken.scanFrom_eq hgap hhead, ih]
    rfl

end Scans

end Lexer

/-- The longer of two signs is taken, and a minus sign that belongs to the number after it. -/
theorem Grammar.tokenize_comparison :
    standard.tokenize "x <= -1 "
      = .ok [⟨.identifier "x", 0⟩, ⟨.operator "<=", 2⟩, ⟨.int (-1), 5⟩, ⟨.eof, 8⟩] := by
  have hnumber : Lexer.Taken standard.lexicon true (.int (-1)) ['-', '1'] [' '] :=
    @Lexer.Taken.number _ _ true ['1'] none _ (fun _ => rfl)
      (Number.digits_singleton rfl) (by simp) ⟨Text.ends_cons rfl, by simp⟩
  have hsign : Lexer.Taken standard.lexicon false (.operator "<=") ['<', '='] " -1 ".toList :=
    @Lexer.Taken.sign _ _ "<=" _ (by decide) (by simp [Lexer.BeginsLiteral, isDigit])
      (by decide +kernel)
  have hname : Lexer.Taken standard.lexicon true (.identifier "x") ['x'] " <= -1 ".toList :=
    @Lexer.Taken.name _ _ 'x' [] _ (by decide +kernel) (by decide) (List.forall_mem_nil _)
      (Text.ends_cons rfl)
  have hscans : Lexer.Scans standard.lexicon 0 true "x <= -1 ".toList _ :=
    .unspaced (Text.ends_cons rfl) hname <| .spaced (Text.ends_cons rfl) hsign <|
      .spaced (Text.ends_cons rfl) hnumber <| .eof Lexer.forall_isBlank_space
  exact hscans.scanFrom_eq_ok

end Cohort
