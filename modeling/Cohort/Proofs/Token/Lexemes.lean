import Cohort.Proofs.Token.Taken
import Mathlib

/-!
Texts cut token by token. A token at the front of a text is cut off whatever comes before the text,
and blanks between tokens are skipped, so that the tokens of a text are those of its pieces.
-/
namespace Cohort
open Cohort.Text (isBlank isDigit isNameChar isNameChar_of_isDigit isNameChar_of_isLower
  isNameStart_of_isLower)
open Cohort.Number (EndsNumber minus pointed)

def Lexicon.Spares (lexicon : Lexicon) (c : Char) : Prop :=
  ∀ sign ∈ lexicon.signs, ∀ rest : List Char, ¬ sign.toList <+: c :: rest

namespace Lexer

def escaped (quote : Char) (s : List Char) : List Char :=
  s.flatMap fun c => if c = quote ∨ c = '\\' then ['\\', c] else [c]

/-- What does not begin with something that could belong to a name or a number, so that one before
it ends there. -/
def Stops (text : List Char) : Prop := ∀ c ∈ text.head?, isNameChar c = false ∧ c ≠ '.'

section Characters
variable {c : Char} {rest : List Char}

theorem stops_nil : Stops [] := fun _ h => nomatch h

theorem stops_cons (hname : isNameChar c = false) (hdot : c ≠ '.') : Stops (c :: rest) := by
  intro d hd
  cases hd
  exact ⟨hname, hdot⟩

theorem stops_blank (h : isBlank c = true) : Stops (c :: rest) :=
  stops_cons (Text.isNameChar_of_isBlank h) (by rintro rfl; cases h)

theorem stops_mark {mark : Mark} (h : mark ≠ .dot) : Stops (mark.char :: rest) := by
  apply stops_cons
  · cases mark <;> rfl
  · cases mark <;> simp [Mark.char] at h ⊢

theorem Stops.endsNumber (h : Stops rest) : EndsNumber rest := by
  intro c hc
  by_contra hdigit
  have hname := isNameChar_of_isDigit (Bool.of_not_eq_false hdigit)
  cases (h c hc).1.symm.trans hname

theorem Stops.followsNumber (h : Stops rest) (fraction : Option (List Char)) :
    FollowsNumber fraction rest where
  endsNumber := h.endsNumber
  noFraction _ _ _ hrest := by
    subst hrest
    exact absurd rfl (h '.' rfl).2

theorem Stops.ends (h : Stops rest) : Text.Ends isNameChar rest := fun c hc => (h c hc).1

end Characters

section Tokens
variable {lexicon : Lexicon} {expected : Bool} {c : Char} {rest : List Char}

theorem longestPrefix?_of_spares (h : lexicon.Spares c) :
    longestPrefix? (c :: rest) lexicon.signs = none :=
  longestPrefix?_eq_none_iff.mpr fun sign hmem => h sign hmem rest

theorem lexeme_mark {mark : Mark} (h : lexicon.Spares mark.char) :
    lexeme lexicon expected mark.char rest = .ok (.mark mark, rest) :=
  (Taken.mark (longestPrefix?_of_spares h)).lexeme_eq rfl

theorem lexeme_word {word : List Char} (hword : (c :: word).all Char.isLower = true)
    (h : lexicon.Spares c) (hrest : Stops rest) :
    lexeme lexicon expected c (word ++ rest)
      = .ok (nameKind lexicon (String.ofList (c :: word)), rest) := by
  obtain ⟨hc, hword⟩ := List.forall_mem_cons.mp (List.all_eq_true.mp hword)
  have hname : ∀ d ∈ word, isNameChar d = true := fun d hd => isNameChar_of_isLower (hword d hd)
  have hstart := isNameStart_of_isLower hc
  exact (Taken.name (longestPrefix?_of_spares h) hstart hname hrest.ends).lexeme_eq rfl

theorem quotes_escaped {quote : Char} (hquote : quote = '"' ∨ quote = '\'') (s : List Char) :
    Quotes quote (escaped quote s) s := by
  induction s with
  | nil => exact .nil
  | cons c s ih =>
    rw [escaped, List.flatMap_cons, ← escaped]
    by_cases hescaped : c = quote ∨ c = '\\'
    · have hsame : unescaped c = c := by
        obtain rfl | rfl := hescaped <;> obtain rfl | rfl := hquote <;> rfl
      have hpair : Quotes quote ('\\' :: c :: escaped quote s) (unescaped c :: s) := .escape ih
      rw [hsame] at hpair
      rw [if_pos hescaped]
      exact hpair
    · obtain ⟨hne, hbackslash⟩ := not_or.mp hescaped
      rw [if_neg hescaped]
      exact .plain hne hbackslash ih

theorem lexeme_string {quote : Char} (hquote : quote = '"' ∨ quote = '\'') (s rest : List Char) :
    lexeme lexicon expected quote (escaped quote s ++ quote :: rest)
      = .ok (.string (String.ofList s), rest) := by
  refine (Taken.string hquote (quotes_escaped hquote s)).lexeme_eq ?_
  rw [List.cons_append, List.append_assoc, List.singleton_append]

theorem numberOf_eq_int {negative : Bool} {whole : List Char} {n : Int64}
    (hvalue : Number.signed negative (Text.digitsValue whole) = n.toInt) :
    numberOf negative whole none = .int n := by
  simp only [numberOf, hvalue, Number.narrow?_toInt]

/-- Digits stand for the integer they spell, whether or not an operand is expected. -/
theorem taken_digits {whole : List Char} {n : Int64} (hwhole : Number.Digits whole)
    (hvalue : Number.signed false (Text.digitsValue whole) = n.toInt) (hrest : Stops rest) :
    Taken lexicon expected (.int n) whole rest := by
  have htaken : Taken lexicon expected (numberOf false whole none)
      (minus false ++ (whole ++ pointed none)) rest :=
    .number (by simp) hwhole (by simp) (hrest.followsNumber none)
  rwa [numberOf_eq_int hvalue, pointed, List.append_nil] at htaken

/-- An integer, with its minus sign where an operand is expected. -/
theorem lexeme_int (n : Int64) (hrest : Stops rest) :
    ∃ c text, (toString n.toInt).toList = c :: text ∧
      lexeme lexicon true c (text ++ rest) = .ok (.int n, rest) := by
  obtain ⟨negative, whole, hstring, hwhole, hvalue⟩ := Number.exists_toList_toString_eq n.toInt
  have htaken : Taken lexicon true (.int n) (minus negative ++ (whole ++ pointed none)) rest :=
    numberOf_eq_int hvalue ▸ .number (fun _ => rfl) hwhole (by simp) (hrest.followsNumber none)
  rw [pointed, List.append_nil, ← hstring] at htaken
  obtain ⟨c, text, htext⟩ := List.exists_cons_of_ne_nil htaken.ne_nil
  rw [htext] at htaken
  exact ⟨c, text, htext, htaken.lexeme_eq rfl⟩

end Tokens

/-- A place in a text: how many characters are before it, and whether an operand is expected. -/
abbrev Place : Type := ℕ × Bool

/-- A text with something after it is cut into some tokens, and from the place where it ends the
rest is cut. -/
def Cuts (lexicon : Lexicon) (p : Place) (text : List Char) (tokens : List Token) (p' : Place)
    (rest : List Char) : Prop :=
  scanFrom lexicon p.1 p.2 (text ++ rest) = (scanFrom lexicon p'.1 p'.2 rest).map (tokens ++ ·)

section Texts
variable {lexicon : Lexicon} {p p' p'' : Place} {text text' rest : List Char}
  {tokens tokens' : List Token} {c : Char}

theorem Cuts.append (h : Cuts lexicon p text tokens p' (text' ++ rest))
    (h' : Cuts lexicon p' text' tokens' p'' rest) :
    Cuts lexicon p (text ++ text') (tokens ++ tokens') p'' rest := by
  rw [Cuts, List.append_assoc, h, h']
  cases scanFrom lexicon p''.1 p''.2 rest with
  | error => rfl
  | ok others => exact congrArg Except.ok (List.append_assoc _ _ _).symm

theorem scanFrom_blank (h : isBlank c = true) (offset : ℕ) (expected : Bool) :
    scanFrom lexicon offset expected (c :: text) = scanFrom lexicon (offset + 1) expected text := by
  rw [scanFrom_eq, scanFrom_eq lexicon (offset + 1), List.takeWhile_cons_of_pos h,
    List.dropWhile_cons_of_pos h, List.length_cons, Nat.add_right_comm, Nat.add_assoc]

theorem cuts_blanks {blanks : List Char} (h : ∀ c ∈ blanks, isBlank c = true) (p : Place)
    (rest : List Char) : ∃ o, Cuts lexicon p blanks [] (o, p.2) rest := by
  induction blanks generalizing p with
  | nil =>
    refine ⟨p.1, ?_⟩
    rw [Cuts, List.nil_append]
    cases scanFrom lexicon p.1 p.2 rest <;> rfl
  | cons c blanks ih =>
    rw [List.forall_mem_cons] at h
    obtain ⟨o, ho⟩ := ih h.2 (p.1 + 1, p.2)
    exact ⟨o, (scanFrom_blank h.1 p.1 p.2).trans ho⟩

theorem cuts_lexeme {expected : Bool} {kind : TokenKind} (hblank : isBlank c = false)
    (h : lexeme lexicon expected c (text ++ rest) = .ok (kind, rest)) (o : ℕ) :
    ∃ o', Cuts lexicon (o, expected) (c :: text) [⟨kind, o⟩] (o', kind.operandFollows) rest := by
  have hblank : ¬ isBlank c = true := Bool.eq_false_iff.mp hblank
  refine ⟨o + ((text ++ rest).length + 1 - rest.length), ?_⟩
  rw [Cuts, scanFrom_eq, List.cons_append, List.takeWhile_cons_of_neg hblank,
    List.dropWhile_cons_of_neg hblank]
  simp only [h, List.length_nil, Nat.add_zero]
  rfl

theorem cuts_mark {mark : Mark} (h : lexicon.Spares mark.char) (p : Place) (rest : List Char) :
    ∃ o', Cuts lexicon p [mark.char] [⟨.mark mark, p.1⟩]
      (o', (TokenKind.mark mark).operandFollows) rest :=
  cuts_lexeme (by cases mark <;> rfl) (lexeme_mark h) p.1

theorem scanFrom_nil (offset : ℕ) (expected : Bool) :
    scanFrom lexicon offset expected [] = .ok [⟨.eof, offset⟩] := by
  rw [scanFrom_eq]
  rfl

end Texts

end Lexer

end Cohort
