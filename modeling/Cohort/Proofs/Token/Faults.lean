import Cohort.Proofs.Token.Layout
import Cohort.Proofs.Token.Longest
import Mathlib

/-!
Where a text cannot be cut. There are two reasons: a string is not closed, or a character begins
nothing. Numbers are never at fault. What was read before such a place is what the text is cut into
when it ends there.
-/
namespace Cohort
open Cohort.Text (Ends isBlank isDigit isNameStart)
open Cohort.Number (minus)

namespace Lexer

/-- A character after the text is escaped: the backslashes that the text ends with are odd in
number, so that one is left over when the others have paired up. -/
def Escapes (before : List Char) : Prop := Odd (before.rtakeWhile (· = '\\')).length

section Strings
variable {quote c : Char} {text before : List Char}

theorem escapes_cons_of_ne (hc : c ≠ '\\') : Escapes (c :: before) ↔ Escapes before := by
  rw [Escapes, Escapes, List.rtakeWhile, List.rtakeWhile, List.reverse_cons, List.takeWhile_append]
  split_ifs with hall
  · simp [hc, hall]
  · rfl

/-- An escape takes two characters, so it does not matter to what comes after them. -/
theorem escapes_escape : Escapes ('\\' :: c :: before) ↔ Escapes before := by
  have hreverse : ('\\' :: c :: before).reverse = before.reverse ++ [c, '\\'] := by simp
  rw [Escapes, Escapes, List.rtakeWhile, List.rtakeWhile, hreverse, List.takeWhile_append]
  split_ifs with hall
  · by_cases hc : c = '\\' <;> simp [hc, hall, Nat.odd_add]
  · rfl

/-- A string is not closed just when every quote of its kind after the opening one is escaped. -/
theorem readString?_eq_none_iff (hquote : quote ≠ '\\') :
    readString? quote text = none ↔
      ∀ before after, text = before ++ quote :: after → Escapes before := by
  fun_induction readString? quote text with
  | case1 => simp
  | case2 rest =>
    simp only [reduceCtorEq, false_iff, not_forall]
    exact ⟨[], rest, rfl, by simp [Escapes]⟩
  | case3 =>
    refine iff_of_true rfl fun before after heq => ?_
    cases before with
    | nil => cases heq; contradiction
    | cons b before => simp at heq
  | case4 escaped rest _ _ ih =>
    rw [Option.map_eq_none_iff, ih]
    constructor
    · rintro hrest (_ | ⟨b, _ | ⟨d, before⟩⟩) after heq
      · cases heq
        contradiction
      · cases heq
        exact odd_one
      · cases heq
        exact escapes_escape.mpr (hrest before after rfl)
    · intro htext before after heq
      exact escapes_escape.mp (htext ('\\' :: escaped :: before) after (by rw [heq]; rfl))
  | case5 c rest _ hbackslash ih =>
    rw [Option.map_eq_none_iff, ih]
    constructor
    · rintro hrest (_ | ⟨d, before⟩) after heq
      · cases heq
        contradiction
      · cases heq
        exact (escapes_cons_of_ne hbackslash).mpr (hrest before after rfl)
    · intro htext before after heq
      exact (escapes_cons_of_ne hbackslash).mp (htext (c :: before) after (by rw [heq]; rfl))

end Strings

section Faults
variable {lexicon : Lexicon} {expected : Bool} {c : Char} {text rest : List Char} {fault : Fault}

/-- A text that begins with a digit gives a number, whether or not a minus sign comes before it. -/
theorem numberKind_splitNumber (negative : Bool) (hdigit : text.head?.any isDigit = true) :
    numberKind (minus negative) (splitNumber text).1 (splitNumber text).2.1
      = .ok (numberOf negative (splitNumber text).1 (splitNumber text).2.1) := by
  obtain ⟨whole, fraction, rest, hsplit⟩ :
      ∃ whole fraction rest, splitNumber text = (whole, fraction, rest) := ⟨_, _, _, rfl⟩
  rw [hsplit]
  exact numberKind_digits negative (digits_of_splitNumber hsplit hdigit)
    (exists_of_splitNumber hsplit).2.2.1

theorem lexeme_eq_error_iff :
    lexeme lexicon expected c rest = .error fault ↔
      fault = .string ∧ (c = '"' ∨ c = '\'') ∧ readString? c rest = none ∨
      fault = .character c ∧ ¬ BeginsLiteral expected (c :: rest) ∧
        longestPrefix? (c :: rest) lexicon.signs = none ∧ isNameStart c = false ∧
          Mark.ofChar? c = none := by
  by_cases hquote : c = '"' ∨ c = '\''
  · have hliteral : BeginsLiteral expected (c :: rest) := .inl hquote
    rw [lexeme, if_pos hquote]
    cases readString? c rest with
    | none =>
      simp only [Except.error.injEq, hquote, hliteral, not_true_eq_false, false_and, and_false,
        and_true, or_false]
      exact eq_comm
    | some read => simp [hliteral]
  by_cases hdigit : isDigit c = true
  · have hliteral : BeginsLiteral expected (c :: rest) := .inr (.inl hdigit)
    have hhead : (c :: rest).head?.any isDigit = true := by simpa using hdigit
    have hnumber := numberKind_splitNumber false hhead
    rw [lexeme, if_neg hquote, if_pos hdigit]
    simp only [show minus false = [] from rfl] at hnumber
    simp [hnumber, hquote, hliteral, Except.map]
  by_cases hminus : c = '-' ∧ expected = true ∧ rest.head?.any isDigit = true
  · have hliteral : BeginsLiteral expected (c :: rest) := .inr (.inr hminus)
    have hnumber := numberKind_splitNumber true hminus.2.2
    rw [lexeme, if_neg hquote, if_neg hdigit, if_pos hminus]
    simp only [show minus true = ['-'] from rfl] at hnumber
    simp [hnumber, hquote, hliteral, Except.map]
  have hliteral : ¬ BeginsLiteral expected (c :: rest) := by
    simp only [BeginsLiteral, not_or]
    exact ⟨not_or.mp hquote, hdigit, hminus⟩
  rw [lexeme_of_not_beginsLiteral hliteral]
  cases longestPrefix? (c :: rest) lexicon.signs with
  | some sign => simp [hquote]
  | none =>
    cases isNameStart c with
    | true => simp [hquote]
    | false =>
      cases Mark.ofChar? c with
      | some m => simp [hquote]
      | none =>
        simp only [Bool.false_eq_true, if_false, Except.error.injEq, hquote, hliteral,
          not_false_eq_true, false_and, and_false, and_true, false_or]
        exact eq_comm

end Faults

/-- The lexer reads some tokens of a text that stands `o` characters into the whole text, and halts
with an error where no token begins. -/
inductive Halts (lexicon : Lexicon) :
    ℕ → Bool → List Char → List Token → SyntaxError → Prop where
  | here {o expected gap c rest fault} (hgap : ∀ d ∈ gap, isBlank d = true)
    (hhead : isBlank c = false) (hfault : lexeme lexicon expected c rest = .error fault) :
    Halts lexicon o expected (gap ++ c :: rest) [] (fault.at (o + gap.length))
  | token {o expected gap c rest kind after tokens x} (hgap : ∀ d ∈ gap, isBlank d = true)
    (hhead : isBlank c = false) (htaken : lexeme lexicon expected c rest = .ok (kind, after))
    (hrest : Halts lexicon (o + gap.length + (rest.length + 1 - after.length))
      kind.operandFollows after tokens x) :
    Halts lexicon o expected (gap ++ c :: rest) (⟨kind, o + gap.length⟩ :: tokens) x

section Halts
variable {lexicon : Lexicon} {o : ℕ} {expected : Bool} {text : List Char} {tokens : List Token}
  {x : SyntaxError}

theorem Halts.scanFrom_eq_error (h : Halts lexicon o expected text tokens x) :
    scanFrom lexicon o expected text = .error x := by
  induction h with
  | @here o expected gap c rest fault hgap hhead hfault =>
    have hends : Ends isBlank (c :: rest) := Text.ends_cons hhead
    rw [scanFrom_eq, hends.takeWhile_append hgap, hends.dropWhile_append hgap]
    simp only [hfault]
  | @token o expected gap c rest kind after tokens x hgap hhead htaken _ ih =>
    have hends : Ends isBlank (c :: rest) := Text.ends_cons hhead
    rw [scanFrom_eq, hends.takeWhile_append hgap, hends.dropWhile_append hgap]
    simp only [htaken, ih]
    rfl

theorem exists_halts_of_scanFrom (h : scanFrom lexicon o expected text = .error x) :
    ∃ tokens, Halts lexicon o expected text tokens x := by
  fun_induction scanFrom lexicon o expected text generalizing x with
  | case1 => cases h
  | case2 o expected text start c rest hblanks fault =>
    rename_i htaken
    cases h
    have htext := List.takeWhile_append_dropWhile (p := isBlank) (l := text)
    have hhead := Text.ends_dropWhile isBlank text
    rw [hblanks] at htext hhead
    have hhalts : Halts lexicon o expected (text.takeWhile isBlank ++ c :: rest) _ _ :=
      .here (fun _ => List.mem_takeWhile_imp) (hhead c rfl) htaken
    rw [htext] at hhalts
    exact ⟨_, hhalts⟩
  | case3 o expected text start c rest hblanks kind after =>
    rename_i htaken next ih
    have htext := List.takeWhile_append_dropWhile (p := isBlank) (l := text)
    have hhead := Text.ends_dropWhile isBlank text
    rw [hblanks] at htext hhead
    cases hscan : scanFrom lexicon next kind.operandFollows after with
    | ok tokens =>
      rw [hscan] at h
      cases h
    | error y =>
      rw [hscan] at h
      cases h
      obtain ⟨tokens, hrest⟩ := ih hscan
      have hhalts : Halts lexicon o expected (text.takeWhile isBlank ++ c :: rest) _ x :=
        .token (fun _ => List.mem_takeWhile_imp) (hhead c rfl) htaken hrest
      rw [htext] at hhalts
      exact ⟨_, hhalts⟩

/-- The lexer halts in front of a character at which no token begins. Cut off there, the text has
just the tokens that were read, since no token takes more when less comes after it. -/
theorem Halts.exists_front (hempty : "" ∉ lexicon.signs)
    (h : Halts lexicon o expected text tokens x) :
    ∃ front c rest expected' fault, text = front ++ c :: rest ∧ isBlank c = false ∧
      lexeme lexicon expected' c rest = .error fault ∧ x = fault.at (o + front.length) ∧
      Scans lexicon o expected front (tokens ++ [⟨.eof, o + front.length⟩]) := by
  induction h with
  | @here o expected gap c rest fault hgap hhead hfault =>
    exact ⟨gap, c, rest, expected, fault, rfl, hhead, hfault, rfl, .eof hgap⟩
  | @token o expected gap c rest kind after tokens x hgap hhead htaken hrest ih =>
    obtain ⟨front, d, rest', expected', fault, rfl, hblank, hfault, rfl, hscans⟩ := ih
    obtain ⟨spelling, htext, htaken⟩ := exists_taken_of_lexeme hempty htaken
    have hbegins : front <+: front ++ d :: rest' := List.prefix_append _ _
    have htaken' : Taken lexicon expected kind spelling front :=
      htaken.of_echoes (fun _ _ hword => hword.trans hbegins) fun _ _ hsign =>
        hsign.trans ((List.prefix_append_right_inj spelling).mpr hbegins)
    have hends : Ends isBlank spelling := by
      intro b hb
      have hfirst := congrArg List.head? htext
      rw [List.head?_append_of_ne_nil _ htaken.ne_nil, hb] at hfirst
      cases hfirst
      exact hhead
    have hlength := congrArg List.length htext
    rw [List.length_cons, List.length_append] at hlength
    rw [hlength, Nat.add_sub_cancel] at hscans ⊢
    have hplace : o + gap.length + spelling.length + front.length
        = o + (gap ++ (spelling ++ front)).length := by
      simp only [List.length_append]
      omega
    rw [hplace] at hscans ⊢
    refine ⟨gap ++ (spelling ++ front), d, rest', expected', fault, ?_, hblank, hfault, rfl,
      .token hgap hends htaken' hscans⟩
    rw [htext]
    simp

end Halts

end Lexer

namespace Grammar
variable {g : Grammar} {text : String} {x : SyntaxError}

open Lexer in
/-- Where a text cannot be cut into tokens the lexer halts, and the error names the place. The part
of the text before it has just the tokens that were read. Either a character stands there that is no
blank and begins no sign, or a quote stands there and all quotes of its kind behind it are
escaped. -/
theorem halts_of_tokenize (h : g.tokenize text = .error x) :
    ∃ tokens front c rest, Halts g.lexicon 0 true text.toList tokens x ∧
      text.toList = front ++ c :: rest ∧
      g.tokenize (String.ofList front) = .ok (tokens ++ [⟨.eof, front.length⟩]) ∧
      (x = .unexpectedCharacter c front.length ∧ isBlank c = false ∧
          (¬ ∃ sign, g.SignAt (c :: rest) sign) ∨
        x = .unterminatedString front.length ∧ (c = '"' ∨ c = '\'') ∧
          ∀ before after, rest = before ++ c :: after → Escapes before) := by
  obtain ⟨tokens, hhalts⟩ := exists_halts_of_scanFrom h
  obtain ⟨front, c, rest, expected, fault, htext, hblank, hfault, hx, hscans⟩ :=
    hhalts.exists_front g.empty_not_mem_signs
  rw [Nat.zero_add] at hx hscans
  refine ⟨tokens, front, c, rest, hhalts, htext, ?_, ?_⟩
  · rw [tokenize, String.toList_ofList]
    exact hscans.scanFrom_eq_ok
  · rw [hx]
    obtain ⟨rfl, hquote, hnone⟩ | ⟨rfl, -, hsigns, -⟩ := lexeme_eq_error_iff.mp hfault
    · have hbackslash : c ≠ '\\' := by rintro rfl; cases hquote <;> contradiction
      exact .inr ⟨rfl, hquote, (readString?_eq_none_iff hbackslash).mp hnone⟩
    · exact .inl ⟨rfl, hblank, longestPrefix?_signs_eq_none_iff.mp hsigns⟩

open Lexer in
/-- The quote in the string is escaped, so it does not close it. -/
theorem halts_of_tokenize_standard :
    let text := "x <= 'it\\'s"
    let x : SyntaxError := .unterminatedString 5
    standard.tokenize text = .error x ∧
      ∃ tokens front c rest, Halts standard.lexicon 0 true text.toList tokens x ∧
        text.toList = front ++ c :: rest ∧
        standard.tokenize (String.ofList front) = .ok (tokens ++ [⟨.eof, front.length⟩]) ∧
        (x = .unexpectedCharacter c front.length ∧ isBlank c = false ∧
            (¬ ∃ sign, standard.SignAt (c :: rest) sign) ∨
          x = .unterminatedString front.length ∧ (c = '"' ∨ c = '\'') ∧
            ∀ before after, rest = before ++ c :: after → Escapes before) := by
  intro text x
  have hstring : Halts standard.lexicon 4 true " 'it\\'s".toList [] x :=
    @Halts.here _ _ _ [' '] '\'' "it\\'s".toList .string forall_isBlank_space rfl rfl
  have hsign : Halts standard.lexicon 1 false " <= 'it\\'s".toList [⟨.operator "<=", 2⟩] x :=
    @Halts.token _ _ _ [' '] '<' "= 'it\\'s".toList _ _ _ _ forall_isBlank_space rfl rfl hstring
  have hhalts : Halts standard.lexicon 0 true "x <= 'it\\'s".toList
      [⟨.identifier "x", 0⟩, ⟨.operator "<=", 2⟩] x :=
    @Halts.token _ _ _ [] 'x' " <= 'it\\'s".toList _ _ _ _ (List.forall_mem_nil _) rfl rfl hsign
  have htokenize : standard.tokenize text = .error x := hhalts.scanFrom_eq_error
  exact ⟨htokenize, halts_of_tokenize htokenize⟩

end Grammar

end Cohort
