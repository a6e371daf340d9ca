import Cohort.Proofs.Token.Scans
import Mathlib

/-!
Cutting a text into tokens loses nothing of it. Between the place of a token and that of the next
one stands a spelling of the token, and after it nothing but blanks.
-/
namespace Cohort
open Cohort.Text (isBlank digitsValue)
open Cohort.Number (Digits Nearest decimal minus pointed signed)

/-- The ways to spell a token. A double need not have the value that is spelled, but it is the one
nearest to it. -/
inductive TokenKind.SpelledAs : TokenKind → List Char → Prop where
  | operator {symbol} : SpelledAs (.operator symbol) symbol.toList
  | identifier {name} : SpelledAs (.identifier name) name.toList
  | true : SpelledAs (.bool true) "true".toList
  | false : SpelledAs (.bool false) "false".toList
  | null : SpelledAs .null "null".toList
  | mark {m} : SpelledAs (.mark m) [m.char]
  | string {quote body s} (hquote : quote = '"' ∨ quote = '\'')
    (hbody : Lexer.Quotes quote body s) :
    SpelledAs (.string (String.ofList s)) (quote :: (body ++ [quote]))
  | int {negative whole n} (hwhole : Digits whole)
    (hvalue : n.toInt = signed negative (digitsValue whole)) :
    SpelledAs (.int n) (minus negative ++ whole)
  | float {negative whole fraction x} (hwhole : Digits whole)
    (hfraction : ∀ digits ∈ fraction, Digits digits)
    (hvalue : Nearest negative (decimal whole fraction) x) :
    SpelledAs (.float x) (minus negative ++ (whole ++ pointed fraction))

namespace Lexer

section Spellings
variable {lexicon : Lexicon} {expected : Bool} {kind : TokenKind} {spelling after : List Char}

theorem spelledAs_nameKind (lexicon : Lexicon) (name : String) :
    (nameKind lexicon name).SpelledAs name.toList := by
  unfold nameKind
  split_ifs with htrue hfalse hnull
  · exact htrue ▸ .true
  · exact hfalse ▸ .false
  · exact hnull ▸ .null
  · exact .operator
  · exact .identifier

theorem spelledAs_numberOf {whole : List Char} {fraction : Option (List Char)} (negative : Bool)
    (hwhole : Digits whole) (hfraction : ∀ digits ∈ fraction, Digits digits) :
    (numberOf negative whole fraction).SpelledAs
      (minus negative ++ (whole ++ pointed fraction)) := by
  have hfloat := TokenKind.SpelledAs.float hwhole hfraction
    (Number.nearest_decimal negative whole fraction)
  unfold numberOf
  split
  next n hn =>
    rw [pointed, List.append_nil]
    exact .int hwhole (Number.toInt_of_narrow? hn)
  next => exact hfloat

theorem Taken.spelledAs (h : Taken lexicon expected kind spelling after) :
    kind.SpelledAs spelling := by
  cases h with
  | string hquote hbody => exact .string hquote hbody
  | number _ hwhole hfraction => exact spelledAs_numberOf _ hwhole hfraction
  | sign => exact .operator
  | @name c word =>
    have hname := spelledAs_nameKind lexicon (String.ofList (c :: word))
    rwa [String.toList_ofList] at hname
  | mark => exact .mark

theorem isEof_of_spelledAs (h : kind.SpelledAs spelling) : kind.isEof = false := by
  cases h <;> rfl

end Spellings

/-- Tokens account for a text from the character with the number `o` on. Their places increase, and
there is one end marker, which is the last token and stands at the end of the text. What comes
before the first token is blank, and what comes between the places of two neighbours is a spelling
of the first one with nothing but blanks after it. -/
structure Accounts (text : List Char) (o : ℕ) (tokens : List Token) : Prop where
  eof : ∃ before, tokens = before ++ [⟨.eof, text.length⟩] ∧
    ∀ token ∈ before, token.kind.isEof = false
  increasing : tokens.Pairwise (·.offset < ·.offset)
  length_le : o + tokens.length ≤ text.length + 1
  front : ∀ first ∈ tokens.head?, o ≤ first.offset ∧
    ∀ c ∈ text.extract o first.offset, isBlank c = true
  spelled : ∀ token next, [token, next] <:+: tokens → ∃ spelling gap,
    text.extract token.offset next.offset = spelling ++ gap ∧ token.kind.SpelledAs spelling ∧
      ∀ c ∈ gap, isBlank c = true

section Accounts
variable {lexicon : Lexicon} {o : ℕ} {expected : Bool} {text front word rest : List Char}
  {tokens : List Token}

theorem extract_append_left (front word rest : List Char) :
    (front ++ (word ++ rest)).extract front.length (front.length + word.length) = word := by
  rw [List.extract_eq_take_drop, List.drop_left, Nat.add_sub_cancel_left, List.take_left]

theorem extract_append_right {n : ℕ} (h : front.length + word.length ≤ n) :
    (front ++ (word ++ rest)).extract front.length n
      = word ++ (front ++ (word ++ rest)).extract (front.length + word.length) n := by
  have hword : word.take (n - front.length) = word := List.take_of_length_le (by omega)
  rw [List.extract_eq_take_drop, List.extract_eq_take_drop, List.drop_left, ← List.append_assoc,
    ← List.length_append, List.drop_left, List.take_append, hword, List.length_append, Nat.sub_sub]

/-- A token before others accounts for what it takes. -/
theorem Accounts.cons {gap spelling after : List Char} {kind : TokenKind}
    (hgap : ∀ c ∈ gap, isBlank c = true) (hkind : kind.SpelledAs spelling) (hne : spelling ≠ [])
    (hle : ∀ token ∈ tokens, (front ++ gap).length + spelling.length ≤ token.offset)
    (h : Accounts (front ++ gap ++ (spelling ++ after))
      ((front ++ gap).length + spelling.length) tokens) :
    Accounts (front ++ gap ++ (spelling ++ after)) front.length
      (⟨kind, (front ++ gap).length⟩ :: tokens) := by
  have hpos : 0 < spelling.length := List.length_pos_of_ne_nil hne
  have hfront : (front ++ gap).length = front.length + gap.length := List.length_append
  obtain ⟨before, htokens, hbefore⟩ := h.eof
  refine ⟨⟨⟨kind, _⟩ :: before, by rw [htokens, List.cons_append], ?_⟩, ?_, ?_, ?_, ?_⟩
  · exact List.forall_mem_cons.mpr ⟨isEof_of_spelledAs hkind, hbefore⟩
  · refine List.pairwise_cons.mpr ⟨fun token hmem => ?_, h.increasing⟩
    have := hle token hmem
    change (front ++ gap).length < token.offset
    omega
  · have := h.length_le
    rw [List.length_cons]
    omega
  · rintro first ⟨⟩
    change front.length ≤ (front ++ gap).length ∧ ∀ c ∈ _, _
    rw [List.append_assoc, hfront, extract_append_left]
    exact ⟨Nat.le_add_right _ _, hgap⟩
  · intro token next hinfix
    rcases List.infix_cons_iff.mp hinfix with hbegins | hinfix
    · obtain ⟨htoken, rest, hrest⟩ := List.cons_prefix_cons.mp hbegins
      obtain rfl := htoken
      rw [List.singleton_append] at hrest
      have hnext := h.front next (by rw [← hrest]; rfl)
      exact ⟨spelling, _, extract_append_right hnext.1, hkind, hnext.2⟩
    · exact h.spelled token next hinfix

/-- The tokens of a text account for it, whatever stands before it. -/
theorem Scans.accounts (h : Scans lexicon o expected text tokens)
    (hfront : front.length = o) : Accounts (front ++ text) o tokens := by
  induction h generalizing front with
  | @eof o expected gap hgap =>
    subst hfront
    have hslice : (front ++ gap).extract front.length (front ++ gap).length = gap := by
      simp
    rw [← List.length_append]
    refine ⟨⟨[], rfl, List.forall_mem_nil _⟩, List.pairwise_singleton _ _, by simp, ?_, ?_⟩
    · rintro first ⟨⟩
      change front.length ≤ (front ++ gap).length ∧ ∀ c ∈ _, _
      rw [hslice]
      exact ⟨by simp, hgap⟩
    · intro token next hinfix
      exact absurd hinfix.length_le (by simp)
  | @token o expected gap kind spelling after tokens hgap hhead htaken hrest ih =>
    subst hfront
    rw [← List.length_append] at hrest ih ⊢
    have hlength : (front ++ gap ++ spelling).length = (front ++ gap).length + spelling.length :=
      List.length_append
    have hafter := ih hlength
    rw [List.append_assoc] at hafter
    rw [← List.append_assoc]
    exact .cons hgap htaken.spelledAs htaken.ne_nil hrest.le_offset hafter

end Accounts

end Lexer

/-- The tokens of a text account for the whole of it. -/
theorem Grammar.accounts_of_tokenize {g : Grammar} {text : String} {tokens : List Token}
    (h : g.tokenize text = .ok tokens) : Lexer.Accounts text.toList 0 tokens := by
  have hscans := Lexer.scans_of_scanFrom g.empty_not_mem_signs h
  exact hscans.accounts (List.length_nil (α := Char))

/-- A number with a fraction and a sign, a string with a quote in it, a keyword and marks. -/
theorem Grammar.accounts_of_tokenize_standard :
    let text := "-1.5 < x['it\\'s', true] "
    let tokens : List Token :=
      [⟨.float (-1.5), 0⟩, ⟨.operator "<", 5⟩, ⟨.identifier "x", 7⟩, ⟨.mark .leftBracket, 8⟩,
        ⟨.string "it's", 9⟩, ⟨.mark .comma, 16⟩, ⟨.bool true, 18⟩, ⟨.mark .rightBracket, 22⟩,
        ⟨.eof, 24⟩]
    standard.tokenize text = .ok tokens ∧ Lexer.Accounts text.toList 0 tokens := by
  intro text tokens
  have hnumber : Lexer.Taken standard.lexicon true (.float (-1.5)) ['-', '1', '.', '5']
      " < x['it\\'s', true] ".toList :=
    @Lexer.Taken.number _ _ true ['1'] (some ['5']) _ (fun _ => rfl) (Number.digits_singleton rfl)
      (by simpa using Number.digits_singleton rfl) ⟨Text.ends_cons rfl, by simp⟩
  have hrest : Lexer.scanFrom standard.lexicon 4 false " < x['it\\'s', true] ".toList
      = .ok tokens.tail := by
    cbv
  have htext : text.toList = [] ++ (['-', '1', '.', '5'] ++ " < x['it\\'s', true] ".toList) := by
    decide +kernel
  have htokens : standard.tokenize text = .ok tokens := by
    rw [tokenize, htext, hnumber.scanFrom_eq (List.forall_mem_nil _) (Text.ends_cons rfl)]
    exact congrArg (Except.map _) hrest
  exact ⟨htokens, accounts_of_tokenize htokens⟩

end Cohort
