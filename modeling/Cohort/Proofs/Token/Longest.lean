import Cohort.Proofs.Text.Classes
import Cohort.Proofs.Token.Lossless
import Mathlib

/-!
Where the symbols of a grammar stand in a text. Of the signs that begin at a place the longest one
is taken, and a name is taken as a whole, whatever symbols it begins with.
-/
namespace Cohort
open Cohort.Text (Ends isBlank isDigit isNameStart isNameChar)
open Cohort.Number (minus)

/-- A registered symbol with a character that does not belong to a name stands at the front of a
text. -/
def Grammar.SignAt (g : Grammar) (text : List Char) (sign : String) : Prop :=
  g.isSymbol sign = true ∧ isWord sign = false ∧ sign.toList <+: text

/-- What a token takes stands at its place, with nothing but blanks behind it up to the place of the
next token. -/
def Lexer.Covers (text : List Char) (token next : Token) (taken : List Char) : Prop :=
  ∃ gap, text.extract token.offset next.offset = taken ++ gap ∧ ∀ c ∈ gap, isBlank c = true

def Lexer.operandAfter (expected : Bool) (tokens : List Token) : Bool :=
  (tokens.getLast?.map (·.kind.operandFollows)).getD expected

theorem Grammar.mem_signs {g : Grammar} {symbol : String} :
    symbol ∈ g.lexicon.signs ↔ g.isSymbol symbol = true ∧ isWord symbol = false := by
  simp [Grammar.lexicon, Grammar.mem_symbols]

theorem Grammar.mem_words {g : Grammar} {symbol : String} :
    symbol ∈ g.lexicon.words ↔ g.isSymbol symbol = true ∧ isWord symbol = true := by
  simp [Grammar.lexicon, Grammar.mem_symbols]

namespace Lexer

section Signs
variable {g : Grammar} {text : List Char} {sign : String}

theorem longestPrefix?_signs_eq_none_iff :
    longestPrefix? text g.lexicon.signs = none ↔ ¬ ∃ sign, g.SignAt text sign := by
  simp only [longestPrefix?_eq_none_iff, Grammar.mem_signs, Grammar.SignAt, not_exists]
  exact forall_congr' fun sign => by tauto

theorem longestPrefix?_signs_eq_some_iff :
    longestPrefix? text g.lexicon.signs = some sign ↔
      g.SignAt text sign ∧ ∀ other, g.SignAt text other → other.length ≤ sign.length := by
  simp only [longestPrefix?_eq_some_iff, Grammar.mem_signs, Grammar.SignAt, and_imp, and_assoc]

end Signs

section Taken
variable {lexicon : Lexicon} {g : Grammar} {expected : Bool} {kind : TokenKind}
  {spelling after : List Char} {symbol name : String}

theorem nameKind_eq_operator_iff :
    nameKind lexicon name = .operator symbol ↔
      symbol = name ∧ name ∈ lexicon.words ∧ name ≠ "true" ∧ name ≠ "false" ∧ name ≠ "null" := by
  unfold nameKind
  split_ifs <;> simp_all [eq_comm]

theorem numberOf_ne_operator {negative : Bool} {whole : List Char} {fraction : Option (List Char)} :
    numberOf negative whole fraction ≠ .operator symbol := by
  unfold numberOf
  split <;> simp

theorem Taken.mem_of_operator (h : Taken lexicon expected (.operator symbol) spelling after) :
    symbol ∈ lexicon.signs ∨ symbol ∈ lexicon.words := by
  generalize hkind : TokenKind.operator symbol = kind at h
  cases h with
  | string => cases hkind
  | number => exact absurd hkind.symm numberOf_ne_operator
  | sign _ _ hsign =>
    cases hkind
    exact .inl (longestPrefix?_eq_some_iff.mp hsign).1
  | name =>
    obtain ⟨rfl, hmem, -⟩ := nameKind_eq_operator_iff.mp hkind.symm
    exact .inr hmem
  | mark => cases hkind

theorem beginsLiteral_number {negative : Bool} {whole rest : List Char}
    (hminus : negative = true → expected = true) (hwhole : Number.Digits whole) :
    BeginsLiteral expected (minus negative ++ (whole ++ rest)) := by
  obtain ⟨d, digits, rfl, hd⟩ := hwhole.exists_cons
  cases negative with
  | false => exact .inr (.inl hd)
  | true => exact .inr (.inr ⟨rfl, hminus rfl, hd⟩)

/-- The longest sign is what is taken. -/
theorem Taken.eq_sign {sign : String} (h : Taken lexicon expected kind spelling after)
    (hliteral : ¬ BeginsLiteral expected (spelling ++ after))
    (hsign : longestPrefix? (spelling ++ after) lexicon.signs = some sign) :
    kind = .operator sign ∧ spelling = sign.toList := by
  cases h with
  | string hquote => exact absurd (.inl hquote) hliteral
  | number hminus hwhole =>
    rw [List.append_assoc, List.append_assoc] at hliteral
    exact absurd (beginsLiteral_number hminus hwhole) hliteral
  | sign _ _ hsign' =>
    cases hsign.symm.trans hsign'
    exact ⟨rfl, rfl⟩
  | name hsigns => cases hsigns.symm.trans hsign
  | mark hsigns => cases hsigns.symm.trans hsign

/-- Without a sign, what begins a name is taken with all that belongs to the name. -/
theorem Taken.eq_name (h : Taken lexicon expected kind spelling after)
    (hliteral : ¬ BeginsLiteral expected (spelling ++ after))
    (hsigns : longestPrefix? (spelling ++ after) lexicon.signs = none)
    (hstart : (spelling ++ after).head?.any isNameStart = true) :
    kind = nameKind lexicon (String.ofList spelling) ∧
      spelling = (spelling ++ after).takeWhile isNameChar := by
  cases h with
  | string hquote => exact absurd (.inl hquote) hliteral
  | number hminus hwhole =>
    rw [List.append_assoc, List.append_assoc] at hliteral
    exact absurd (beginsLiteral_number hminus hwhole) hliteral
  | sign _ _ hsign => cases hsigns.symm.trans hsign
  | @name c word _ _ hname hword hafter =>
    have hall : ∀ d ∈ c :: word, isNameChar d = true :=
      List.forall_mem_cons.mpr ⟨Text.isNameChar_of_isNameStart hname, hword⟩
    exact ⟨rfl, (hafter.takeWhile_append hall).symm⟩
  | @mark m => cases m <;> cases hstart

end Taken

section Scans
variable {lexicon : Lexicon} {o : ℕ} {expected : Bool} {text : List Char} {tokens : List Token}

/-- What holds of the end marker and of everything that is taken holds of all tokens. -/
theorem Scans.forall_mem {p : TokenKind → Prop} (h : Scans lexicon o expected text tokens)
    (heof : p .eof)
    (htaken : ∀ {expected kind spelling after},
      Taken lexicon expected kind spelling after → p kind) :
    ∀ token ∈ tokens, p token.kind := by
  induction h with
  | eof => exact List.forall_mem_singleton.mpr heof
  | token _ _ hkind _ ih => exact List.forall_mem_cons.mpr ⟨htaken hkind, ih⟩

/-- Nothing but blanks comes before the first token. -/
theorem Scans.exists_gap {next : Token} {after : List Token}
    (h : Scans lexicon o expected text (next :: after)) :
    ∃ gap rest, text = gap ++ rest ∧ next.offset = o + gap.length ∧
      ∀ c ∈ gap, isBlank c = true := by
  cases h with
  | eof hgap => exact ⟨text, [], by simp, rfl, hgap⟩
  | token hgap => exact ⟨_, _, rfl, rfl, hgap⟩

theorem operandAfter_cons (token : Token) (before : List Token) :
    operandAfter expected (token :: before) = operandAfter token.kind.operandFollows before := by
  cases before <;> simp [operandAfter, List.getLast?_cons]

/-- The first token is taken after some blanks, unless it is the end marker. -/
theorem Scans.exists_first {token next : Token} {after : List Token}
    (h : Scans lexicon o expected text (token :: next :: after)) :
    ∃ gap spelling rest, text = gap ++ (spelling ++ rest) ∧ token.offset = o + gap.length ∧
      Ends isBlank spelling ∧ Taken lexicon expected token.kind spelling rest := by
  cases h with
  | token _ hhead htaken => exact ⟨_, _, _, rfl, rfl, hhead, htaken⟩

/-- A token with another one after it is taken from the text at its place. -/
theorem Scans.exists_taken {before after : List Token} {token next : Token}
    (h : Scans lexicon o expected text (before ++ token :: next :: after)) :
    ∃ front spelling gap rest, text = front ++ (spelling ++ (gap ++ rest)) ∧
      token.offset = o + front.length ∧ next.offset = token.offset + (spelling ++ gap).length ∧
      (∀ c ∈ gap, isBlank c = true) ∧
      Taken lexicon (operandAfter expected before) token.kind spelling (gap ++ rest) := by
  induction before generalizing o expected text with
  | nil =>
    cases h with
    | @token _ _ front _ spelling _ _ _ _ htaken hrest =>
      obtain ⟨gap, rest, rfl, hoffset, hgap⟩ := hrest.exists_gap
      refine ⟨front, spelling, gap, rest, rfl, rfl, ?_, hgap, htaken⟩
      rw [hoffset, List.length_append]
      exact Nat.add_assoc ..
  | cons first before ih =>
    generalize htokens : before ++ token :: next :: after = tokens at ih
    rw [List.cons_append, htokens] at h
    cases h with
    | eof => simp at htokens
    | @token _ _ gap₀ _ spelling₀ _ _ _ _ _ hrest =>
      obtain ⟨front, spelling, gap, rest, rfl, hoffset, hnext, hgap, htaken⟩ := ih hrest
      refine ⟨gap₀ ++ (spelling₀ ++ front), spelling, gap, rest, by simp, ?_, hnext, hgap, ?_⟩
      · rw [hoffset]
        simp only [List.length_append]
        omega
      · rwa [operandAfter_cons]

end Scans

end Lexer

theorem Grammar.isSymbol_of_tokenize {g : Grammar} {text : String} {tokens : List Token}
    (h : g.tokenize text = .ok tokens) :
    ∀ token ∈ tokens, ∀ symbol, token.kind = .operator symbol → g.isSymbol symbol = true := by
  have hscans := Lexer.scans_of_scanFrom g.empty_not_mem_signs h
  refine hscans.forall_mem (p := fun kind => ∀ symbol, kind = .operator symbol →
    g.isSymbol symbol = true) (by simp) fun htaken symbol hkind => ?_
  rw [hkind] at htaken
  exact htaken.mem_of_operator.elim (fun hmem => (mem_signs.mp hmem).1)
    fun hmem => (mem_words.mp hmem).1

open Lexer in
/-- Where no string and no number begins, a token is the longest of the signs that stand there, even
if a name or a mark could begin there. Where there is no sign either, a name goes on as far as it
can, and it is an operator just when it is a registered symbol and not one of the words with a
meaning of their own. No token is an operator that is not registered. -/
theorem Grammar.longest_of_tokenize {g : Grammar} {text : String} {tokens : List Token}
    (h : g.tokenize text = .ok tokens) :
    (∀ before token next after, tokens = before ++ token :: next :: after →
      let rest := text.toList.drop token.offset
      ¬ BeginsLiteral (operandAfter true before) rest →
        ((∃ sign, g.SignAt rest sign) → ∃ sign, g.SignAt rest sign ∧
          (∀ other, g.SignAt rest other → other.length ≤ sign.length) ∧
            token.kind = .operator sign ∧ Covers text.toList token next sign.toList) ∧
        ((¬ ∃ sign, g.SignAt rest sign) → rest.head?.any isNameStart = true →
          let name := String.ofList (rest.takeWhile isNameChar)
          Covers text.toList token next name.toList ∧
            ∀ symbol, token.kind = .operator symbol ↔ symbol = name ∧
              g.isSymbol name = true ∧ name ≠ "true" ∧ name ≠ "false" ∧ name ≠ "null")) ∧
    ∀ token ∈ tokens, ∀ symbol, token.kind = .operator symbol → g.isSymbol symbol = true := by
  have hscans := scans_of_scanFrom g.empty_not_mem_signs h
  refine ⟨?_, isSymbol_of_tokenize h⟩
  rintro before token next after rfl rest hliteral
  obtain ⟨front, spelling, gap, more, htext, hoffset, hnext, hgap, htaken⟩ := hscans.exists_taken
  rw [Nat.zero_add] at hoffset
  have hrest : rest = spelling ++ (gap ++ more) := by
    change text.toList.drop token.offset = _
    rw [htext, hoffset, List.drop_left]
  have hcovers : Covers text.toList token next spelling := by
    refine ⟨gap, ?_, hgap⟩
    rw [htext, hnext, hoffset, ← List.append_assoc spelling]
    exact extract_append_left ..
  rw [hrest] at hliteral ⊢
  refine ⟨fun hsigns => ?_, fun hsigns hstart => ?_⟩
  · cases hlongest : longestPrefix? (spelling ++ (gap ++ more)) g.lexicon.signs with
    | none => exact absurd hsigns (longestPrefix?_signs_eq_none_iff.mp hlongest)
    | some sign =>
      obtain ⟨hsign, hmost⟩ := longestPrefix?_signs_eq_some_iff.mp hlongest
      obtain ⟨hkind, rfl⟩ := htaken.eq_sign hliteral hlongest
      exact ⟨sign, hsign, hmost, hkind, hcovers⟩
  · have hnone := longestPrefix?_signs_eq_none_iff.mpr hsigns
    obtain ⟨hkind, hname⟩ := htaken.eq_name hliteral hnone hstart
    have hword : isWord (String.ofList spelling) = true := by
      rw [isWord, String.toList_ofList, hname]
      exact List.all_takeWhile
    rw [← hname]
    refine ⟨?_, fun symbol => ?_⟩
    · rwa [String.toList_ofList]
    · rw [hkind, nameKind_eq_operator_iff, mem_words, and_iff_left hword]

open Lexer in
/-- The sign `<` stands where the longer one is taken, and no sign where the name is. -/
theorem Grammar.longest_of_tokenize_standard :
    let name : Token := ⟨.identifier "x", 0⟩
    let sign : Token := ⟨.operator "<=", 2⟩
    let number : Token := ⟨.int (-1), 5⟩
    let text := "x <= -1 ".toList
    standard.tokenize "x <= -1 " = .ok [name, sign, number, ⟨.eof, 8⟩] ∧
      standard.SignAt (text.drop 2) "<" ∧
      (∃ longest, standard.SignAt (text.drop 2) longest ∧
        (∀ other, standard.SignAt (text.drop 2) other → other.length ≤ longest.length) ∧
          sign.kind = .operator longest ∧ Covers text sign number longest.toList) ∧
      (¬ ∃ sign, standard.SignAt text sign) ∧ Covers text name sign "x".toList ∧
      standard.isSymbol "<=" = true := by
  intro name sign number text
  have htokens := tokenize_comparison
  obtain ⟨hplaces, hregistered⟩ := longest_of_tokenize htokens
  have hless : standard.SignAt (text.drop 2) "<" := ⟨by decide, by decide, by decide⟩
  have hnone : ¬ ∃ sign, standard.SignAt text sign :=
    longestPrefix?_signs_eq_none_iff.mp (by decide +kernel)
  have hless' : ¬ BeginsLiteral false (text.drop 2) := by simp [text, BeginsLiteral, isDigit]
  have hsign := (hplaces [name] sign number [⟨.eof, 8⟩] rfl hless').1 ⟨"<", hless⟩
  have hstart : ¬ BeginsLiteral true text := not_beginsLiteral_of_isNameStart rfl
  have hname := ((hplaces [] name sign [number, ⟨.eof, 8⟩] rfl hstart).2 hnone (by decide)).1
  have hword : String.ofList ((text.drop name.offset).takeWhile isNameChar) = "x" := by
    decide +kernel
  rw [hword] at hname
  exact ⟨htokens, hless, hsign, hnone, hname, hregistered sign (by simp [sign]) "<=" rfl⟩

end Cohort
