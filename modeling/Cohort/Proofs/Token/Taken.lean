import Cohort.Proofs.Number.Spelled
import Cohort.Proofs.Token.Symbols
import Mathlib

/-!
What the lexer takes from the front of a text. Each kind of token has its way of being spelled and a
condition on what follows, and together they say which token is taken and where it ends.
-/
namespace Cohort
open Cohort.Text (Ends ends_dropWhile isDigit digitsValue isDigit_of_isNameStart isNameStart
  isNameChar)
open Cohort.Number (Digits EndsNumber minus pointed signed)

theorem Mark.char_of_ofChar? {c : Char} {m : Mark} (h : Mark.ofChar? c = some m) : m.char = c := by
  simpa using List.find?_some h

namespace Lexer

def unescaped : Char → Char
  | 'n' => '\n'
  | 't' => '\t'
  | 'r' => '\r'
  | other => other

/-- The characters between two quotes stand for a string. -/
inductive Quotes (quote : Char) : List Char → List Char → Prop where
  | nil : Quotes quote [] []
  | plain {c body s} (hquote : c ≠ quote) (hbackslash : c ≠ '\\') (h : Quotes quote body s) :
    Quotes quote (c :: body) (c :: s)
  | escape {c body s} (h : Quotes quote body s) :
    Quotes quote ('\\' :: c :: body) (unescaped c :: s)

section Strings
variable {quote : Char} {text body s rest : List Char}

theorem readString?_cons (quote c : Char) (rest : List Char) :
    readString? quote (c :: rest) =
      if c = quote then some ([], rest)
      else if c = '\\' then
        match rest with
        | [] => none
        | escaped :: rest =>
          (readString? quote rest).map fun (cs, rest) => (unescaped escaped :: cs, rest)
      else (readString? quote rest).map fun (cs, rest) => (c :: cs, rest) := by
  rw [readString?.eq_def]
  rfl

theorem Quotes.readString? (h : Quotes quote body s) (hquote : quote ≠ '\\') (rest : List Char) :
    Lexer.readString? quote (body ++ quote :: rest) = some (s, rest) := by
  induction h with
  | nil => rw [List.nil_append, readString?_cons, if_pos rfl]
  | plain hne hbackslash _ ih =>
    rw [List.cons_append, readString?_cons, if_neg hne, if_neg hbackslash, ih, Option.map_some]
  | escape _ ih =>
    rw [List.cons_append, readString?_cons, if_neg hquote.symm, if_pos rfl]
    simp only [List.cons_append, ih, Option.map_some]

theorem exists_quotes_of_readString? (h : readString? quote text = some (s, rest)) :
    ∃ body, text = body ++ quote :: rest ∧ Quotes quote body s := by
  fun_induction Lexer.readString? quote text generalizing s with
  | case1 => cases h
  | case2 =>
    cases h
    exact ⟨[], rfl, .nil⟩
  | case3 => cases h
  | case4 =>
    rename_i ih
    obtain ⟨⟨s, rest⟩, hread, heq⟩ := Option.map_eq_some_iff.mp h
    cases heq
    obtain ⟨body, rfl, hbody⟩ := ih hread
    exact ⟨_, rfl, .escape hbody⟩
  | case5 =>
    rename_i hquote hbackslash ih
    obtain ⟨⟨s, rest⟩, hread, heq⟩ := Option.map_eq_some_iff.mp h
    cases heq
    obtain ⟨body, rfl, hbody⟩ := ih hread
    exact ⟨_, rfl, .plain hquote hbackslash hbody⟩

end Strings

/-- A text may be what is left after a number: it does not go on with a digit, and when there is no
fraction yet, with none either. -/
structure FollowsNumber (fraction : Option (List Char)) (rest : List Char) : Prop where
  endsNumber : EndsNumber rest
  noFraction (hfraction : fraction = none) {d : Char} {text : List Char}
    (hrest : rest = '.' :: d :: text) : isDigit d = false

/-- The kind of a number: an integer when there is no fraction and the integer fits a word, and
otherwise a double. -/
def numberOf (negative : Bool) (whole : List Char) (fraction : Option (List Char)) : TokenKind :=
  match fraction, Number.narrow? (signed negative (digitsValue whole)) with
  | none, some n => .int n
  | _, _ =>
    .float (Number.ofDecimal negative (digitsValue (whole ++ fraction.getD []))
      (-(fraction.getD []).length))

section Numbers
variable {whole rest text : List Char} {fraction : Option (List Char)}

theorem FollowsNumber.pointed_append (h : FollowsNumber fraction rest) :
    EndsNumber (pointed fraction ++ rest) := by
  cases fraction with
  | none => exact h.endsNumber
  | some digits => exact Number.endsNumber_pointed (some digits)

theorem splitNumber_append (hwhole : ∀ c ∈ whole, isDigit c = true)
    (hfraction : ∀ digits ∈ fraction, Digits digits) (h : FollowsNumber fraction rest) :
    splitNumber (whole ++ (pointed fraction ++ rest)) = (whole, fraction, rest) := by
  have hends : Ends isDigit (pointed fraction ++ rest) := h.pointed_append
  rw [splitNumber, hends.takeWhile_append hwhole, hends.dropWhile_append hwhole]
  cases fraction with
  | none =>
    rw [pointed, List.nil_append]
    split
    next d after => rw [if_neg (by simp [h.noFraction rfl rfl])]
    next => rfl
  | some digits =>
    obtain ⟨hne, hdigits⟩ := hfraction digits rfl
    obtain ⟨d, digits, rfl⟩ := List.exists_cons_of_ne_nil hne
    have htake := Ends.takeWhile_append h.endsNumber hdigits
    have hdrop := Ends.dropWhile_append h.endsNumber hdigits
    simp only [pointed, List.cons_append] at htake hdrop ⊢
    rw [if_pos (hdigits d List.mem_cons_self), htake, hdrop]

theorem exists_of_splitNumber (h : splitNumber text = (whole, fraction, rest)) :
    text = whole ++ (pointed fraction ++ rest) ∧ (∀ c ∈ whole, isDigit c = true) ∧
      (∀ digits ∈ fraction, Digits digits) ∧ FollowsNumber fraction rest := by
  have htext := List.takeWhile_append_dropWhile (p := isDigit) (l := text)
  have hdigits (text : List Char) : ∀ c ∈ text.takeWhile isDigit, isDigit c = true :=
    fun _ => List.mem_takeWhile_imp
  unfold splitNumber at h
  split at h
  next d after hrest =>
    rw [hrest] at htext
    split at h
    next hd =>
      cases h
      refine ⟨?_, hdigits text, ?_, ends_dropWhile isDigit _, fun h => by cases h⟩
      · rw [pointed, List.cons_append, List.takeWhile_append_dropWhile, htext]
      · intro digits hfraction
        cases hfraction
        refine ⟨?_, hdigits _⟩
        rw [List.takeWhile_cons_of_pos hd]
        exact List.cons_ne_nil _ _
    next hd =>
      cases h
      refine ⟨htext.symm, hdigits text, by simp, hrest ▸ ends_dropWhile isDigit text, ?_⟩
      rintro - d' text' heq
      cases heq
      exact Bool.eq_false_of_not_eq_true hd
  next hrest =>
    cases h
    refine ⟨htext.symm, hdigits text, by simp, ends_dropWhile isDigit text, ?_⟩
    rintro - d after heq
    exact absurd heq (hrest d after)

theorem digits_of_splitNumber (h : splitNumber text = (whole, fraction, rest))
    (hdigit : text.head?.any isDigit = true) : Digits whole := by
  obtain ⟨rfl, hwhole, -, hafter⟩ := exists_of_splitNumber h
  refine ⟨?_, hwhole⟩
  rintro rfl
  obtain ⟨d, hd, hdigit⟩ := (Option.any_eq_true ..).mp hdigit
  cases (hafter.pointed_append d hd).symm.trans hdigit

theorem numberKind_digits (negative : Bool) (hwhole : Digits whole)
    (hfraction : ∀ digits ∈ fraction, Digits digits) :
    numberKind (minus negative) whole fraction = .ok (numberOf negative whole fraction) := by
  have hfloat := Number.readFloat?_digits negative hwhole hfraction
  rw [← List.append_assoc] at hfloat
  cases fraction with
  | some digits =>
    simp only [numberKind, show minus negative ++ whole ++ '.' :: digits
      = minus negative ++ whole ++ pointed (some digits) from rfl, hfloat]
    rfl
  | none =>
    simp only [pointed, List.append_nil] at hfloat
    simp only [numberKind, numberOf, List.append_nil, hfloat, Number.readInt64?,
      Number.readInt?_digits negative hwhole, Option.bind_some]
    cases Number.narrow? (signed negative (digitsValue whole)) <;> rfl

end Numbers

/-- A text begins with a string or a number whatever the signs are: with a quote, a digit, or a
minus sign before a digit where an operand is expected. -/
def BeginsLiteral (expected : Bool) : List Char → Prop
  | [] => False
  | c :: rest => (c = '"' ∨ c = '\'') ∨ isDigit c = true ∨
    c = '-' ∧ expected = true ∧ rest.head?.any isDigit = true

/-- A token of some kind is taken from the front of a text: how it is spelled there, and what is
left of the text. -/
inductive Taken (lexicon : Lexicon) (expected : Bool) :
    TokenKind → List Char → List Char → Prop where
  | string {quote body s after} (hquote : quote = '"' ∨ quote = '\'')
    (hbody : Quotes quote body s) :
    Taken lexicon expected (.string (String.ofList s)) (quote :: (body ++ [quote])) after
  | number {negative whole fraction after} (hminus : negative = true → expected = true)
    (hwhole : Digits whole) (hfraction : ∀ digits ∈ fraction, Digits digits)
    (hafter : FollowsNumber fraction after) :
    Taken lexicon expected (numberOf negative whole fraction)
      (minus negative ++ (whole ++ pointed fraction)) after
  | sign {sign after} (hne : sign ≠ "") (hliteral : ¬ BeginsLiteral expected (sign.toList ++ after))
    (hsign : longestPrefix? (sign.toList ++ after) lexicon.signs = some sign) :
    Taken lexicon expected (.operator sign) sign.toList after
  | name {c word after} (hsigns : longestPrefix? (c :: (word ++ after)) lexicon.signs = none)
    (hstart : isNameStart c = true) (hword : ∀ d ∈ word, isNameChar d = true)
    (hafter : Ends isNameChar after) :
    Taken lexicon expected (nameKind lexicon (String.ofList (c :: word))) (c :: word) after
  | mark {m after} (hsigns : longestPrefix? (m.char :: after) lexicon.signs = none) :
    Taken lexicon expected (.mark m) [m.char] after

section Tokens
variable {lexicon : Lexicon} {expected : Bool} {c : Char} {rest spelling after : List Char}
  {kind : TokenKind}

theorem not_beginsLiteral_of_isNameStart (h : isNameStart c = true) :
    ¬ BeginsLiteral expected (c :: rest) := by
  rintro ((rfl | rfl) | hdigit | ⟨rfl, -⟩)
  · cases h
  · cases h
  · rw [isDigit_of_isNameStart h] at hdigit
    cases hdigit
  · cases h

theorem not_beginsLiteral_char (m : Mark) : ¬ BeginsLiteral expected (m.char :: rest) := by
  cases m <;> simp [BeginsLiteral, Mark.char, isDigit]

/-- Where no string and no number begins, signs are looked for before names and marks. -/
theorem lexeme_of_not_beginsLiteral (h : ¬ BeginsLiteral expected (c :: rest)) :
    lexeme lexicon expected c rest =
      match longestPrefix? (c :: rest) lexicon.signs with
      | some sign => .ok (.operator sign, rest.drop (sign.length - 1))
      | none =>
        if isNameStart c then
          .ok (nameKind lexicon (String.ofList (c :: rest.takeWhile isNameChar)),
            rest.dropWhile isNameChar)
        else
          match Mark.ofChar? c with
          | some m => .ok (.mark m, rest)
          | none => .error (.character c) := by
  obtain ⟨hquote, hdigit, hminus⟩ : ¬ (c = '"' ∨ c = '\'') ∧ ¬ isDigit c = true ∧
      ¬ (c = '-' ∧ expected = true ∧ rest.head?.any isDigit = true) := by
    simpa only [BeginsLiteral, not_or] using h
  exact (if_neg hquote).trans ((if_neg hdigit).trans (if_neg hminus))

/-- What is left after a sign that begins with the first character. -/
theorem drop_sign {sign : String} (hne : sign ≠ "") (h : c :: rest = sign.toList ++ after) :
    rest.drop (sign.length - 1) = after := by
  obtain ⟨d, s, hs⟩ := List.exists_cons_of_ne_nil (mt String.toList_eq_nil_iff.mp hne)
  rw [hs] at h
  obtain ⟨-, rfl⟩ := List.cons.inj h
  exact List.drop_left' (by rw [← String.length_toList, hs]; rfl)

theorem exists_taken_of_splitNumber {negative : Bool} {text : List Char}
    (hminus : negative = true → expected = true) (hdigit : text.head?.any isDigit = true)
    (h : (numberKind (minus negative) (splitNumber text).1 (splitNumber text).2.1).map
      (·, (splitNumber text).2.2) = .ok (kind, after)) :
    ∃ spelling, minus negative ++ text = spelling ++ after ∧
      Taken lexicon expected kind spelling after := by
  obtain ⟨whole, fraction, rest, hsplit⟩ :
      ∃ whole fraction rest, splitNumber text = (whole, fraction, rest) := ⟨_, _, _, rfl⟩
  have hwhole : Digits whole := digits_of_splitNumber hsplit hdigit
  obtain ⟨rfl, -, hfraction, hafter⟩ := exists_of_splitNumber hsplit
  rw [hsplit, numberKind_digits negative hwhole hfraction] at h
  cases h
  exact ⟨_, by simp only [List.append_assoc], .number hminus hwhole hfraction hafter⟩

/-- A sign, a name or a mark is taken from the front of the text. -/
theorem exists_taken_of_not_beginsLiteral (hempty : "" ∉ lexicon.signs)
    (hliteral : ¬ BeginsLiteral expected (c :: rest))
    (h : lexeme lexicon expected c rest = .ok (kind, after)) :
    ∃ spelling, c :: rest = spelling ++ after ∧ Taken lexicon expected kind spelling after := by
  rw [lexeme_of_not_beginsLiteral hliteral] at h
  split at h
  next sign hsign =>
    cases h
    obtain ⟨hmem, ⟨text, htext⟩, -⟩ := longestPrefix?_eq_some_iff.mp hsign
    have hne := ne_of_mem_of_not_mem hmem hempty
    rw [drop_sign hne htext.symm]
    rw [← htext] at hliteral hsign ⊢
    exact ⟨_, rfl, .sign hne hliteral hsign⟩
  next hsigns =>
    split at h
    next hstart =>
      cases h
      have hrest := List.takeWhile_append_dropWhile (p := isNameChar) (l := rest)
      refine ⟨_, congrArg (c :: ·) hrest.symm,
        .name (by rwa [hrest]) hstart (fun _ => List.mem_takeWhile_imp) (ends_dropWhile _ _)⟩
    next =>
      split at h <;> cases h
      next m hmark =>
      obtain rfl := Mark.char_of_ofChar? hmark
      exact ⟨[m.char], rfl, .mark hsigns⟩

/-- What the lexer takes it takes from the front of the text. -/
theorem exists_taken_of_lexeme (hempty : "" ∉ lexicon.signs)
    (h : lexeme lexicon expected c rest = .ok (kind, after)) :
    ∃ spelling, c :: rest = spelling ++ after ∧ Taken lexicon expected kind spelling after := by
  by_cases hquote : c = '"' ∨ c = '\''
  · rw [lexeme, if_pos hquote] at h
    split at h <;> cases h
    next s hread =>
    obtain ⟨body, rfl, hbody⟩ := exists_quotes_of_readString? hread
    exact ⟨_, by simp, .string hquote hbody⟩
  by_cases hdigit : isDigit c = true
  · rw [lexeme, if_neg hquote, if_pos hdigit] at h
    exact @exists_taken_of_splitNumber _ _ _ _ false _ (by simp) (by simpa using hdigit) h
  by_cases hminus : c = '-' ∧ expected = true ∧ rest.head?.any isDigit = true
  · rw [lexeme, if_neg hquote, if_neg hdigit, if_pos hminus] at h
    obtain ⟨rfl, hexpected, hrest⟩ := hminus
    exact @exists_taken_of_splitNumber _ _ _ _ true _ (fun _ => hexpected) hrest h
  have hliteral : ¬ BeginsLiteral expected (c :: rest) := by
    simp only [BeginsLiteral, not_or]
    exact ⟨not_or.mp hquote, hdigit, hminus⟩
  exact exists_taken_of_not_beginsLiteral hempty hliteral h

theorem Taken.ne_nil (h : Taken lexicon expected kind spelling after) : spelling ≠ [] := by
  cases h with
  | string | name | mark => exact List.cons_ne_nil _ _
  | number _ hwhole => simp [hwhole.1]
  | sign hne => exact mt String.toList_eq_nil_iff.mp hne

theorem lexeme_number {negative : Bool} {whole : List Char} {fraction : Option (List Char)}
    (hminus : negative = true → expected = true) (hwhole : Digits whole)
    (hfraction : ∀ digits ∈ fraction, Digits digits) (hafter : FollowsNumber fraction after)
    (heq : c :: rest = minus negative ++ (whole ++ (pointed fraction ++ after))) :
    lexeme lexicon expected c rest = .ok (numberOf negative whole fraction, after) := by
  have hsplit := splitNumber_append hwhole.2 hfraction hafter
  have hkind := congrArg (Except.map (·, after)) (numberKind_digits negative hwhole hfraction)
  obtain ⟨d, digits, hdigits, hd⟩ := hwhole.exists_cons
  cases negative with
  | false =>
    rw [minus, if_neg Bool.false_ne_true, List.nil_append] at heq
    have hc : isDigit c = true := by
      rw [hdigits] at heq
      rwa [(List.cons.inj heq).1]
    have hquote : ¬ (c = '"' ∨ c = '\'') := by rintro (rfl | rfl) <;> cases hc
    rw [← heq] at hsplit
    rw [lexeme, if_neg hquote, if_pos hc, hsplit]
    exact hkind
  | true =>
    rw [minus, if_pos rfl, List.singleton_append] at heq
    obtain ⟨rfl, rfl⟩ := List.cons.inj heq
    have hminus : '-' = '-' ∧ expected = true ∧
        (whole ++ (pointed fraction ++ after)).head?.any isDigit = true := by
      refine ⟨rfl, hminus rfl, ?_⟩
      rw [hdigits]
      exact hd
    rw [lexeme, if_neg (by decide), if_neg (by decide), if_pos hminus, hsplit]
    exact hkind

theorem Taken.lexeme_eq (h : Taken lexicon expected kind spelling after)
    (heq : c :: rest = spelling ++ after) :
    lexeme lexicon expected c rest = .ok (kind, after) := by
  cases h with
  | @string quote body s _ hquote hbody =>
    rw [List.cons_append, List.append_assoc] at heq
    obtain ⟨rfl, rfl⟩ := List.cons.inj heq
    have hbackslash : c ≠ '\\' := by
      rintro rfl
      cases hquote <;> contradiction
    rw [lexeme, if_pos hquote, List.singleton_append, hbody.readString? hbackslash]
  | number hminus hwhole hfraction hafter =>
    rw [List.append_assoc, List.append_assoc] at heq
    exact lexeme_number hminus hwhole hfraction hafter heq
  | @sign sign _ hne hliteral hsign =>
    rw [← heq] at hliteral hsign
    rw [lexeme_of_not_beginsLiteral hliteral, hsign]
    dsimp only
    rw [drop_sign hne heq]
  | @name c' word _ hsigns hstart hword hafter =>
    rw [List.cons_append] at heq
    obtain ⟨rfl, rfl⟩ := List.cons.inj heq
    rw [lexeme_of_not_beginsLiteral (not_beginsLiteral_of_isNameStart hstart), hsigns]
    dsimp only
    rw [if_pos hstart, hafter.takeWhile_append hword, hafter.dropWhile_append hword]
  | @mark m _ hsigns =>
    rw [List.singleton_append] at heq
    obtain ⟨rfl, rfl⟩ := List.cons.inj heq
    have hstart : ¬ isNameStart m.char = true := by cases m <;> decide
    rw [lexeme_of_not_beginsLiteral (not_beginsLiteral_char m), hsigns]
    dsimp only
    rw [if_neg hstart, Mark.ofChar?_char]

end Tokens

end Lexer

end Cohort
