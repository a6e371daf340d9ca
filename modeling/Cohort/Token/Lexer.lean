import Cohort.Grammar.Basic
import Cohort.Number.Read

/-! Texts cut into tokens. -/
namespace Cohort
open Cohort.Text (isDigit isBlank isNameStart isNameChar)

/-- Whether a symbol could be read as a name. -/
def isWord (symbol : String) : Bool := symbol.toList.all isNameChar

/-- The operator symbols that a lexer looks for: signs at every place, words only where a whole name
stands. -/
structure Lexicon where
  signs : List String
  words : List String

def Grammar.lexicon (g : Grammar) : Lexicon :=
  ⟨g.symbols.filter (!isWord ·), g.symbols.filter isWord⟩

namespace Lexer

/-- The longest of the signs that a text begins with. -/
def longestPrefix? (text : List Char) : List String → Option String
  | [] => none
  | sign :: signs =>
    let other := longestPrefix? text signs
    if sign.toList.isPrefixOf text then
      match other with
      | some longer => if sign.length < longer.length then some longer else some sign
      | none => some sign
    else other

/-- The characters of a string after its opening quote, and what follows the closing one. A
backslash takes the next character as it is, except that `n`, `t` and `r` stand for a line end, a
tab and a carriage return. -/
def readString? (quote : Char) : List Char → Option (List Char × List Char)
  | [] => none
  | c :: rest =>
    if c = quote then some ([], rest)
    else if c = '\\' then
      match rest with
      | [] => none
      | escaped :: rest =>
        let c := match escaped with
          | 'n' => '\n'
          | 't' => '\t'
          | 'r' => '\r'
          | other => other
        (readString? quote rest).map fun (cs, rest) => (c :: cs, rest)
    else (readString? quote rest).map fun (cs, rest) => (c :: cs, rest)

/-- Digits, with a point and more digits when a digit follows the point: the whole part, the
fraction, and the rest of the text. -/
def splitNumber (text : List Char) : List Char × Option (List Char) × List Char :=
  let whole := text.takeWhile isDigit
  match text.dropWhile isDigit with
  | '.' :: d :: rest =>
    if isDigit d then
      (whole, some ((d :: rest).takeWhile isDigit), (d :: rest).dropWhile isDigit)
    else (whole, none, '.' :: d :: rest)
  | rest => (whole, none, rest)

/-- Why no token begins at some place. -/
inductive Fault where
  | character (c : Char)
  | string
  | number (text : String)

def Fault.at (fault : Fault) (offset : Nat) : SyntaxError :=
  match fault with
  | .character c => .unexpectedCharacter c offset
  | .string => .unterminatedString offset
  | .number text => .invalidNumber text offset

/-- The token kind of a number: an integer when it has no fraction and fits a word, and otherwise
the nearest double. -/
def numberKind (sign whole : List Char) (fraction : Option (List Char)) : Except Fault TokenKind :=
  let text := sign ++ whole ++ (match fraction with
    | some digits => '.' :: digits
    | none => [])
  let float :=
    match Number.readFloat? text with
    | some x => .ok (.float x)
    | none => .error (.number (String.ofList text))
  match fraction, Number.readInt64? text with
  | none, some n => .ok (.int n)
  | _, _ => float

/-- What a whole name stands for. -/
def nameKind (lexicon : Lexicon) (name : String) : TokenKind :=
  if name = "true" then .bool true
  else if name = "false" then .bool false
  else if name = "null" then .null
  else if lexicon.words.contains name then .operator name
  else .identifier name

/-- The token that begins with `c`, and the text after it. A minus sign belongs to the digit after
it where an operand is expected; signs win over names and punctuation. -/
def lexeme (lexicon : Lexicon) (operandExpected : Bool) (c : Char) (rest : List Char) :
    Except Fault (TokenKind × List Char) :=
  if c = '"' ∨ c = '\'' then
    match readString? c rest with
    | some (text, rest) => .ok (.string (String.ofList text), rest)
    | none => .error .string
  else if isDigit c then
    let (whole, fraction, rest) := splitNumber (c :: rest)
    (numberKind [] whole fraction).map (·, rest)
  else if c = '-' ∧ operandExpected ∧ (rest.head?.any isDigit) then
    let (whole, fraction, rest) := splitNumber rest
    (numberKind ['-'] whole fraction).map (·, rest)
  else
    match longestPrefix? (c :: rest) lexicon.signs with
    | some sign => .ok (.operator sign, rest.drop (sign.length - 1))
    | none =>
      if isNameStart c then
        .ok (nameKind lexicon (String.ofList (c :: rest.takeWhile isNameChar)),
          rest.dropWhile isNameChar)
      else
        match Mark.ofChar? c with
        | some m => .ok (.mark m, rest)
        | none => .error (.character c)

theorem suffix_readString? {quote : Char} {text cs rest : List Char}
    (h : readString? quote text = some (cs, rest)) : rest <:+ text := by
  fun_induction readString? quote text generalizing cs rest with
  | case1 => simp at h
  | case2 => simp_all
  | case3 => simp at h
  | case4 =>
    rename_i ih
    simp only [Option.map_eq_some_iff, Prod.exists, Prod.mk.injEq] at h
    obtain ⟨cs', rest', h, _, rfl⟩ := h
    exact ((ih h).trans (List.suffix_cons _ _)).trans (List.suffix_cons _ _)
  | case5 =>
    rename_i ih
    simp only [Option.map_eq_some_iff, Prod.exists, Prod.mk.injEq] at h
    obtain ⟨cs', rest', h, _, rfl⟩ := h
    exact (ih h).trans (List.suffix_cons _ _)

/-- What is left of a number is what is left of its digits, or less. -/
theorem suffix_splitNumber (text : List Char) :
    (splitNumber text).2.2 <:+ text.dropWhile isDigit := by
  unfold splitNumber
  split
  · next d rest h =>
    rw [h]
    split
    · exact (List.dropWhile_suffix _).trans (List.suffix_cons _ _)
    · exact List.suffix_refl _
  · exact List.suffix_refl _

/-- A token takes at least the character it begins with. -/
theorem suffix_lexeme {lexicon : Lexicon} {operandExpected : Bool} {c : Char}
    {rest after : List Char} {kind : TokenKind}
    (h : lexeme lexicon operandExpected c rest = .ok (kind, after)) : after <:+ rest := by
  unfold lexeme at h
  split at h
  · split at h
    · next found => cases h; exact suffix_readString? found
    · cases h
  split at h
  · next digit =>
    have number := suffix_splitNumber (c :: rest)
    rw [List.dropWhile_cons_of_pos digit] at number
    cases parsed : numberKind [] (splitNumber (c :: rest)).1 (splitNumber (c :: rest)).2.1 <;>
      simp only [parsed, Except.map] at h <;> cases h
    exact number.trans (List.dropWhile_suffix _)
  split at h
  · cases parsed : numberKind ['-'] (splitNumber rest).1 (splitNumber rest).2.1 <;>
      simp only [parsed, Except.map] at h <;> cases h
    exact (suffix_splitNumber rest).trans (List.dropWhile_suffix _)
  split at h
  · cases h; exact List.drop_suffix _ _
  split at h
  · cases h; exact List.dropWhile_suffix _
  split at h
  · cases h; exact List.suffix_refl _
  · cases h

/-- The tokens of a text that stands `offset` characters into the whole text. -/
def scanFrom (lexicon : Lexicon) (offset : Nat) (operandExpected : Bool) (text : List Char) :
    Except SyntaxError (List Token) :=
  let start := offset + (text.takeWhile isBlank).length
  match _blanks : text.dropWhile isBlank with
  | [] => .ok [⟨.eof, start⟩]
  | c :: rest =>
    match _taken : lexeme lexicon operandExpected c rest with
    | .error fault => .error (fault.at start)
    | .ok (kind, after) =>
      let next := start + (rest.length + 1 - after.length)
      (scanFrom lexicon next kind.operandFollows after).map (⟨kind, start⟩ :: ·)
termination_by text.length
decreasing_by
  have blanks := (List.dropWhile_suffix isBlank (l := text)).length_le
  have taken := (suffix_lexeme _taken).length_le
  rw [_blanks, List.length_cons] at blanks
  omega

end Lexer

/-- The tokens of a text, an end marker last. -/
def Grammar.tokenize (g : Grammar) (text : String) : Except SyntaxError (List Token) :=
  Lexer.scanFrom g.lexicon 0 true text.toList

end Cohort
