import Cohort.Proofs.Grammar.Application
import Cohort.Proofs.Grammar.Conservative
import Cohort.Proofs.Parser.Grouped
import Cohort.Proofs.Token.Lexemes
import Cohort.Proofs.Token.Longest
import Mathlib

/-!
When a registered symbol can be used. What begins like a number or a string, or is a word with a
meaning of its own, is never an operator, and neither is what a longer sign takes. Another symbol
that stands between two operands is one as soon as it is registered, and none once it is removed.
-/
namespace Cohort
open Cohort.Text (Ends isBlank isDigit isNameStart isNameChar)

/-- A symbol that a text can spell where an operator may stand. Blanks, numbers and strings are
looked for before symbols, and some words have a meaning of their own. -/
structure Spellable (symbol : String) : Prop where
  front : ∀ c ∈ symbol.toList.head?, isBlank c = false ∧ isDigit c = false ∧ c ≠ '"' ∧ c ≠ '\''
  keyword : symbol ≠ "true" ∧ symbol ≠ "false" ∧ symbol ≠ "null"

namespace Lexer

section Operators
variable {g : Grammar} {symbol other : String} {after : List Char}

/-- A sign that stands where a word does goes on from it. -/
theorem length_lt_of_signAt (hword : isWord symbol = true)
    (hother : g.SignAt (symbol.toList ++ after) other) : symbol.length < other.length := by
  obtain ⟨-, hsign, hbegins⟩ := hother
  by_contra hle
  rw [not_lt, ← String.length_toList, ← String.length_toList] at hle
  have hfront : other.toList <+: symbol.toList :=
    List.prefix_of_prefix_length_le hbegins (List.prefix_append _ _) hle
  have hall : isWord other = true :=
    List.all_eq_true.mpr fun c hc => List.all_eq_true.mp hword c (hfront.subset hc)
  cases hsign.symm.trans hall

/-- Where no operand is expected a minus sign begins no number. -/
theorem beginsLiteral_false_iff {c : Char} {rest : List Char} :
    BeginsLiteral false (c :: rest) ↔ (c = '"' ∨ c = '\'') ∨ isDigit c = true := by
  simp [BeginsLiteral]

theorem spellable_of_taken (h : Taken g.lexicon false (.operator symbol) symbol.toList after)
    (hends : Ends isBlank symbol.toList) :
    Spellable symbol ∧
      ∀ other, g.SignAt (symbol.toList ++ after) other → other.length ≤ symbol.length := by
  generalize hkind : TokenKind.operator symbol = kind at h
  generalize hspelling : symbol.toList = spelling at h hends ⊢
  cases h with
  | string | mark => cases hkind
  | number => exact absurd hkind.symm numberOf_ne_operator
  | sign _ hliteral hsign =>
    cases hkind
    obtain ⟨⟨-, hword, -⟩, hlongest⟩ := longestPrefix?_signs_eq_some_iff.mp hsign
    refine ⟨⟨fun c hc => ⟨hends c hc, ?_⟩, ?_⟩, hlongest⟩
    · obtain ⟨rest, hrest⟩ := List.head?_eq_some_iff.mp hc
      rw [hrest, List.cons_append, beginsLiteral_false_iff] at hliteral
      simpa [not_or, and_comm, and_assoc] using hliteral
    · refine ⟨?_, ?_, ?_⟩ <;> (rintro rfl; cases hword)
  | @name c word _ hsigns hstart =>
    obtain ⟨hsymbol, -, hkeyword⟩ := nameKind_eq_operator_iff.mp hkind.symm
    rw [← hsymbol] at hkeyword
    have hliteral : ¬ BeginsLiteral false (c :: word) := not_beginsLiteral_of_isNameStart hstart
    rw [beginsLiteral_false_iff] at hliteral
    refine ⟨⟨fun d hd => ⟨hends d ?_, ?_⟩, hkeyword⟩, fun other hother => ?_⟩
    · rwa [hspelling] at hd
    · rw [hspelling] at hd
      cases hd
      simpa [not_or, and_comm, and_assoc] using hliteral
    · exact absurd ⟨other, hother⟩ (longestPrefix?_signs_eq_none_iff.mp hsigns)

theorem taken_of_spellable (hsymbol : g.isSymbol symbol = true) (hne : symbol ≠ "")
    (hword : isWord symbol = true →
      ∀ c ∈ symbol.toList.head?, isNameStart c = true ∨ isDigit c = true)
    (hspell : Spellable symbol) (hafter : Ends isNameChar after)
    (hlongest : ∀ other, g.SignAt (symbol.toList ++ after) other → other.length ≤ symbol.length) :
    Taken g.lexicon false (.operator symbol) symbol.toList after := by
  obtain ⟨c, word, hcons⟩ := List.exists_cons_of_ne_nil (mt String.toList_eq_nil_iff.mp hne)
  have hhead : c ∈ symbol.toList.head? := by rw [hcons]; rfl
  obtain ⟨-, hdigit, hquote⟩ := hspell.front c hhead
  cases hall : isWord symbol with
  | true =>
    have hstart := (hword hall c hhead).resolve_right (by simp [hdigit])
    have hsigns : longestPrefix? (symbol.toList ++ after) g.lexicon.signs = none := by
      refine longestPrefix?_signs_eq_none_iff.mpr fun ⟨other, hother⟩ => ?_
      exact (length_lt_of_signAt hall hother).not_ge (hlongest other hother)
    have hkind : nameKind g.lexicon (String.ofList symbol.toList) = .operator symbol := by
      rw [String.ofList_toList]
      exact nameKind_eq_operator_iff.mpr
        ⟨rfl, Grammar.mem_words.mpr ⟨hsymbol, hall⟩, hspell.keyword⟩
    have hchars := List.all_eq_true.mp hall
    rw [hcons] at hsigns hkind hchars ⊢
    rw [← hkind]
    exact .name hsigns hstart (List.forall_mem_cons.mp hchars).2 hafter
  | false =>
    refine .sign hne ?_ (longestPrefix?_signs_eq_some_iff.mpr
      ⟨⟨hsymbol, hall, List.prefix_append _ _⟩, hlongest⟩)
    rw [hcons, List.cons_append, beginsLiteral_false_iff]
    simp [hdigit, hquote]

/-- Blanks are skipped before a symbol is looked for, so none is found that begins with a blank. -/
theorem taken_iff_spellable (hsymbol : g.isSymbol symbol = true) (hne : symbol ≠ "")
    (hword : isWord symbol = true →
      ∀ c ∈ symbol.toList.head?, isNameStart c = true ∨ isDigit c = true)
    (hafter : Ends isNameChar after) :
    Ends isBlank symbol.toList ∧ Taken g.lexicon false (.operator symbol) symbol.toList after ↔
      Spellable symbol ∧
        ∀ other, g.SignAt (symbol.toList ++ after) other → other.length ≤ symbol.length := by
  constructor
  · rintro ⟨hends, htaken⟩
    exact spellable_of_taken htaken hends
  · rintro ⟨hspell, hlongest⟩
    exact ⟨fun c hc => (hspell.front c hc).1,
      taken_of_spellable hsymbol hne hword hspell hafter hlongest⟩

end Operators

end Lexer

namespace Parser

/-- An operator between two single tokens is applied to them. -/
theorem parseTokens_of_atoms {g : Grammar} {symbol : String} {precedence : Int32}
    {kind kind' : TokenKind} {left right : Expr} {o₁ o₂ o₃ o₄ : ℕ}
    (hsymbol : g.precedence? symbol = some precedence) (hleft : atom? kind = some left)
    (hright : atom? kind' = some right) :
    g.parseTokens [⟨kind, o₁⟩, ⟨.operator symbol, o₂⟩, ⟨kind', o₃⟩, ⟨.eof, o₄⟩]
      = .ok (.binary symbol left right) := by
  set tokens : List Token := [⟨kind, o₁⟩, ⟨.operator symbol, o₂⟩, ⟨kind', o₃⟩, ⟨.eof, o₄⟩]
  have hbare {kind : TokenKind} {tree : Expr} (h : atom? kind = some tree) (o : ℕ)
      (rest : List Token) : unaryAt g (⟨kind, o⟩ :: rest) = none := by
    cases kind with
    | operator => cases h
    | _ => rfl
  have hends : Ends g [⟨.eof, o₄⟩, ⟨.eof, o₄⟩] := .eof o₄ _
  have hoperand := ((Reads.atom hright).standing (hbare hright o₃ _) hends.suffix).alone
    (hends.stop (tighter precedence))
  have htail : Reads g (.binaryTail Int32.minValue left) (closed tokens).tail
      [⟨.eof, o₄⟩, ⟨.eof, o₄⟩] (.binary symbol left right) 0 :=
    .binaryStep hsymbol precedence.minValue_le hoperand (.binaryStop (hends.stop _))
  have hreads : Reads g .expression (closed tokens) [⟨.eof, o₄⟩, ⟨.eof, o₄⟩]
      (.binary symbol left right) 1 :=
    .expression (.test (.binary ((Reads.atom hleft).standing (hbare hleft o₁ _) rfl) htail) rfl)
  have hheight : (Expr.binary symbol left right).height = 2 := by
    rw [Expr.height, height_of_atom? hleft, height_of_atom? hright]
    rfl
  refine parseWithin_eq_ok.mpr ⟨_, (run_eq_ok rfl rfl).mpr
    ⟨1, _, ⟨_, hreads, rfl, rfl⟩, rfl, ?_, rfl⟩⟩
  rw [hheight]
  rfl

end Parser

namespace Grammar
variable {g : Grammar} {symbol : String}

open Lexer in
/-- Between two numbers a symbol is an operator just when it is taken as one from the text. -/
theorem tokenize_between_iff :
    g.tokenize ("1 " ++ symbol ++ " 2") = .ok [⟨.int 1, 0⟩, ⟨.operator symbol, 2⟩,
        ⟨.int 2, symbol.length + 3⟩, ⟨.eof, symbol.length + 4⟩] ↔
      Ends isBlank symbol.toList ∧
        Taken g.lexicon false (.operator symbol) symbol.toList " 2".toList := by
  have htext : ("1 " ++ symbol ++ " 2").toList = '1' :: ' ' :: (symbol.toList ++ " 2".toList) := by
    simp [String.toList_append]
  have hone : Taken g.lexicon true (.int 1) ['1'] (' ' :: (symbol.toList ++ " 2".toList)) :=
    taken_digits (Number.digits_singleton rfl) rfl (stops_blank rfl)
  have hfirst : scanFrom g.lexicon 0 true ('1' :: ' ' :: (symbol.toList ++ " 2".toList))
      = (scanFrom g.lexicon 1 false (' ' :: (symbol.toList ++ " 2".toList))).map
        (⟨.int 1, 0⟩ :: ·) :=
    hone.scanFrom_eq (List.forall_mem_nil _) (Text.ends_cons rfl)
  rw [tokenize, htext, hfirst]
  constructor
  · intro h
    obtain ⟨tokens, hrest, heq⟩ := exists_of_map_eq_ok h
    cases heq
    obtain ⟨gap, spelling, after, hsplit, hoffset, hends, htaken⟩ :=
      (scans_of_scanFrom g.empty_not_mem_signs hrest).exists_first
    obtain ⟨b, rfl⟩ := List.length_eq_one_iff.mp (Nat.add_left_cancel (n := 1) hoffset.symm)
    obtain rfl : spelling = symbol.toList := by
      cases htaken.spelledAs
      rfl
    obtain rfl : " 2".toList = after := List.append_cancel_left (List.cons.inj hsplit).2
    exact ⟨hends, htaken⟩
  · rintro ⟨hends, htaken⟩
    have htwo : Taken g.lexicon true (.int 2) ['2'] [] :=
      taken_digits (Number.digits_singleton rfl) rfl stops_nil
    have hscans : Scans g.lexicon 1 false (' ' :: (symbol.toList ++ " 2".toList)) _ :=
      .spaced hends htaken <| .spaced (Text.ends_cons rfl) htwo <| .eof (List.forall_mem_nil _)
    have hplace : 1 + 1 + symbol.toList.length + 1 = symbol.length + 3 := by
      rw [String.length_toList]
      omega
    rw [hplace] at hscans
    rw [hscans.scanFrom_eq_ok]
    rfl

section Registered
variable {other text : String} {precedence : Int32} {apply : Value → Value → Outcome}

theorem isSymbol_addBinary :
    (g.addBinary symbol precedence apply).isSymbol other = true ↔
      other = symbol ∨ g.isSymbol other = true := by
  by_cases heq : other = symbol <;>
    simp [isSymbol, addBinary, Table.contains, Table.get?_insert, heq]

/-- Registering a symbol adds no sign that is longer than it. -/
theorem signAt_addBinary_length_iff {after : List Char} :
    (∀ other, (g.addBinary symbol precedence apply).SignAt after other →
        other.length ≤ symbol.length) ↔
      ∀ other, g.SignAt after other → other.length ≤ symbol.length := by
  constructor
  · rintro h other ⟨hother, hsign⟩
    exact h other ⟨isSymbol_addBinary.mpr (.inr hother), hsign⟩
  · rintro h other ⟨hother, hsign⟩
    obtain rfl | hother := isSymbol_addBinary.mp hother
    · exact le_rfl
    · exact h other ⟨hother, hsign⟩

theorem isSymbol_removeOp : (g.removeOp symbol).isSymbol symbol = false := by
  simp [isSymbol, removeOp, Table.contains, Table.get?_erase]

/-- A symbol can be used as soon as it is registered, with any precedence, just when it can be
spelled and no sign goes on from it: between two numbers it is then an operator, the tree is that of
its application, and the value is what it makes of the numbers. Of the words this is about those
that begin as a name or a number does. Once a symbol is removed no text has it as an operator. -/
theorem usable_iff_spellable (g : Grammar) (symbol : String) :
    (symbol ≠ "" →
      (isWord symbol = true → ∀ c ∈ symbol.toList.head?, isNameStart c = true ∨ isDigit c = true) →
      ∀ precedence apply,
        let g' := g.addBinary symbol precedence apply
        let text := "1 " ++ symbol ++ " 2"
        (g'.tokenize text = .ok [⟨.int 1, 0⟩, ⟨.operator symbol, 2⟩,
            ⟨.int 2, symbol.length + 3⟩, ⟨.eof, symbol.length + 4⟩] ∧
          g'.parse text = .ok (.binary symbol (.literal (.int 1)) (.literal (.int 2))) ∧
          ∀ context,
            g'.evaluate text context = (apply (.int 1) (.int 2)).mapError EvalError.toError) ↔
        Spellable symbol ∧ ∀ other,
          g.SignAt (symbol.toList ++ " 2".toList) other → other.length ≤ symbol.length) ∧
    ∀ text tokens, (g.removeOp symbol).tokenize text = .ok tokens →
      ∀ token ∈ tokens, token.kind ≠ .operator symbol := by
  constructor
  · intro hne hword precedence apply g' text
    have hsymbol : g'.isSymbol symbol = true := isSymbol_addBinary.mpr (.inl rfl)
    have htokens := (tokenize_between_iff (g := g')).trans
      (Lexer.taken_iff_spellable hsymbol hne hword (Text.ends_cons rfl))
    rw [signAt_addBinary_length_iff] at htokens
    refine ⟨fun h => htokens.mp h.1, fun h => ?_⟩
    have hget : g'.binary.get? symbol = some ⟨precedence, .eager apply⟩ :=
      (Table.get?_insert ..).trans (if_pos rfl)
    have hparse : g'.parse text = .ok (.binary symbol (.literal (.int 1)) (.literal (.int 2))) :=
      (parse_of_ok (htokens.mpr h)).trans
        (Parser.parseTokens_of_atoms (congrArg (Option.map _) hget) rfl rfl)
    refine ⟨htokens.mpr h, hparse, fun context => ?_⟩
    have hliteral (value : Value) : Expr.eval g' ⟨context, none⟩ (.literal value) = .ok value := by
      rw [Expr.eval]
    have heval := eval_binary hget (hliteral (.int 1)) (hliteral (.int 2))
    rw [evaluate, hparse]
    exact congrArg (Except.mapError EvalError.toError) heval
  · intro text tokens htokens token hmem hkind
    cases isSymbol_removeOp.symm.trans (isSymbol_of_tokenize htokens token hmem symbol hkind)

end Registered

def pairUp (left right : Value) : Outcome := .ok (.array [left, right])

open Lexer in
/-- An arrow takes more than the sign `<=` that it begins with. Without it the text has two signs
where the arrow was. -/
theorem usable_iff_spellable_arrow :
    let g := standard.addBinary "<=>" 20 pairUp
    let text := "1 " ++ "<=>" ++ " 2"
    let tokens : List Token :=
      [⟨.int 1, 0⟩, ⟨.operator "<=", 2⟩, ⟨.operator ">", 4⟩, ⟨.int 2, 6⟩, ⟨.eof, 7⟩]
    "<=>" ≠ "" ∧ isWord "<=>" = false ∧ Spellable "<=>" ∧
      (∀ other, standard.SignAt "<=> 2".toList other → other.length ≤ "<=>".length) ∧
      g.tokenize text = .ok [⟨.int 1, 0⟩, ⟨.operator "<=>", 2⟩, ⟨.int 2, 6⟩, ⟨.eof, 7⟩] ∧
      g.parse text = .ok (.binary "<=>" (.literal (.int 1)) (.literal (.int 2))) ∧
      g.evaluate text .null = .ok (.array [.int 1, .int 2]) ∧
      (g.removeOp "<=>").tokenize text = .ok tokens ∧
      ∀ token ∈ tokens, token.kind ≠ .operator "<=>" := by
  intro g text tokens
  have hspell : Spellable "<=>" := ⟨fun c hc => by cases hc; decide, by decide⟩
  have hshort : longestPrefix? "<=> 2".toList standard.lexicon.signs = some "<=" := by
    decide +kernel
  have hlongest (other) (h : standard.SignAt "<=> 2".toList other) : other.length ≤ 3 :=
    ((longestPrefix?_signs_eq_some_iff.mp hshort).2 other h).trans (by decide)
  have hused := ((usable_iff_spellable standard "<=>").1 (by decide) (by decide) 20 pairUp).mpr
    ⟨hspell, hlongest⟩
  obtain ⟨htokens, hparse, hvalue⟩ := hused
  have hone : Taken (g.removeOp "<=>").lexicon true (.int 1) ['1'] " <=> 2".toList :=
    taken_digits (Number.digits_singleton rfl) rfl (stops_blank rfl)
  have hless : Taken (g.removeOp "<=>").lexicon false (.operator "<=") ['<', '='] "> 2".toList :=
    @Taken.sign _ _ "<=" _ (by decide) (by simp [BeginsLiteral, isDigit]) (by decide +kernel)
  have hgreater : Taken (g.removeOp "<=>").lexicon true (.operator ">") ['>'] " 2".toList :=
    @Taken.sign _ _ ">" _ (by decide) (by simp [BeginsLiteral, isDigit]) (by decide +kernel)
  have htwo : Taken (g.removeOp "<=>").lexicon true (.int 2) ['2'] [] :=
    taken_digits (Number.digits_singleton rfl) rfl stops_nil
  have hscans : Scans (g.removeOp "<=>").lexicon 0 true "1 <=> 2".toList tokens :=
    .unspaced (Text.ends_cons rfl) hone <| .spaced (Text.ends_cons rfl) hless <|
      .unspaced (Text.ends_cons rfl) hgreater <| .spaced (Text.ends_cons rfl) htwo <|
        .eof (List.forall_mem_nil _)
  have hremoved : (g.removeOp "<=>").tokenize text = .ok tokens := hscans.scanFrom_eq_ok
  exact ⟨by decide, rfl, hspell, hlongest, htokens, hparse, hvalue .null, hremoved,
    (usable_iff_spellable g "<=>").2 text tokens hremoved⟩

open Lexer in
/-- The word `true` stands for a value, whatever is registered under it. -/
theorem not_usable_keyword :
    let g := standard.addBinary "true" 20 pairUp
    let text := "1 " ++ "true" ++ " 2"
    "true" ≠ "" ∧ g.isSymbol "true" = true ∧
      g.tokenize text = .ok [⟨.int 1, 0⟩, ⟨.bool true, 2⟩, ⟨.int 2, 7⟩, ⟨.eof, 8⟩] ∧
      g.tokenize text ≠ .ok [⟨.int 1, 0⟩, ⟨.operator "true", 2⟩, ⟨.int 2, 7⟩, ⟨.eof, 8⟩] := by
  intro g text
  have hone : Taken g.lexicon true (.int 1) ['1'] " true 2".toList :=
    taken_digits (Number.digits_singleton rfl) rfl (stops_blank rfl)
  have htrue : Taken g.lexicon false (.bool true) ['t', 'r', 'u', 'e'] " 2".toList :=
    @Taken.name _ _ 't' ['r', 'u', 'e'] _ (by decide +kernel) rfl
      (fun _ hd => Text.isNameChar_of_isLower (List.all_eq_true.mp rfl _ hd)) (Text.ends_cons rfl)
  have htwo : Taken g.lexicon false (.int 2) ['2'] [] :=
    taken_digits (Number.digits_singleton rfl) rfl stops_nil
  have hscans : Scans g.lexicon 0 true "1 true 2".toList _ :=
    .unspaced (Text.ends_cons rfl) hone <| .spaced (Text.ends_cons rfl) htrue <|
      .spaced (Text.ends_cons rfl) htwo <| .eof (List.forall_mem_nil _)
  have htokens : g.tokenize text = .ok [⟨.int 1, 0⟩, ⟨.bool true, 2⟩, ⟨.int 2, 7⟩, ⟨.eof, 8⟩] :=
    hscans.scanFrom_eq_ok
  refine ⟨by decide, by decide, htokens, fun h => ?_⟩
  cases htokens.symm.trans h

end Grammar

end Cohort
