import Cohort.Token.Lexer
import Mathlib

/-!
Which symbols matter to a text. The longest of the signs that a text begins with is determined by
the set of signs, and a word is looked up as a whole, so two lexicons cut a text into the same
tokens when they agree on the symbols that occur in it. Every name that a token carries occurs in
the text.
-/
namespace Cohort

theorem mem_place {name other : String} {names : List String} :
    other ∈ increasing.place name names ↔ other = name ∨ other ∈ names := by
  induction names with
  | nil => simp [increasing.place]
  | cons head names ih =>
    rw [increasing.place]
    split_ifs with hless hsame
    · simp
    · simp [hsame]
    · simp [ih, or_left_comm]

theorem mem_increasing {name : String} {names : List String} :
    name ∈ increasing names ↔ name ∈ names := by
  induction names with
  | nil => rfl
  | cons head names ih =>
    rw [increasing, List.foldr_cons, mem_place, List.mem_cons]
    exact or_congr_right ih

theorem Table.mem_names {α : Type} {name : String} {table : Table α} :
    name ∈ table.names ↔ table.contains name = true := by
  induction table with
  | nil => simp [Table.names, Table.contains, Table.get?]
  | cons entry table ih =>
    simp only [Table.names, Table.contains, Table.get?, List.map_cons, List.mem_cons] at ih ⊢
    split_ifs with h <;> simp [h, ih]

theorem Grammar.mem_symbols {g : Grammar} {symbol : String} :
    symbol ∈ g.symbols ↔ g.isSymbol symbol = true := by
  rw [Grammar.symbols, mem_increasing, List.mem_append, Table.mem_names, Table.mem_names,
    Grammar.isSymbol, Bool.or_eq_true]

/-- Two lexicons have the same symbols among those that occur in a text. -/
structure Lexicon.Agree (lexicon lexicon' : Lexicon) (text : List Char) : Prop where
  signs : ∀ symbol : String, symbol.toList <:+: text →
    (symbol ∈ lexicon.signs ↔ symbol ∈ lexicon'.signs)
  words : ∀ symbol : String, symbol.toList <:+: text →
    (symbol ∈ lexicon.words ↔ symbol ∈ lexicon'.words)

theorem Lexicon.Agree.mono {lexicon lexicon' : Lexicon} {text part : List Char}
    (h : lexicon.Agree lexicon' text) (hpart : part <:+: text) : lexicon.Agree lexicon' part :=
  ⟨fun symbol hin => h.signs symbol (hin.trans hpart),
    fun symbol hin => h.words symbol (hin.trans hpart)⟩

theorem Grammar.agree_lexicon {g g' : Grammar} {text : List Char}
    (h : ∀ symbol : String, symbol.toList <:+: text → g.isSymbol symbol = g'.isSymbol symbol) :
    g.lexicon.Agree g'.lexicon text := by
  constructor <;> intro symbol hin <;>
    simp only [Grammar.lexicon, List.mem_filter, Grammar.mem_symbols, h symbol hin]

def TokenKind.SpelledIn (text : List Char) : TokenKind → Prop
  | .operator name | .identifier name => name.toList <:+: text
  | _ => True

theorem TokenKind.SpelledIn.mono {text part : List Char} {kind : TokenKind}
    (h : kind.SpelledIn part) (hpart : part <:+: text) : kind.SpelledIn text := by
  cases kind with
  | operator | identifier => exact List.IsInfix.trans h hpart
  | _ => trivial

namespace Lexer
open Cohort.Text (isBlank isDigit isNameChar)

section Signs
variable {text : List Char} {signs signs' : List String} {sign : String}

theorem longestPrefix?_spec (text : List Char) (signs : List String) :
    match longestPrefix? text signs with
    | none => ∀ sign ∈ signs, ¬ sign.toList <+: text
    | some sign => sign ∈ signs ∧ sign.toList <+: text ∧
      ∀ other ∈ signs, other.toList <+: text → other.length ≤ sign.length := by
  induction signs with
  | nil => exact List.forall_mem_nil _
  | cons sign signs ih =>
    rw [longestPrefix?]
    cases hother : longestPrefix? text signs with
    | none =>
      rw [hother] at ih
      split_ifs with hsign
      · refine ⟨List.mem_cons_self, List.isPrefixOf_iff_prefix.mp hsign, ?_⟩
        exact List.forall_mem_cons.mpr ⟨fun _ => le_rfl, fun x hx hin => absurd hin (ih x hx)⟩
      · exact List.forall_mem_cons.mpr ⟨mt List.isPrefixOf_iff_prefix.mpr hsign, ih⟩
    | some longer =>
      rw [hother] at ih
      obtain ⟨hmem, hin, hlongest⟩ := ih
      dsimp only
      split_ifs with hsign hlonger
      · refine ⟨List.mem_cons_of_mem _ hmem, hin, ?_⟩
        exact List.forall_mem_cons.mpr ⟨fun _ => hlonger.le, hlongest⟩
      · refine ⟨List.mem_cons_self, List.isPrefixOf_iff_prefix.mp hsign, ?_⟩
        exact List.forall_mem_cons.mpr
          ⟨fun _ => le_rfl, fun x hx h => (hlongest x hx h).trans (not_lt.mp hlonger)⟩
      · refine ⟨List.mem_cons_of_mem _ hmem, hin, ?_⟩
        exact List.forall_mem_cons.mpr
          ⟨fun h => absurd (List.isPrefixOf_iff_prefix.mpr h) hsign, hlongest⟩

theorem longestPrefix?_eq_none_iff :
    longestPrefix? text signs = none ↔ ∀ sign ∈ signs, ¬ sign.toList <+: text := by
  have hspec := longestPrefix?_spec text signs
  constructor
  · intro h
    rwa [h] at hspec
  · intro h
    cases hfound : longestPrefix? text signs with
    | none => rfl
    | some found =>
      rw [hfound] at hspec
      exact absurd hspec.2.1 (h found hspec.1)

theorem longestPrefix?_eq_some_iff :
    longestPrefix? text signs = some sign ↔ sign ∈ signs ∧ sign.toList <+: text ∧
      ∀ other ∈ signs, other.toList <+: text → other.length ≤ sign.length := by
  have hspec := longestPrefix?_spec text signs
  constructor
  · intro h
    rwa [h] at hspec
  · rintro ⟨hmem, hin, hlongest⟩
    cases hfound : longestPrefix? text signs with
    | none =>
      rw [hfound] at hspec
      exact absurd hin (hspec sign hmem)
    | some found =>
      rw [hfound] at hspec
      obtain ⟨hmem', hin', hlongest'⟩ := hspec
      have hlength : found.toList.length = sign.toList.length := by
        rw [String.length_toList, String.length_toList]
        exact le_antisymm (hlongest found hmem' hin') (hlongest' sign hmem hin)
      have hsame := (List.prefix_of_prefix_length_le hin' hin hlength.le).eq_of_length hlength
      rw [String.toList_inj.mp hsame]

theorem longestPrefix?_congr
    (h : ∀ sign : String, sign.toList <+: text → (sign ∈ signs ↔ sign ∈ signs')) :
    longestPrefix? text signs = longestPrefix? text signs' := by
  ext sign
  rw [longestPrefix?_eq_some_iff, longestPrefix?_eq_some_iff]
  constructor <;> rintro ⟨hmem, hin, hlongest⟩
  · exact ⟨(h sign hin).mp hmem, hin, fun x hx hx' => hlongest x ((h x hx').mpr hx) hx'⟩
  · exact ⟨(h sign hin).mpr hmem, hin, fun x hx hx' => hlongest x ((h x hx').mp hx) hx'⟩

end Signs

section Tokens
variable {lexicon lexicon' : Lexicon} {expected : Bool} {c : Char} {text rest after : List Char}
  {kind : TokenKind} {tokens : List Token}

theorem prefix_name (c : Char) (rest : List Char) :
    (String.ofList (c :: rest.takeWhile isNameChar)).toList <+: c :: rest := by
  rw [String.toList_ofList]
  exact List.cons_prefix_cons.mpr ⟨rfl, List.takeWhile_prefix _⟩

theorem nameKind_congr (h : lexicon.Agree lexicon' text) {name : String}
    (hin : name.toList <:+: text) : nameKind lexicon name = nameKind lexicon' name := by
  have hwords : lexicon.words.contains name = lexicon'.words.contains name := by
    rw [Bool.eq_iff_iff, List.contains_iff_mem, List.contains_iff_mem, h.words name hin]
  rw [nameKind, nameKind, hwords]

theorem lexeme_congr (h : lexicon.Agree lexicon' (c :: rest)) :
    lexeme lexicon expected c rest = lexeme lexicon' expected c rest := by
  have hsigns : longestPrefix? (c :: rest) lexicon.signs
      = longestPrefix? (c :: rest) lexicon'.signs :=
    longestPrefix?_congr fun sign hsign => h.signs sign hsign.isInfix
  rw [lexeme, lexeme, hsigns, nameKind_congr h (prefix_name c rest).isInfix]

theorem spelledIn_nameKind {name : String} (hin : name.toList <:+: text) :
    (nameKind lexicon name).SpelledIn text := by
  unfold nameKind
  split_ifs <;> trivial

theorem spelledIn_numberKind {sign whole : List Char} {fraction : Option (List Char)}
    (h : numberKind sign whole fraction = .ok kind) : kind.SpelledIn text := by
  unfold numberKind at h
  dsimp only at h
  generalize Number.readFloat? _ = float, Number.readInt64? _ = int at h
  split at h
  · cases h
    trivial
  · cases float <;> cases h
    trivial

theorem spelledIn_lexeme (h : lexeme lexicon expected c rest = .ok (kind, after)) :
    kind.SpelledIn (c :: rest) := by
  unfold lexeme at h
  split at h
  · split at h <;> cases h
    trivial
  split at h
  · cases hnumber : numberKind [] (splitNumber (c :: rest)).1 (splitNumber (c :: rest)).2.1 <;>
      simp only [hnumber, Except.map] at h <;> cases h
    exact spelledIn_numberKind hnumber
  split at h
  · cases hnumber : numberKind ['-'] (splitNumber rest).1 (splitNumber rest).2.1 <;>
      simp only [hnumber, Except.map] at h <;> cases h
    exact spelledIn_numberKind hnumber
  split at h
  · next sign hsign =>
    cases h
    exact (longestPrefix?_eq_some_iff.mp hsign).2.1.isInfix
  split at h
  · cases h
    exact spelledIn_nameKind (prefix_name c rest).isInfix
  split at h <;> cases h
  trivial

/-- What a text is cut into, without the proofs that this ends. -/
theorem scanFrom_eq (lexicon : Lexicon) (offset : ℕ) (expected : Bool) (text : List Char) :
    scanFrom lexicon offset expected text =
      let start := offset + (text.takeWhile isBlank).length
      match text.dropWhile isBlank with
      | [] => .ok [⟨.eof, start⟩]
      | c :: rest =>
        match lexeme lexicon expected c rest with
        | .error fault => .error (fault.at start)
        | .ok (kind, after) =>
          let next := start + (rest.length + 1 - after.length)
          (scanFrom lexicon next kind.operandFollows after).map (⟨kind, start⟩ :: ·) := by
  rw [scanFrom]
  split
  next hblanks => simp only [hblanks]
  next hblanks =>
    simp only [hblanks]
    split <;> next htaken => simp only [htaken]

/-- Lexicons that agree on the symbols occurring in a text cut it into the same tokens. -/
theorem scanFrom_congr (h : lexicon.Agree lexicon' text) (offset : ℕ) (expected : Bool) :
    scanFrom lexicon offset expected text = scanFrom lexicon' offset expected text := by
  fun_induction scanFrom lexicon offset expected text with
  | case1 offset expected text start hblanks =>
    rw [scanFrom_eq, hblanks]
  | case2 offset expected text start c rest hblanks fault htaken =>
    have hagree := h.mono (hblanks ▸ List.dropWhile_suffix isBlank).isInfix
    rw [scanFrom_eq, hblanks]
    simp only [← lexeme_congr hagree, htaken, start]
  | case3 offset expected text start c rest hblanks kind after htaken next ih =>
    have hagree := h.mono (hblanks ▸ List.dropWhile_suffix isBlank).isInfix
    rw [scanFrom_eq lexicon', hblanks]
    simp only [← lexeme_congr hagree, htaken, start]
    rw [ih (hagree.mono ((suffix_lexeme htaken).trans (List.suffix_cons _ _)).isInfix)]

theorem exists_of_map_eq_ok {ε α β : Type} {x : Except ε α} {f : α → β} {b : β}
    (h : x.map f = .ok b) : ∃ a, x = .ok a ∧ f a = b := by
  cases x with
  | error => cases h
  | ok a => exact ⟨a, rfl, Except.ok.inj h⟩

theorem spelledIn_scanFrom {offset : ℕ} (h : scanFrom lexicon offset expected text = .ok tokens) :
    ∀ token ∈ tokens, token.kind.SpelledIn text := by
  fun_induction scanFrom lexicon offset expected text generalizing tokens with
  | case1 =>
    cases h
    exact List.forall_mem_singleton.mpr trivial
  | case2 => cases h
  | case3 offset expected text start c rest hblanks kind after htaken next =>
    rename_i ih
    have hpart := (hblanks ▸ List.dropWhile_suffix isBlank : c :: rest <:+ text).isInfix
    have hafter := ((suffix_lexeme htaken).trans (List.suffix_cons c rest)).isInfix.trans hpart
    obtain ⟨others, hscan, rfl⟩ := exists_of_map_eq_ok h
    refine List.forall_mem_cons.mpr ⟨(spelledIn_lexeme htaken).mono hpart, fun token hmem => ?_⟩
    exact (ih hscan token hmem).mono hafter

end Tokens

end Lexer

end Cohort
