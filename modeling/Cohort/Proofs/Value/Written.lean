import Cohort.Grammar.Standard
import Cohort.Proofs.Expr.Literals
import Cohort.Proofs.Token.Lexemes
import Cohort.Proofs.Value.Plain
import Mathlib

/-!
Values written out. A value without doubles and dates can be written as an expression, with either
quote around its strings and with blanks between the tokens, and the expression evaluates to the
value whatever the context is.
-/
namespace Cohort
open Cohort.Text (isBlank isBlank_of_isNameChar isNameChar_of_isDigit isNameChar_of_isLower)
open Cohort.Lexer
open Cohort.Parser (Spelling)

namespace Value

/-- What is written: a text between quotes, a value, the items of an array, a key with its value, or
the entries of an object. -/
inductive Part where
  | quoted (text : String)
  | value (value : Value)
  | items (items : List Value)
  | entry (key : String) (value : Value)
  | entries (entries : List (String × Value))

/-- A text is one of the ways to write a part of a value. Strings and keys stand in quotes of either
kind, entries in any order, a comma may follow the last item or entry, and blanks may stand before
and after every part. -/
inductive Written : Part → List Char → Prop where
  | quoted {quote s} (hquote : quote = '"' ∨ quote = '\'') :
    Written (.quoted s) (quote :: (escaped quote s.toList ++ [quote]))
  | null : Written (.value Value.null) ['n', 'u', 'l', 'l']
  | true : Written (.value (.bool Bool.true)) ['t', 'r', 'u', 'e']
  | false : Written (.value (.bool Bool.false)) ['f', 'a', 'l', 's', 'e']
  | int {n} : Written (.value (.int n)) (toString n.toInt).toList
  | string {s text} (h : Written (.quoted s) text) : Written (.value (.string s)) text
  | array {items text} (h : Written (.items items) text) :
    Written (.value (.array items)) ('[' :: (text ++ [']']))
  | object {fields entries text} (h : Written (.entries entries) text)
    (all : entries.Perm (Fields.toList fields)) :
    Written (.value (.object fields)) ('\x7b' :: (text ++ ['\x7d']))
  | noItems : Written (.items []) []
  | lastItem {item text} (h : Written (.value item) text) : Written (.items [item]) text
  | item {item items text text'} (h : Written (.value item) text)
    (h' : Written (.items items) text') : Written (.items (item :: items)) (text ++ ',' :: text')
  | entry {key value text text'} (h : Written (.quoted key) text)
    (h' : Written (.value value) text') : Written (.entry key value) (text ++ ':' :: text')
  | noEntries : Written (.entries []) []
  | lastEntry {key value text} (h : Written (.entry key value) text) :
    Written (.entries [(key, value)]) text
  | moreEntries {key value entries text text'} (h : Written (.entry key value) text)
    (h' : Written (.entries entries) text') :
    Written (.entries ((key, value) :: entries)) (text ++ ',' :: text')
  | before {part c text} (hblank : isBlank c = Bool.true) (h : Written part text) :
    Written part (c :: text)
  | after {part c text} (hblank : isBlank c = Bool.true) (h : Written part text) :
    Written part (text ++ [c])

def firsts : List Char := ['[', ']', '\x7b', '\x7d', ',', ':', 'n', 't', 'f']

theorem head?_names_standard :
    ∀ name ∈ Grammar.standard.binary.names ++ Grammar.standard.unary.names,
      name.toList.head?.any (fun c => decide (c ∉ firsts)) = Bool.true := by
  decide +kernel

/-- No operator of the standard grammar begins like a mark or a word of a written value. -/
theorem spares_standard {c : Char} (h : c ∈ firsts) : Grammar.standard.lexicon.Spares c := by
  intro sign hmem rest hfront
  have hsymbol := Grammar.mem_symbols.mp (List.mem_of_mem_filter hmem)
  rw [Grammar.isSymbol, Bool.or_eq_true, ← Table.mem_names, ← Table.mem_names,
    ← List.mem_append] at hsymbol
  have hhead := head?_names_standard sign hsymbol
  cases hsign : sign.toList with
  | nil => simp [hsign] at hhead
  | cons d others =>
    rw [hsign, List.cons_prefix_cons] at hfront
    obtain ⟨rfl, -⟩ := hfront
    simp [hsign, h] at hhead

/-- Wherever a text stands and whatever comes after it, it is cut into tokens of some kind, if
nothing that comes after it belongs to its last token. -/
def CutAs (text : List Char) (spelled : List Token → Prop) : Prop :=
  ∀ o rest, Stops rest → ∃ tokens p', spelled tokens ∧
    Cuts Grammar.standard.lexicon (o, Bool.true) text tokens p' rest

namespace CutAs
variable {text text' : List Char} {spelled spelled' : List Token → Prop} {c : Char}

theorem imp (h : CutAs text spelled) (himp : ∀ tokens, spelled tokens → spelled' tokens) :
    CutAs text spelled' := by
  intro o rest hrest
  obtain ⟨tokens, p', hspelled, hcuts⟩ := h o rest hrest
  exact ⟨tokens, p', himp tokens hspelled, hcuts⟩

theorem nil (h : spelled []) : CutAs [] spelled := by
  intro o rest hrest
  obtain ⟨o', hcuts⟩ := cuts_blanks (List.forall_mem_nil _) (o, Bool.true) rest
  exact ⟨[], _, h, hcuts⟩

theorem before (hblank : isBlank c = Bool.true) (h : CutAs text spelled) :
    CutAs (c :: text) spelled := by
  intro o rest hrest
  obtain ⟨tokens, p', hspelled, hcuts⟩ := h (o + 1) rest hrest
  exact ⟨tokens, p', hspelled, (scanFrom_blank hblank o _).trans hcuts⟩

theorem after (hblank : isBlank c = Bool.true) (h : CutAs text spelled) :
    CutAs (text ++ [c]) spelled := by
  intro o rest hrest
  obtain ⟨tokens, p', hspelled, hcuts⟩ := h o (c :: rest) (stops_blank hblank)
  obtain ⟨o', hblanks⟩ := cuts_blanks (List.forall_mem_singleton.mpr hblank) p' rest
  refine ⟨tokens, (o', p'.2), hspelled, ?_⟩
  simpa using Cuts.append hcuts hblanks

theorem lexeme {kind : TokenKind} (hblank : isBlank c = Bool.false)
    (h : ∀ rest, Stops rest →
      Lexer.lexeme Grammar.standard.lexicon Bool.true c (text ++ rest) = .ok (kind, rest)) :
    CutAs (c :: text) fun tokens => ∃ o, tokens = [⟨kind, o⟩] := by
  intro o rest hrest
  obtain ⟨o', hcuts⟩ := cuts_lexeme hblank (h rest hrest) o
  exact ⟨_, _, ⟨o, rfl⟩, hcuts⟩

theorem between (first last : Mark) (hfirst : first.char ∈ firsts) (hlast : last.char ∈ firsts)
    (hoperand : (TokenKind.mark first).operandFollows = Bool.true) (hdot : last ≠ .dot)
    (h : CutAs text spelled) :
    CutAs (first.char :: (text ++ [last.char])) fun tokens =>
      ∃ o o' s, spelled s ∧ tokens = ⟨.mark first, o⟩ :: (s ++ [⟨.mark last, o'⟩]) := by
  intro o rest hrest
  obtain ⟨o', hopen⟩ :=
    cuts_mark (spares_standard hfirst) (o, Bool.true) (text ++ last.char :: rest)
  rw [hoperand] at hopen
  obtain ⟨tokens, p', hspelled, hcuts⟩ := h o' (last.char :: rest) (stops_mark hdot)
  obtain ⟨o'', hclose⟩ := cuts_mark (spares_standard hlast) p' rest
  have hopen : Cuts Grammar.standard.lexicon (o, Bool.true) [first.char] [⟨.mark first, o⟩]
      (o', Bool.true) ((text ++ [last.char]) ++ rest) := by simpa using hopen
  exact ⟨_, (o'', _), ⟨o, p'.1, tokens, hspelled, rfl⟩, hopen.append (hcuts.append hclose)⟩

theorem joined (mark : Mark) (hmark : mark.char ∈ firsts)
    (hoperand : (TokenKind.mark mark).operandFollows = Bool.true) (hdot : mark ≠ .dot)
    (h : CutAs text spelled) (h' : CutAs text' spelled') :
    CutAs (text ++ mark.char :: text') fun tokens =>
      ∃ o s s', spelled s ∧ spelled' s' ∧ tokens = s ++ ⟨.mark mark, o⟩ :: s' := by
  intro o rest hrest
  obtain ⟨tokens, p, hspelled, hcuts⟩ := h o (mark.char :: (text' ++ rest)) (stops_mark hdot)
  obtain ⟨o', hcut⟩ := cuts_mark (spares_standard hmark) p (text' ++ rest)
  rw [hoperand] at hcut
  obtain ⟨tokens', p', hspelled', hcuts'⟩ := h' o' rest hrest
  exact ⟨_, p', ⟨p.1, tokens, tokens', hspelled, hspelled', rfl⟩, hcuts.append (hcut.append hcuts')⟩

end CutAs

def Part.CutAs (text : List Char) : Part → Prop
  | .quoted s => Value.CutAs text fun tokens => ∃ o, tokens = [⟨.string s, o⟩]
  | .value v => ∃ tree : Expr, tree.StandsFor v ∧ Value.CutAs text (Spelling .full (.tree tree))
  | .items vs =>
    ∃ trees, List.Forall₂ Expr.StandsFor trees vs ∧
      Value.CutAs text (Spelling .full (.items trees))
  | .entry key v =>
    ∃ tree : Expr, tree.StandsFor v ∧ Value.CutAs text fun tokens =>
      ∃ o o' s, Spelling .full (.tree tree) s ∧
        tokens = ⟨.string key, o⟩ :: ⟨.mark .colon, o'⟩ :: s
  | .entries vs =>
    ∃ trees, Expr.StandsFor.Entries trees vs ∧ Value.CutAs text (Spelling .full (.entries trees))

theorem Part.CutAs.imp {part : Part} {text text' : List Char}
    (himp : ∀ spelled, Value.CutAs text spelled → Value.CutAs text' spelled)
    (h : part.CutAs text) : part.CutAs text' := by
  cases part with
  | quoted s => exact himp _ h
  | _ =>
    obtain ⟨trees, hstands, hcut⟩ := h
    exact ⟨trees, hstands, himp _ hcut⟩

theorem cutAs_scalar {s : Scalar} {kind : TokenKind} {text : List Char}
    (htoken : s.token? = some kind)
    (h : Value.CutAs text fun tokens => ∃ o, tokens = [⟨kind, o⟩]) :
    (Part.value (.scalar s)).CutAs text := by
  have hkind : s.kind ≠ .date := by
    intro hdate
    cases s <;> cases hdate
    cases htoken
  refine ⟨_, .scalar hkind, h.imp fun tokens htokens => ?_⟩
  obtain ⟨o, rfl⟩ := htokens
  exact .literal htoken

theorem cutAs_word {c : Char} {word : List Char} {s : Scalar} {kind : TokenKind}
    (hc : c ∈ firsts) (hword : (c :: word).all Char.isLower = Bool.true)
    (htoken : s.token? = some kind)
    (hkind : Lexer.nameKind Grammar.standard.lexicon (String.ofList (c :: word)) = kind) :
    (Part.value (.scalar s)).CutAs (c :: word) := by
  have hblank : isBlank c = Bool.false :=
    isBlank_of_isNameChar (isNameChar_of_isLower (List.all_eq_true.mp hword c List.mem_cons_self))
  refine cutAs_scalar htoken (.lexeme hblank fun rest hrest => ?_)
  rw [lexeme_word hword (spares_standard hc) hrest, hkind]

/-- What is written for a part is read as it. -/
theorem Written.cutAs {part : Part} {text : List Char} (h : Written part text) :
    part.CutAs text := by
  induction h with
  | @quoted quote s hquote =>
    have hblank : isBlank quote = Bool.false := by obtain rfl | rfl := hquote <;> rfl
    refine .lexeme hblank fun rest _ => ?_
    rw [List.append_assoc, List.singleton_append, lexeme_string hquote, String.ofList_toList]
  | null => exact cutAs_word (by decide) rfl rfl rfl
  | true => exact cutAs_word (by decide) rfl rfl rfl
  | false => exact cutAs_word (by decide) rfl rfl rfl
  | @int n =>
    obtain ⟨c, text, htext, hc⟩ := Number.exists_toList_toString_eq_cons n.toInt
    have hblank : isBlank c = Bool.false := by
      obtain rfl | hc := hc
      · rfl
      · exact isBlank_of_isNameChar (isNameChar_of_isDigit hc)
    rw [htext]
    refine cutAs_scalar rfl (.lexeme hblank fun rest hrest => ?_)
    obtain ⟨c', text', htext', hlexeme⟩ := lexeme_int n hrest
    obtain ⟨rfl, rfl⟩ := List.cons.inj (htext.symm.trans htext')
    exact hlexeme
  | string _ ih => exact cutAs_scalar rfl ih
  | array _ ih =>
    obtain ⟨trees, hstands, hcut⟩ := ih
    have hbetween :=
      hcut.between .leftBracket .rightBracket (by decide) (by decide) rfl (by decide)
    refine ⟨_, .array hstands, hbetween.imp ?_⟩
    rintro tokens ⟨o, o', s, hs, rfl⟩
    exact .array hs
  | object _ all ih =>
    obtain ⟨trees, hstands, hcut⟩ := ih
    have hbetween := hcut.between .leftBrace .rightBrace (by decide) (by decide) rfl (by decide)
    refine ⟨_, .object hstands all, hbetween.imp ?_⟩
    rintro tokens ⟨o, o', s, hs, rfl⟩
    exact .object hs
  | noItems => exact ⟨[], .nil, .nil .noItems⟩
  | lastItem _ ih =>
    obtain ⟨tree, hstands, hcut⟩ := ih
    exact ⟨[tree], .cons hstands .nil, hcut.imp fun tokens => .lastItem⟩
  | item _ _ ih ih' =>
    obtain ⟨tree, hstands, hcut⟩ := ih
    obtain ⟨trees, hstands', hcut'⟩ := ih'
    have hjoined := hcut.joined .comma (by decide) rfl (by decide) hcut'
    refine ⟨_, .cons hstands hstands', hjoined.imp ?_⟩
    rintro tokens ⟨o, s, s', hs, hs', rfl⟩
    exact .item hs hs'
  | entry _ _ ih ih' =>
    obtain ⟨tree, hstands, hcut⟩ := ih'
    have hjoined := ih.joined .colon (by decide) rfl (by decide) hcut
    refine ⟨tree, hstands, hjoined.imp ?_⟩
    rintro tokens ⟨o, -, s, ⟨o', rfl⟩, hs, rfl⟩
    exact ⟨o', o, s, hs, rfl⟩
  | noEntries => exact ⟨[], .nil, .nil .noEntries⟩
  | @lastEntry key _ _ _ ih =>
    obtain ⟨tree, hstands, hcut⟩ := ih
    refine ⟨[(key, tree)], .cons ⟨rfl, hstands⟩ .nil, hcut.imp ?_⟩
    rintro tokens ⟨o, o', s, hs, rfl⟩
    exact .lastEntry (.inl rfl) hs
  | @moreEntries key _ _ _ _ _ _ ih ih' =>
    obtain ⟨tree, hstands, hcut⟩ := ih
    obtain ⟨trees, hstands', hcut'⟩ := ih'
    have hjoined := hcut.joined .comma (by decide) rfl (by decide) hcut'
    refine ⟨(key, tree) :: trees, .cons ⟨rfl, hstands⟩ hstands', hjoined.imp ?_⟩
    rintro tokens ⟨o, -, s', ⟨o₁, o₂, s, hs, rfl⟩, hs', rfl⟩
    exact .entry (.inl rfl) hs hs'
  | before hblank _ ih => exact ih.imp fun spelled hcut => hcut.before hblank
  | after hblank _ ih => exact ih.imp fun spelled hcut => hcut.after hblank

section Values
variable {value : Value}

theorem exists_written_items {items : List Value}
    (h : ∀ item ∈ items, ∃ text, Written (.value item) text) :
    ∃ text, Written (.items items) text := by
  induction items with
  | nil => exact ⟨[], .noItems⟩
  | cons item items ih =>
    obtain ⟨⟨text, htext⟩, h⟩ := List.forall_mem_cons.mp h
    obtain ⟨text', htext'⟩ := ih h
    exact ⟨text ++ ',' :: text', .item htext htext'⟩

theorem exists_written_entries {entries : List (String × Value)}
    (h : ∀ entry ∈ entries, ∃ text, Written (.value entry.2) text) :
    ∃ text, Written (.entries entries) text := by
  induction entries with
  | nil => exact ⟨[], .noEntries⟩
  | cons entry entries ih =>
    obtain ⟨⟨text, htext⟩, h⟩ := List.forall_mem_cons.mp h
    obtain ⟨text', htext'⟩ := ih h
    exact ⟨_, .moreEntries (.entry (.quoted (.inl rfl)) htext) htext'⟩

theorem exists_written (h : value.Plain) : ∃ text, Written (.value value) text := by
  induction h with
  | @scalar s hs =>
    cases s with
    | null => exact ⟨_, .null⟩
    | bool b => cases b <;> exact ⟨_, by constructor⟩
    | int n => exact ⟨_, .int⟩
    | string s => exact ⟨_, .string (.quoted (.inl rfl))⟩
    | float | date => exact hs.elim
  | array _ ih =>
    obtain ⟨text, htext⟩ := exists_written_items ih
    exact ⟨_, .array htext⟩
  | object _ ih =>
    obtain ⟨text, htext⟩ := exists_written_entries ih
    exact ⟨_, .object htext (.refl _)⟩

/-- What is written for a value that is not nested too deep is parsed as a tree that stands for
it. -/
theorem parse_written {text : String} (h : Written (.value value) text.toList)
    (hdepth : value.depth ≤ 63) :
    ∃ tree : Expr, tree.StandsFor value ∧ Grammar.standard.parse text = .ok tree := by
  obtain ⟨tree, hstands, hcut⟩ := h.cutAs
  obtain ⟨tokens, p, hspelling, hcuts⟩ := hcut 0 [] stops_nil
  rw [Cuts, List.append_nil, scanFrom_nil] at hcuts
  have htokens : Grammar.standard.tokenize text = .ok (tokens ++ [⟨.eof, p.1⟩]) := hcuts
  rw [← Parser.beforeEof_append hspelling.isEof_eq_false
    (show (Parser.current [⟨.eof, p.1⟩]).kind.isEof = Bool.true from rfl)] at hspelling
  obtain ⟨rest, hrun⟩ := Parser.run_of_spelling (hstands.wellFormed .standard) hspelling
  have hparse := Parser.parseTokens_of_run hrun
  have hlevels := hstands.levels
  have hheight := hstands.height
  rw [if_pos ⟨by omega, by dsimp only; omega⟩] at hparse
  refine ⟨tree, hstands, ?_⟩
  rw [Grammar.parse, htokens]
  exact hparse

/-- Every value without doubles and dates that is nested at most 63 collections deep can be written,
and whatever is written for it evaluates to it. -/
theorem evaluate_written (h : value.Plain) (hdepth : value.depth ≤ 63) :
    (∃ text : String, Written (.value value) text.toList) ∧
      ∀ text : String, Written (.value value) text.toList →
        ∀ context, Grammar.standard.evaluate text context = .ok value := by
  refine ⟨?_, fun text htext context => ?_⟩
  · obtain ⟨text, htext⟩ := exists_written h
    exact ⟨String.ofList text, by rwa [String.toList_ofList]⟩
  · obtain ⟨tree, hstands, hparse⟩ := parse_written htext hdepth
    rw [Grammar.evaluate, hparse]
    change (tree.eval Grammar.standard ⟨context, none⟩).mapError EvalError.toError = .ok value
    rw [hstands.eval]
    rfl

/-- The least integer, a quote within quotes of its kind, and blanks around marks. -/
theorem evaluate_written_nested :
    let fields : Entries := .cons "k'" trivial (Value.string "\\") .nil
    let value : Value := .array [Value.int Int64.minValue, .object fields]
    let text := "[-9223372036854775808 ,\t\x7b'k\\'' : \"\\\\\"\x7d]"
    value.Plain ∧ value.depth ≤ 63 ∧ Written (.value value) text.toList ∧
      Grammar.standard.evaluate text Value.null = .ok value := by
  intro fields value text
  have hfields : fields.toList = [("k'", Value.string "\\")] := rfl
  have hobject : (Value.object fields).Plain :=
    .object (hfields ▸ List.forall_mem_singleton.mpr (.scalar trivial))
  have hplain : value.Plain := .array (by simpa using ⟨.scalar trivial, hobject⟩)
  have hwritten : Written (.value value) text.toList := by
    have hkey : Written (.quoted "k'") _ := .after (c := ' ') rfl (.quoted (.inr rfl))
    have hstring : Written (.value (Value.string "\\")) _ :=
      .before (c := ' ') rfl (.string (.quoted (.inl rfl)))
    have hobject : Written (.value (.object fields)) _ :=
      .object (.lastEntry (.entry hkey hstring)) (hfields ▸ .refl _)
    have hint : Written (.value (Value.int Int64.minValue)) _ := .after (c := ' ') rfl .int
    convert Written.array (.item hint (.lastItem (.before (c := '\t') rfl hobject))) using 1
    decide +kernel
  exact ⟨hplain, by decide, hwritten, (evaluate_written hplain (by decide)).2 text hwritten _⟩

end Values

end Value

end Cohort
