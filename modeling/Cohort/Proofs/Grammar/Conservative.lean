import Cohort.Grammar.Standard
import Cohort.Proofs.Parser.Built
import Cohort.Proofs.Token.Symbols
import Mathlib

/-!
Changes to a grammar are conservative. Two grammars cut a text into the same tokens, parse it as the
same tree and evaluate it to the same outcome when they agree on the names that occur in the text.
So nothing that is registered, replaced or removed under another name makes a difference to it.
-/
namespace Cohort

namespace Parser

/-- Two readers do the same with tokens whose kinds are all in `p`, and leave only such tokens. -/
structure SameOn (p : TokenKind → Prop) {α : Type} (x y : Reader α) : Prop where
  eq (s : State) : (∀ token ∈ s.tokens, p token.kind) → x s = y s
  keeps (s : State) : (∀ token ∈ s.tokens, p token.kind) →
    ∀ a s', x s = .ok (a, s') → ∀ token ∈ s'.tokens, p token.kind

namespace SameOn
variable {p : TokenKind → Prop} {α β : Type} {x y : Reader α} {f f' : α → Reader β}

/-- A reader that puts no tokens back does the same as itself. -/
theorem of_suffix (h : ∀ s a s', x s = .ok (a, s') → s'.tokens <:+ s.tokens) : SameOn p x x where
  eq _ _ := rfl
  keeps s hs a s' hx token hmem := hs token ((h s a s' hx).mem hmem)

theorem bind (h : SameOn p x y) (hf : ∀ a, SameOn p (f a) (f' a)) :
    SameOn p (x >>= f) (y >>= f') where
  eq s hs := by
    cases hx : x s with
    | error fault => rw [bind_of_error hx, bind_of_error ((h.eq s hs).symm.trans hx)]
    | ok result =>
      obtain ⟨a, s'⟩ := result
      rw [bind_of_ok hx, bind_of_ok ((h.eq s hs).symm.trans hx)]
      exact (hf a).eq s' (h.keeps s hs a s' hx)
  keeps s hs b s' hb := by
    obtain ⟨a, m, hx, hb⟩ := bind_eq_ok.mp hb
    exact (hf a).keeps m (h.keeps s hs a m hx) b s' hb

end SameOn

variable {g g' : Grammar} {limits : Limits} {p : TokenKind → Prop}

theorem current_of_forall {tokens : List Token} (heof : p .eof)
    (hp : ∀ token ∈ tokens, p token.kind) : p (current tokens).kind := by
  cases tokens with
  | nil => exact heof
  | cons token rest => exact hp token List.mem_cons_self

/-- Two parsers go the same way step by step when their grammars agree on the operators that there
are among the tokens. -/
theorem respects_sameOn (limits : Limits) (heof : p .eof)
    (hprecedence : ∀ symbol, p (.operator symbol) → g.precedence? symbol = g'.precedence? symbol)
    (hunary : ∀ symbol, p (.operator symbol) → g.isUnary symbol = g'.isUnary symbol) :
    Respects p g g' limits limits fun _ => SameOn p where
  precedence := hprecedence
  isUnary := hunary
  pure a := .of_suffix fun s b s' h => by
    cases h
    exact List.suffix_rfl
  fail _ := .of_suffix fun s b s' h => by cases h
  bind h hf := h.bind hf
  look hf :=
    have hsees s hs := hf s s ⟨rfl, rfl, current_of_forall heof hs⟩
    ⟨fun s hs => (hsees s hs).eq s hs, fun s hs => (hsees s hs).keeps s hs⟩
  advance := .of_suffix fun s b s' h => by
    cases h
    exact List.tail_suffix _
  enter := .of_suffix fun s b s' h => by
    obtain ⟨-, rfl⟩ := enter_eq_ok.mp h
    exact List.suffix_rfl
  leave := .of_suffix fun s b s' h => by
    cases h
    exact List.suffix_rfl
  putHeight _ := .of_suffix fun s b s' h => by
    cases h
    exact List.suffix_rfl
  setHeight _ := .of_suffix fun s b s' h => by
    obtain ⟨-, rfl⟩ := setHeight_eq_ok.mp h
    exact List.suffix_rfl

theorem parseTokens_congr {tokens : List Token} (heof : p .eof)
    (hp : ∀ token ∈ tokens, p token.kind)
    (hprecedence : ∀ symbol, p (.operator symbol) → g.precedence? symbol = g'.precedence? symbol)
    (hunary : ∀ symbol, p (.operator symbol) → g.isUnary symbol = g'.isUnary symbol) :
    g.parseTokens tokens = g'.parseTokens tokens := by
  have hclosed : ∀ token ∈ (start tokens).tokens, p token.kind := by
    refine List.forall_mem_append.mpr ⟨hp, ?_⟩
    exact List.forall_mem_singleton.mpr heof
  have hrun : run g .standard tokens = run g' .standard tokens :=
    ((respects_sameOn .standard heof hprecedence hunary).whole _).eq (start tokens) hclosed
  rw [Grammar.parseTokens, Grammar.parseTokens, parseWithin, parseWithin, hrun]

end Parser

namespace Grammar
variable {g g' : Grammar} {text symbol : String}

/-- Two grammars have the same entries under the names that occur in a text. -/
structure AgreeOn (g g' : Grammar) (text : String) : Prop where
  binary (name : String) : name.toList <:+: text.toList → g.binary.get? name = g'.binary.get? name
  unary (name : String) : name.toList <:+: text.toList → g.unary.get? name = g'.unary.get? name
  transforms (name : String) :
    name.toList <:+: text.toList → g.transforms.get? name = g'.transforms.get? name

/-- Two grammars do the same with a text: it has the same tokens, is the same tree or fails to be
one in the same way, and evaluates to the same outcome in every context. -/
structure AlikeOn (g g' : Grammar) (text : String) : Prop where
  tokenize : g.tokenize text = g'.tokenize text
  parse : g.parse text = g'.parse text
  evaluate (context : Value) : g.evaluate text context = g'.evaluate text context

theorem parse_of_error {fault : SyntaxError} (h : g.tokenize text = .error fault) :
    g.parse text = .error fault := by
  rw [parse, h]
  simp only [bind, Except.bind]

theorem parse_of_ok {tokens : List Token} (h : g.tokenize text = .ok tokens) :
    g.parse text = g.parseTokens tokens := by
  rw [parse, h]
  simp only [bind, Except.bind]

/-- A tree is parsed from the tokens of the text. -/
theorem exists_of_parse_eq_ok {tree : Expr} (h : g.parse text = .ok tree) :
    ∃ tokens, g.tokenize text = .ok tokens ∧ g.parseTokens tokens = .ok tree := by
  cases htokens : g.tokenize text with
  | error fault => cases (parse_of_error htokens).symm.trans h
  | ok tokens => exact ⟨tokens, rfl, (parse_of_ok htokens).symm.trans h⟩

namespace AgreeOn

theorem isSymbol_eq (h : g.AgreeOn g' text) (name : String) (hin : name.toList <:+: text.toList) :
    g.isSymbol name = g'.isSymbol name := by
  rw [isSymbol, isSymbol, Table.contains, Table.contains, Table.contains, Table.contains,
    h.binary name hin, h.unary name hin]

theorem precedence?_eq (h : g.AgreeOn g' text) (name : String)
    (hin : name.toList <:+: text.toList) : g.precedence? name = g'.precedence? name := by
  rw [precedence?, precedence?, h.binary name hin]

theorem isUnary_eq (h : g.AgreeOn g' text) (name : String) (hin : name.toList <:+: text.toList) :
    g.isUnary name = g'.isUnary name := by
  rw [isUnary, isUnary, Table.contains, Table.contains, h.unary name hin]

theorem tokenize_eq (h : g.AgreeOn g' text) : g.tokenize text = g'.tokenize text :=
  Lexer.scanFrom_congr (agree_lexicon h.isSymbol_eq) 0 true

theorem parse_eq (h : g.AgreeOn g' text) : g.parse text = g'.parse text := by
  cases htokens : g.tokenize text with
  | error fault =>
    rw [parse_of_error htokens, parse_of_error (h.tokenize_eq.symm.trans htokens)]
  | ok tokens =>
    rw [parse_of_ok htokens, parse_of_ok (h.tokenize_eq.symm.trans htokens)]
    exact Parser.parseTokens_congr (p := TokenKind.SpelledIn text.toList) trivial
      (Lexer.spelledIn_scanFrom htokens) h.precedence?_eq h.isUnary_eq

/-- A node gets its meaning from names that occur in the text it is spelled by. -/
theorem sameMeaning (h : g.AgreeOn g' text) (context : Value) {node : Expr}
    (hbuilt : Parser.Built g (TokenKind.SpelledIn text.toList) node) :
    Expr.SameMeaning g g' context context node := by
  cases hbuilt with
  | atom hatom => obtain ⟨_, rfl, -⟩ | ⟨_, rfl⟩ := Parser.eq_of_atom? hatom <;> trivial
  | bracket =>
    unfold Parser.bracket
    split_ifs <;> trivial
  | unary _ token => exact h.unary _ token
  | binary _ token => exact h.binary _ token
  | transform token => exact h.transforms _ token
  | _ => trivial

theorem evaluate_eq (h : g.AgreeOn g' text) (context : Value) :
    g.evaluate text context = g'.evaluate text context := by
  rw [evaluate, evaluate, ← h.parse_eq]
  cases hparse : g.parse text with
  | error fault => simp only [Except.mapError, bind, Except.bind]
  | ok tree =>
    obtain ⟨tokens, htokens, hparse⟩ := exists_of_parse_eq_ok hparse
    have hbuilt : Expr.Everywhere (Parser.Built g (TokenKind.SpelledIn text.toList)) tree :=
      Parser.everywhere_built_of_parseTokens hparse trivial (Lexer.spelledIn_scanFrom htokens)
    have heval : Expr.eval g ⟨context, none⟩ tree = Expr.eval g' ⟨context, none⟩ tree :=
      Expr.eval_congr (hbuilt.imp fun _ hnode => h.sameMeaning context hnode) fun _ => rfl
    simp only [Except.mapError, bind, Except.bind, evalExpr, heval]

theorem alikeOn (h : g.AgreeOn g' text) : g.AlikeOn g' text :=
  ⟨h.tokenize_eq, h.parse_eq, h.evaluate_eq⟩

end AgreeOn

theorem ne_of_isInfix (h : ¬ symbol.toList <:+: text.toList) {name : String}
    (hin : name.toList <:+: text.toList) : name ≠ symbol := by
  rintro rfl
  exact h hin

theorem agreeOn_insertBinary (h : ¬ symbol.toList <:+: text.toList) (g : Grammar) (op : BinaryOp) :
    AgreeOn { g with binary := g.binary.insert symbol op } g text where
  binary _ hin := (Table.get?_insert ..).trans (if_neg (ne_of_isInfix h hin))
  unary _ _ := rfl
  transforms _ _ := rfl

theorem agreeOn_addUnary (h : ¬ symbol.toList <:+: text.toList) (g : Grammar) (apply : UnaryOp) :
    (g.addUnary symbol apply).AgreeOn g text where
  binary _ _ := rfl
  unary _ hin := (Table.get?_insert ..).trans (if_neg (ne_of_isInfix h hin))
  transforms _ _ := rfl

theorem agreeOn_removeOp (h : ¬ symbol.toList <:+: text.toList) (g : Grammar) :
    (g.removeOp symbol).AgreeOn g text where
  binary _ hin := (Table.get?_erase ..).trans (if_neg (ne_of_isInfix h hin))
  unary _ hin := (Table.get?_erase ..).trans (if_neg (ne_of_isInfix h hin))
  transforms _ _ := rfl

theorem agreeOn_addTransform (h : ¬ symbol.toList <:+: text.toList) (g : Grammar)
    (apply : Transform) : (g.addTransform symbol apply).AgreeOn g text where
  binary _ _ := rfl
  unary _ _ := rfl
  transforms _ hin := (Table.get?_insert ..).trans (if_neg (ne_of_isInfix h hin))

/-- Whatever is registered, replaced or removed under a name that does not occur in a text, the
text keeps its tokens, its tree or what stopped the parser, and its outcome in every context. -/
theorem alikeOn_of_not_isInfix (g : Grammar) {symbol text : String}
    (h : ¬ symbol.toList <:+: text.toList) :
    (∀ precedence apply, (g.addBinary symbol precedence apply).AlikeOn g text) ∧
      (∀ precedence apply, (g.addShortCircuit symbol precedence apply).AlikeOn g text) ∧
      (∀ apply, (g.addUnary symbol apply).AlikeOn g text) ∧
      (g.removeOp symbol).AlikeOn g text ∧
      ∀ apply, (g.addTransform symbol apply).AlikeOn g text :=
  ⟨fun _ _ => (agreeOn_insertBinary h g _).alikeOn, fun _ _ => (agreeOn_insertBinary h g _).alikeOn,
    fun apply => (agreeOn_addUnary h g apply).alikeOn, (agreeOn_removeOp h g).alikeOn,
    fun apply => (agreeOn_addTransform h g apply).alikeOn⟩

/-- An operator that begins like one in the text, but goes on in another way. -/
theorem alikeOn_of_not_isInfix_standard :
    ¬ "<=>".toList <:+: "age <= 18".toList ∧
      (standard.addBinary "<=>" 20 fun left _ => .ok left).AlikeOn standard "age <= 18" ∧
      (standard.removeOp "<=>").AlikeOn standard "age <= 18" := by
  have h : ¬ "<=>".toList <:+: "age <= 18".toList := by decide
  have halike := alikeOn_of_not_isInfix standard h
  exact ⟨h, halike.1 20 _, halike.2.2.2.1⟩

end Grammar

end Cohort
