import Cohort.Proofs.Expr.WellFormed
import Cohort.Proofs.Parser.Limits
import Mathlib

/-!
The trees that the parser gives fit the grammar they were parsed with. Every node has one of the
shapes that the rules of spelling build, so its operators are registered, a bracket is a filter just
when it looks at an element, and the evaluation never comes upon an operator that is missing.
-/
namespace Cohort.Parser
open Cohort.Expr (Everywhere)

/-- How a node comes about: its operator is registered, and `p` holds of the token that gives it its
name or its value. -/
inductive Built (g : Grammar) (p : TokenKind → Prop) : Expr → Prop where
  | atom {kind tree} (h : atom? kind = some tree) (token : p kind) : Built g p tree
  | relative {name} (token : p (.identifier name)) : Built g p (.relative name)
  | property {name} (token : p (.identifier name)) : Built g p (.literal (.string name))
  | member {subject name} : Built g p (.member subject (.literal (.string name)) false)
  | bracket {subject inner} : Built g p (bracket subject inner)
  | array {items} : Built g p (.array items)
  | object {entries} : Built g p (.object entries)
  | unary {symbol operand} (registered : g.isUnary symbol = true) (token : p (.operator symbol)) :
    Built g p (.unary symbol operand)
  | binary {symbol left right precedence} (registered : g.precedence? symbol = some precedence)
    (token : p (.operator symbol)) : Built g p (.binary symbol left right)
  | conditional {test consequent alternate} :
    Built g p (.conditional test consequent alternate)
  | transform {subject name arguments} (token : p (.identifier name)) :
    Built g p (.transform subject name arguments)

/-- An operand of one token is a scalar or a name. -/
theorem eq_of_atom? {kind : TokenKind} {tree : Expr} (h : atom? kind = some tree) :
    (∃ scalar, tree = .literal (.scalar scalar) ∧ scalar.kind ≠ .date) ∨
      ∃ name, tree = .identifier name := by
  cases kind <;> simp only [atom?, Option.some.injEq, reduceCtorEq] at h <;> subst h
  case identifier name => exact .inr ⟨name, rfl⟩
  all_goals exact .inl ⟨_, rfl, by simp [Scalar.kind]⟩

theorem everywhere_atom {q : Expr → Prop} {kind : TokenKind} {tree : Expr}
    (h : atom? kind = some tree) : Everywhere q tree ↔ q tree := by
  obtain ⟨scalar, rfl, -⟩ | ⟨name, rfl⟩ := eq_of_atom? h <;> simp

theorem everywhere_bracket {q : Expr → Prop} {subject inner : Expr} :
    Everywhere q (bracket subject inner) ↔
      q (bracket subject inner) ∧ Everywhere q subject ∧ Everywhere q inner := by
  unfold bracket
  split_ifs <;> simp

def Form.Begun (q : Expr → Prop) : Form → Prop
  | .binaryTail _ left => q left
  | .suffixes subject => q subject
  | _ => True

theorem suffix_of_cons {token : Token} {a b : List Token} (h : token :: a <:+ b) : a <:+ b :=
  (List.suffix_cons token a).trans h

theorem suffix_cons_of {token : Token} {a b : List Token} (h : a <:+ b) : a <:+ token :: b :=
  h.trans (List.suffix_cons token b)

theorem Reads.suffix {g : Grammar} {form : Form} {before after : List Token} {tree : Expr} {n : ℕ}
    (h : Reads g form before after tree n) : after <:+ before := by
  induction h <;> grind [→ suffix_of_cons, ← suffix_cons_of]

/-- What holds of the tokens before a phrase holds of those after it. -/
theorem Reads.keeps {g : Grammar} {form : Form} {before after : List Token} {tree : Expr} {n : ℕ}
    {p : TokenKind → Prop} (h : Reads g form before after tree n)
    (hp : ∀ token ∈ before, p token.kind) : ∀ token ∈ after, p token.kind :=
  fun token hmem => hp token (h.suffix.mem hmem)

/-- A phrase builds its tree from its tokens and, where it is a tail, around the tree that it goes
on after. -/
theorem Reads.built {g : Grammar} {form : Form} {before after : List Token} {tree : Expr} {n : ℕ}
    {p : TokenKind → Prop} (h : Reads g form before after tree n)
    (hp : ∀ token ∈ before, p token.kind) (hbegun : form.Begun (Everywhere (Built g p))) :
    Everywhere (Built g p) tree := by
  induction h with
  | expression _ ih | test _ _ ih | operand _ _ ih => exact ih hp trivial
  | conditional h₁ h₂ _ ih₁ ih₂ ih₃ =>
    have hmid := List.forall_mem_cons.mp (h₁.keeps hp)
    have hmid' := List.forall_mem_cons.mp (h₂.keeps hmid.2)
    exact Expr.everywhere_conditional.mpr
      ⟨.conditional, ih₁ hp trivial, ih₂ hmid.2 trivial, ih₃ hmid'.2 trivial⟩
  | binary h _ ih iht => exact iht (h.keeps hp) (ih hp trivial)
  | binaryStop | suffixStop => exact hbegun
  | binaryStep registered _ h _ ih iht =>
    obtain ⟨token, hmid⟩ := List.forall_mem_cons.mp hp
    exact iht (h.keeps hmid)
      (Expr.everywhere_binary.mpr ⟨.binary registered token, hbegun, ih hmid trivial⟩)
  | unary registered _ ih =>
    obtain ⟨token, hmid⟩ := List.forall_mem_cons.mp hp
    exact Expr.everywhere_unary.mpr ⟨.unary registered token, ih hmid trivial⟩
  | suffixed h _ ih iht => exact iht (h.keeps hp) (ih hp trivial)
  | member _ iht =>
    simp only [List.forall_mem_cons] at hp
    obtain ⟨-, token, hmid⟩ := hp
    exact iht hmid (Expr.everywhere_member.mpr
      ⟨.member, hbegun, Expr.everywhere_literal.mpr (.property token)⟩)
  | bracket h _ ih iht =>
    have hmid := (List.forall_mem_cons.mp hp).2
    refine iht (List.forall_mem_cons.mp (h.keeps hmid)).2 ?_
    exact everywhere_bracket.mpr ⟨.bracket, hbegun, ih hmid trivial⟩
  | transform _ _ iht =>
    simp only [List.forall_mem_cons] at hp
    obtain ⟨-, token, hmid⟩ := hp
    exact iht hmid (Expr.everywhere_transform.mpr
      ⟨.transform token, hbegun, List.forall_mem_nil _⟩)
  | call h _ ih iht =>
    simp only [List.forall_mem_cons] at hp
    obtain ⟨-, token, -, hmid⟩ := hp
    have harguments := (Expr.everywhere_array.mp (ih hmid trivial)).2
    exact iht (h.keeps hmid)
      (Expr.everywhere_transform.mpr ⟨.transform token, hbegun, harguments⟩)
  | atom hatom =>
    exact (everywhere_atom hatom).mpr (.atom hatom (List.forall_mem_cons.mp hp).1)
  | relative =>
    simp only [List.forall_mem_cons] at hp
    obtain ⟨-, token, -⟩ := hp
    exact Expr.everywhere_relative.mpr (.relative token)
  | group _ ih | array _ ih | object _ ih => exact ih (List.forall_mem_cons.mp hp).2 trivial
  | listEnd => exact Expr.everywhere_array.mpr ⟨.array, List.forall_mem_nil _⟩
  | listLast _ _ ih =>
    exact Expr.everywhere_array.mpr ⟨.array, List.forall_mem_singleton.mpr (ih hp trivial)⟩
  | listItem _ _ h _ ih iht =>
    have hitems := iht (List.forall_mem_cons.mp (h.keeps hp)).2 trivial
    exact Expr.everywhere_array.mpr ⟨.array,
      List.forall_mem_cons.mpr ⟨ih hp trivial, (Expr.everywhere_array.mp hitems).2⟩⟩
  | fieldsEnd => exact Expr.everywhere_object.mpr ⟨.object, List.forall_mem_nil _⟩
  | fieldsLast _ _ ih =>
    simp only [List.forall_mem_cons] at hp
    obtain ⟨-, -, hmid⟩ := hp
    exact Expr.everywhere_object.mpr ⟨.object, List.forall_mem_singleton.mpr (ih hmid trivial)⟩
  | fieldsItem _ h _ ih iht =>
    simp only [List.forall_mem_cons] at hp
    obtain ⟨-, -, hmid⟩ := hp
    have hentries := iht (List.forall_mem_cons.mp (h.keeps hmid)).2 trivial
    exact Expr.everywhere_object.mpr ⟨.object,
      List.forall_mem_cons.mpr ⟨ih hmid trivial, (Expr.everywhere_object.mp hentries).2⟩⟩

theorem Built.fits {g : Grammar} {p : TokenKind → Prop} {node : Expr} (h : Built g p node) :
    node.Fits g := by
  cases h with
  | atom hatom =>
    obtain ⟨scalar, rfl, hscalar⟩ | ⟨name, rfl⟩ := eq_of_atom? hatom
    · exact ⟨scalar, rfl, hscalar⟩
    · trivial
  | property => exact ⟨_, rfl, by simp [Scalar.kind]⟩
  | member => exact ⟨_, rfl⟩
  | @bracket _ inner =>
    unfold Parser.bracket
    split_ifs with hrelative
    · exact hrelative
    · exact Bool.eq_false_of_not_eq_true hrelative
  | unary registered => exact registered
  | binary registered =>
    obtain ⟨op, hop, -⟩ := Option.map_eq_some_iff.mp registered
    exact Option.isSome_iff_exists.mpr ⟨op, hop⟩
  | _ => trivial

/-- What a token list is parsed as is built from its tokens. -/
theorem everywhere_built_of_parseTokens {g : Grammar} {tokens : List Token} {tree : Expr}
    {p : TokenKind → Prop} (h : g.parseTokens tokens = .ok tree) (heof : p .eof)
    (hp : ∀ token ∈ tokens, p token.kind) : Everywhere (Built g p) tree := by
  obtain ⟨s, hrun⟩ := parseWithin_eq_ok.mp h
  obtain ⟨n, rest, ⟨after, hreads, -, -⟩, -⟩ := (run_eq_ok rfl rfl).mp hrun
  refine hreads.built (fun token hmem => ?_) trivial
  rcases List.mem_append.mp hmem with hmem | hmem
  · exact hp token hmem
  · rw [List.mem_singleton.mp hmem]
    exact heof

/-- A tree that the parser gives is well-formed for the grammar it was parsed with, so that no node
of it is evaluated differently where more operators are known, and none fails for want of an
operator, unless a function of the grammar reports such a failure itself. -/
theorem parseTokens_wellFormed (g : Grammar) (tokens : List Token) {tree : Expr}
    (h : g.parseTokens tokens = .ok tree) :
    tree.WellFormed g ∧
      Everywhere (fun node => ∀ scope,
        (∀ g' : Grammar, g'.Extends g → node.eval g' scope = node.eval g scope) ∧
        ∀ symbol, node.eval g scope = .error (.unknownOperator symbol) →
          g.Raises (.unknownOperator symbol)) tree := by
  have hbuilt : Everywhere (Built g fun _ => True) tree :=
    everywhere_built_of_parseTokens h trivial fun _ _ => trivial
  have hwell : tree.WellFormed g := hbuilt.imp fun _ hnode => hnode.fits
  refine ⟨hwell, hwell.everywhere.imp fun node hnode scope => ⟨fun g' hext => ?_, ?_⟩⟩
  · exact Expr.WellFormed.eval_eq hnode hext scope
  · intro symbol heval
    obtain hraises | ⟨name, -, hname⟩ := Expr.WellFormed.explained hnode heval
    · exact hraises
    · cases hname

theorem parseTokens_wellFormed_standard :
    let tokens : List Token :=
      [⟨.identifier "a", 0⟩, ⟨.mark .leftBracket, 1⟩, ⟨.mark .dot, 2⟩, ⟨.identifier "b", 3⟩,
        ⟨.operator "==", 5⟩, ⟨.operator "!", 8⟩, ⟨.identifier "c", 9⟩, ⟨.mark .rightBracket, 10⟩,
        ⟨.mark .leftBracket, 11⟩, ⟨.int 0, 12⟩, ⟨.mark .rightBracket, 13⟩, ⟨.mark .dot, 14⟩,
        ⟨.identifier "d", 15⟩, ⟨.eof, 16⟩]
    let predicate : Expr := .binary "==" (.relative "b") (.unary "!" (.identifier "c"))
    let tree : Expr := .member (.member (.filter (.identifier "a") predicate)
      (.literal (.int 0)) true) (.literal (.string "d")) false
    Grammar.standard.parseTokens tokens = .ok tree ∧ tree.WellFormed .standard := by
  intro tokens predicate tree
  have h : Grammar.standard.parseTokens tokens = .ok tree := rfl
  exact ⟨h, (parseTokens_wellFormed .standard tokens h).1⟩

end Cohort.Parser
