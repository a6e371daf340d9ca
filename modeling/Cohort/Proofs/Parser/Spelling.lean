import Cohort.Proofs.Parser.Limits
import Mathlib

/-!
How trees are spelled, said by the trees and not by the way they are read: the tokens of the parts
stand in order with the marks and the operators of the node between them. The parser takes in
nothing but spellings, so that no token before the end marker is lost, used twice or moved.
-/
namespace Cohort

def Scalar.token? : Scalar → Option TokenKind
  | .null => some .null
  | .bool b => some (.bool b)
  | .int n => some (.int n)
  | .float x => some (.float x)
  | .string s => some (.string s)
  | .date _ => none

namespace Parser

/-- Where parentheses stand: around any part, any number of times, or once around each operand and
each subject and nowhere else. -/
inductive Grouping where
  | free
  | full
  deriving DecidableEq

/-- What is spelled: a tree by itself, a tree as an operand or a subject of another one, the items
of a list, and the entries of an object. -/
inductive Phrase where
  | tree (tree : Expr)
  | operand (tree : Expr)
  | items (items : List Expr)
  | entries (entries : List (String × Expr))

/-- The tokens are a spelling of a phrase. Items and entries have commas between them and may have
one after the last; a transform without arguments may have empty parentheses or none. -/
inductive Spelling (grouping : Grouping) : Phrase → List Token → Prop where
  | literal {scalar kind o} (h : Scalar.token? scalar = some kind) :
    Spelling grouping (.tree (.literal (.scalar scalar))) [⟨kind, o⟩]
  | identifier {name o} : Spelling grouping (.tree (.identifier name)) [⟨.identifier name, o⟩]
  | relative {name o o'} :
    Spelling grouping (.tree (.relative name)) [⟨.mark .dot, o⟩, ⟨.identifier name, o'⟩]
  | member {subject name s o o'} (h : Spelling grouping (.operand subject) s) :
    Spelling grouping (.tree (.member subject (.literal (.string name)) false))
      (s ++ [⟨.mark .dot, o⟩, ⟨.identifier name, o'⟩])
  | computed {subject property s s' o o'} (h : Spelling grouping (.operand subject) s)
    (h' : Spelling grouping (.tree property) s') :
    Spelling grouping (.tree (.member subject property true))
      (s ++ ⟨.mark .leftBracket, o⟩ :: (s' ++ [⟨.mark .rightBracket, o'⟩]))
  | array {items s o o'} (h : Spelling grouping (.items items) s) :
    Spelling grouping (.tree (.array items))
      (⟨.mark .leftBracket, o⟩ :: (s ++ [⟨.mark .rightBracket, o'⟩]))
  | object {entries s o o'} (h : Spelling grouping (.entries entries) s) :
    Spelling grouping (.tree (.object entries))
      (⟨.mark .leftBrace, o⟩ :: (s ++ [⟨.mark .rightBrace, o'⟩]))
  | unary {symbol operand s o} (h : Spelling grouping (.operand operand) s) :
    Spelling grouping (.tree (.unary symbol operand)) (⟨.operator symbol, o⟩ :: s)
  | binary {symbol left right s s' o} (h : Spelling grouping (.operand left) s)
    (h' : Spelling grouping (.operand right) s') :
    Spelling grouping (.tree (.binary symbol left right)) (s ++ ⟨.operator symbol, o⟩ :: s')
  | conditional {test consequent alternate s s' s'' o o'}
    (h : Spelling grouping (.operand test) s) (h' : Spelling grouping (.operand consequent) s')
    (h'' : Spelling grouping (.operand alternate) s'') :
    Spelling grouping (.tree (.conditional test consequent alternate))
      (s ++ ⟨.mark .question, o⟩ :: (s' ++ ⟨.mark .colon, o'⟩ :: s''))
  | filter {subject predicate s s' o o'} (h : Spelling grouping (.operand subject) s)
    (h' : Spelling grouping (.tree predicate) s') :
    Spelling grouping (.tree (.filter subject predicate))
      (s ++ ⟨.mark .leftBracket, o⟩ :: (s' ++ [⟨.mark .rightBracket, o'⟩]))
  | transform {subject name s o o'} (h : Spelling grouping (.operand subject) s) :
    Spelling grouping (.tree (.transform subject name []))
      (s ++ [⟨.mark .pipe, o⟩, ⟨.identifier name, o'⟩])
  | call {subject name arguments s s' o o' o₁ o₂} (h : Spelling grouping (.operand subject) s)
    (h' : Spelling grouping (.items arguments) s') :
    Spelling grouping (.tree (.transform subject name arguments))
      (s ++ ⟨.mark .pipe, o⟩ :: ⟨.identifier name, o'⟩ :: ⟨.mark .leftParen, o₁⟩ ::
        (s' ++ [⟨.mark .rightParen, o₂⟩]))
  | bare {tree s} (h : Spelling grouping (.tree tree) s) (loose : grouping = .free) :
    Spelling grouping (.operand tree) s
  | parens {tree s o o'} (h : Spelling grouping (.tree tree) s) :
    Spelling grouping (.operand tree) (⟨.mark .leftParen, o⟩ :: (s ++ [⟨.mark .rightParen, o'⟩]))
  | wrapped {tree s} (h : Spelling grouping (.operand tree) s) (loose : grouping = .free) :
    Spelling grouping (.tree tree) s
  | noItems : Spelling grouping (.items []) []
  | lastItem {item s} (h : Spelling grouping (.tree item) s) :
    Spelling grouping (.items [item]) s
  | item {item items s s' o} (h : Spelling grouping (.tree item) s)
    (h' : Spelling grouping (.items items) s') :
    Spelling grouping (.items (item :: items)) (s ++ ⟨.mark .comma, o⟩ :: s')
  | noEntries : Spelling grouping (.entries []) []
  | lastEntry {kind key value s o o'} (named : kind = .string key ∨ kind = .identifier key)
    (h : Spelling grouping (.tree value) s) :
    Spelling grouping (.entries [(key, value)]) (⟨kind, o⟩ :: ⟨.mark .colon, o'⟩ :: s)
  | entry {kind key value entries s s' o o' o₁} (named : kind = .string key ∨ kind = .identifier key)
    (h : Spelling grouping (.tree value) s) (h' : Spelling grouping (.entries entries) s') :
    Spelling grouping (.entries ((key, value) :: entries))
      (⟨kind, o⟩ :: ⟨.mark .colon, o'⟩ :: (s ++ ⟨.mark .comma, o₁⟩ :: s'))

theorem atom?_of_token? {scalar : Scalar} {kind : TokenKind} (h : scalar.token? = some kind) :
    atom? kind = some (.literal (.scalar scalar)) := by
  cases scalar <;> cases h <;> rfl

theorem atom?_eq_some {kind : TokenKind} {tree : Expr} (h : atom? kind = some tree) :
    (∃ scalar, tree = .literal (.scalar scalar) ∧ Scalar.token? scalar = some kind) ∨
      ∃ name, tree = .identifier name ∧ kind = .identifier name := by
  cases kind <;> simp only [atom?, Option.some.injEq, reduceCtorEq] at h <;> subst h
  case identifier name => exact .inr ⟨name, rfl, rfl⟩
  all_goals exact .inl ⟨_, rfl, rfl⟩

theorem key?_eq_some_iff {kind : TokenKind} {key : String} :
    key? kind = some key ↔ kind = .string key ∨ kind = .identifier key := by
  cases kind <;> simp [key?]

theorem isEof_of_token? {scalar : Scalar} {kind : TokenKind} (h : scalar.token? = some kind) :
    kind.isEof = false := by
  cases scalar <;> cases h <;> rfl

theorem isEof_of_named {kind : TokenKind} {key : String}
    (h : kind = .string key ∨ kind = .identifier key) : kind.isEof = false := by
  obtain rfl | rfl := h <;> rfl

theorem Spelling.isEof_eq_false {grouping : Grouping} {phrase : Phrase} {tokens : List Token}
    (h : Spelling grouping phrase tokens) : ∀ token ∈ tokens, token.kind.isEof = false := by
  have hmark (mark : Mark) : (TokenKind.mark mark).isEof = false := rfl
  have hname (name : String) : (TokenKind.identifier name).isEof = false := rfl
  have hoperator (symbol : String) : (TokenKind.operator symbol).isEof = false := rfl
  induction h with
  | literal h => simpa using isEof_of_token? h
  | lastEntry named _ ih => simpa [hmark, isEof_of_named named] using ih
  | entry named _ _ ih ih' =>
    simpa [hmark, isEof_of_named named, or_imp, forall_and] using ⟨ih, ih'⟩
  | _ => simp_all [or_imp]

/-- What the tokens of a phrase of the parser spell. With those of a tail, the tokens of what it
goes on after are part of the spelling; with those of a list, the closing mark is not. -/
def Form.Spelt (tree : Expr) (consumed : List Token) : Form → Prop
  | .binaryTail _ left | .suffixes left =>
    ∀ front, Spelling .free (.operand left) front → Spelling .free (.operand tree) (front ++ consumed)
  | .list close =>
    ∃ items body o, tree = .array items ∧ Spelling .free (.items items) body ∧
      consumed = body ++ [⟨.mark close, o⟩]
  | .fields =>
    ∃ entries body o, tree = .object entries ∧ Spelling .free (.entries entries) body ∧
      consumed = body ++ [⟨.mark .rightBrace, o⟩]
  | _ => Spelling .free (.tree tree) consumed

theorem Spelling.loose {tree : Expr} {tokens : List Token}
    (h : Spelling .free (.tree tree) tokens) : Spelling .free (.operand tree) tokens :=
  .bare h rfl

theorem Spelling.bracket {subject inner : Expr} {s s' : List Token} {o o' : ℕ}
    (h : Spelling .free (.operand subject) s) (h' : Spelling .free (.tree inner) s') :
    Spelling .free (.tree (Parser.bracket subject inner))
      (s ++ ⟨.mark .leftBracket, o⟩ :: (s' ++ [⟨.mark .rightBracket, o'⟩])) := by
  unfold Parser.bracket
  split_ifs
  · exact .filter h h'
  · exact .computed h h'

/-- A phrase of the parser takes up a spelling of its tree. -/
theorem Reads.spelt {g : Grammar} {form : Form} {before after : List Token} {tree : Expr} {n : ℕ}
    (h : Reads g form before after tree n) :
    ∃ consumed, before = consumed ++ after ∧ form.Spelt tree consumed := by
  induction h with
  | expression _ ih | test _ _ ih | operand _ _ ih => exact ih
  | @conditional _ _ _ _ o o' _ _ _ _ _ _ _ _ _ ih₁ ih₂ ih₃ =>
    obtain ⟨c₁, rfl, h₁⟩ := ih₁
    obtain ⟨c₂, rfl, h₂⟩ := ih₂
    obtain ⟨c₃, rfl, h₃⟩ := ih₃
    exact ⟨c₁ ++ ⟨.mark .question, o⟩ :: (c₂ ++ ⟨.mark .colon, o'⟩ :: c₃), by simp,
      .conditional h₁.loose h₂.loose h₃.loose⟩
  | binary _ _ ih ih' | suffixed _ _ ih ih' =>
    obtain ⟨c', rfl, h'⟩ := ih'
    obtain ⟨c, rfl, h⟩ := ih
    exact ⟨c ++ c', by simp, .wrapped (h' c h.loose) rfl⟩
  | binaryStop | suffixStop => exact ⟨[], rfl, fun front h => by rwa [List.append_nil]⟩
  | @binaryStep _ _ symbol o _ _ _ _ _ _ _ _ _ _ _ _ ih ih' =>
    obtain ⟨c', rfl, h'⟩ := ih'
    obtain ⟨c, rfl, h⟩ := ih
    refine ⟨⟨.operator symbol, o⟩ :: (c ++ c'), by simp, fun front hfront => ?_⟩
    simpa using h' _ (Spelling.binary hfront h.loose).loose
  | unary _ _ ih =>
    obtain ⟨c, rfl, h⟩ := ih
    exact ⟨_, rfl, .unary h.loose⟩
  | @member _ o name o' _ _ _ _ _ ih =>
    obtain ⟨c, rfl, h⟩ := ih
    refine ⟨⟨.mark .dot, o⟩ :: ⟨.identifier name, o'⟩ :: c, rfl, fun front hfront => ?_⟩
    simpa using h _ (Spelling.member hfront).loose
  | @bracket _ o _ o' _ _ _ _ _ _ _ _ ih ih' =>
    obtain ⟨c', rfl, h'⟩ := ih'
    obtain ⟨c, rfl, h⟩ := ih
    refine ⟨⟨.mark .leftBracket, o⟩ :: (c ++ ⟨.mark .rightBracket, o'⟩ :: c'), by simp,
      fun front hfront => ?_⟩
    simpa using h' _ (Spelling.bracket hfront h).loose
  | @transform _ o name o' _ _ _ _ _ _ ih =>
    obtain ⟨c, rfl, h⟩ := ih
    refine ⟨⟨.mark .pipe, o⟩ :: ⟨.identifier name, o'⟩ :: c, rfl, fun front hfront => ?_⟩
    simpa using h _ (Spelling.transform hfront).loose
  | @call _ o name o' o₁ _ _ _ _ _ _ _ _ _ ih ih' =>
    obtain ⟨c', rfl, h'⟩ := ih'
    obtain ⟨-, rfl, items, body, o₂, heq, h, rfl⟩ := ih
    cases heq
    refine ⟨⟨.mark .pipe, o⟩ :: ⟨.identifier name, o'⟩ :: ⟨.mark .leftParen, o₁⟩ ::
      (body ++ ⟨.mark .rightParen, o₂⟩ :: c'), by simp, fun front hfront => ?_⟩
    simpa using h' _ (Spelling.call hfront h).loose
  | @atom kind o _ _ h =>
    obtain ⟨scalar, rfl, htoken⟩ | ⟨name, rfl, rfl⟩ := atom?_eq_some h
    · exact ⟨[⟨kind, o⟩], rfl, .literal htoken⟩
    · exact ⟨[⟨.identifier name, o⟩], rfl, .identifier⟩
  | relative => exact ⟨[_, _], rfl, .relative⟩
  | @group o _ o' _ _ _ _ ih =>
    obtain ⟨c, rfl, h⟩ := ih
    exact ⟨⟨.mark .leftParen, o⟩ :: (c ++ [⟨.mark .rightParen, o'⟩]), by simp,
      .wrapped (.parens h) rfl⟩
  | @array o _ _ _ _ _ ih =>
    obtain ⟨-, rfl, items, body, o', heq, h, rfl⟩ := ih
    cases heq
    refine ⟨⟨.mark .leftBracket, o⟩ :: (body ++ [⟨.mark .rightBracket, o'⟩]), rfl, ?_⟩
    exact Spelling.array h
  | @object o _ _ _ _ _ ih =>
    obtain ⟨-, rfl, entries, body, o', heq, h, rfl⟩ := ih
    cases heq
    refine ⟨⟨.mark .leftBrace, o⟩ :: (body ++ [⟨.mark .rightBrace, o'⟩]), rfl, ?_⟩
    exact Spelling.object h
  | @listEnd close o => exact ⟨[⟨.mark close, o⟩], rfl, [], [], o, rfl, .noItems, rfl⟩
  | @listLast close _ o _ _ _ _ _ ih =>
    obtain ⟨c, rfl, h⟩ := ih
    exact ⟨c ++ [⟨.mark close, o⟩], by simp, _, c, o, rfl, .lastItem h, rfl⟩
  | @listItem close _ o' _ _ _ _ _ _ _ _ _ _ ih ih' =>
    obtain ⟨-, rfl, items, body, o, heq, h', rfl⟩ := ih'
    obtain ⟨c, rfl, h⟩ := ih
    cases heq
    exact ⟨c ++ ⟨.mark .comma, o'⟩ :: (body ++ [⟨.mark close, o⟩]), by simp, _,
      c ++ ⟨.mark .comma, o'⟩ :: body, o, rfl, .item h h', by simp⟩
  | @fieldsEnd o => exact ⟨[⟨.mark .rightBrace, o⟩], rfl, [], [], o, rfl, .noEntries, rfl⟩
  | @fieldsLast kind o o' _ o'' _ _ _ _ named _ ih =>
    obtain ⟨c, rfl, h⟩ := ih
    exact ⟨⟨kind, o⟩ :: ⟨.mark .colon, o'⟩ :: (c ++ [⟨.mark .rightBrace, o''⟩]), by simp, _,
      ⟨kind, o⟩ :: ⟨.mark .colon, o'⟩ :: c, o'', rfl,
      .lastEntry (key?_eq_some_iff.mp named) h, rfl⟩
  | @fieldsItem kind o o' _ o'' _ _ _ _ _ _ _ named _ _ ih ih' =>
    obtain ⟨-, rfl, entries, body, o₁, heq, h', rfl⟩ := ih'
    obtain ⟨c, rfl, h⟩ := ih
    cases heq
    exact ⟨⟨kind, o⟩ :: ⟨.mark .colon, o'⟩ ::
        (c ++ ⟨.mark .comma, o''⟩ :: (body ++ [⟨.mark .rightBrace, o₁⟩])), by simp, _,
      ⟨kind, o⟩ :: ⟨.mark .colon, o'⟩ :: (c ++ ⟨.mark .comma, o''⟩ :: body), o₁, rfl,
      .entry (key?_eq_some_iff.mp named) h h', by simp⟩

def beforeEof (tokens : List Token) : List Token := tokens.takeWhile fun token => !token.kind.isEof

theorem isEof_of_mem_beforeEof {tokens : List Token} {token : Token}
    (h : token ∈ beforeEof tokens) : token.kind.isEof = false := by
  simpa using List.mem_takeWhile_imp h

theorem beforeEof_append {consumed after : List Token}
    (hconsumed : ∀ token ∈ consumed, token.kind.isEof = false)
    (hafter : (current after).kind.isEof = true) : beforeEof (consumed ++ after) = consumed := by
  rw [beforeEof, List.takeWhile_append_of_pos (by simpa using hconsumed), List.append_right_eq_self]
  cases after with
  | nil => rfl
  | cons token after => exact List.takeWhile_cons_of_neg (by simpa [current] using hafter)

/-- There is an end marker, and something before it. -/
theorem exists_closed_eq (tokens : List Token) :
    ∃ o after, closed tokens = beforeEof tokens ++ ⟨.eof, o⟩ :: after := by
  have hfirst (o : ℕ) (tokens : List Token) :
      ∃ o' after, tokens ++ [⟨.eof, o⟩] = beforeEof tokens ++ ⟨.eof, o'⟩ :: after := by
    induction tokens with
    | nil => exact ⟨o, [], rfl⟩
    | cons token tokens ih =>
      obtain ⟨o', after, ih⟩ := ih
      obtain ⟨kind, o₁⟩ := token
      cases kind with
      | eof => exact ⟨o₁, tokens ++ [⟨.eof, o⟩], rfl⟩
      | _ => exact ⟨o', after, congrArg (_ :: ·) ih⟩
  exact hfirst _ tokens

theorem beforeEof_closed (tokens : List Token) : beforeEof (closed tokens) = beforeEof tokens := by
  obtain ⟨o, after, hclosed⟩ := exists_closed_eq tokens
  rw [hclosed, beforeEof_append (fun token h => isEof_of_mem_beforeEof h) rfl]

/-- Whatever the parser gives is what the tokens before the first end marker spell. -/
theorem spelling_of_parseTokens {g : Grammar} {tokens : List Token} {tree : Expr}
    (h : g.parseTokens tokens = .ok tree) : Spelling .free (.tree tree) (beforeEof tokens) := by
  obtain ⟨s, hrun⟩ := parseWithin_eq_ok.mp h
  obtain ⟨n, rest, ⟨after, hreads, heof, -⟩, -⟩ := (run_eq_ok rfl rfl).mp hrun
  obtain ⟨consumed, hclosed, hspelling⟩ := hreads.spelt
  have hspelling : Spelling .free (.tree tree) consumed := hspelling
  rwa [← beforeEof_closed, hclosed, beforeEof_append hspelling.isEof_eq_false heof]

/-- Parentheses around a part, a comma after the last argument, and a token behind an end
marker. -/
theorem spelling_of_parseTokens_standard :
    let spelling : List Token :=
      [⟨.mark .leftParen, 0⟩, ⟨.identifier "a", 1⟩, ⟨.mark .pipe, 2⟩, ⟨.identifier "f", 3⟩,
        ⟨.mark .leftParen, 4⟩, ⟨.int 1, 5⟩, ⟨.mark .comma, 6⟩, ⟨.mark .rightParen, 7⟩,
        ⟨.mark .rightParen, 8⟩, ⟨.mark .leftBracket, 9⟩, ⟨.mark .dot, 10⟩, ⟨.identifier "x", 11⟩,
        ⟨.mark .rightBracket, 12⟩]
    let tree : Expr :=
      .filter (.transform (.identifier "a") "f" [.literal (.int 1)]) (.relative "x")
    Grammar.standard.parseTokens (spelling ++ [⟨.eof, 13⟩, ⟨.mark .comma, 14⟩]) = .ok tree ∧
      Spelling .free (.tree tree) spelling := by
  intro spelling tree
  have hparse : Grammar.standard.parseTokens (spelling ++ [⟨.eof, 13⟩, ⟨.mark .comma, 14⟩])
      = .ok tree := rfl
  exact ⟨hparse, spelling_of_parseTokens hparse⟩

end Parser

end Cohort
