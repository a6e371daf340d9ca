import Cohort.Expr.Parser
import Mathlib

/-!
What token lists spell, said by rules instead of by a program. A rule relates the tokens before a
phrase and those after it to the tree that the phrase stands for and to the number of levels that
are open at once within it. There is no fuel here, no state and no limit.
-/
namespace Cohort

namespace Expr

mutual

/-- The height of a tree: one for a leaf and for an empty collection. -/
def height : Expr → ℕ
  | .literal _ | .identifier _ | .relative _ => 1
  | .member subject property _ => max subject.height property.height + 1
  | .array items => tallest items + 1
  | .object entries => tallestEntry entries + 1
  | .unary _ operand => operand.height + 1
  | .binary _ left right => max left.height right.height + 1
  | .conditional test consequent alternate =>
    max (max test.height consequent.height) alternate.height + 1
  | .filter subject predicate => max subject.height predicate.height + 1
  | .transform subject _ arguments => max subject.height (tallest arguments) + 1

def tallest : List Expr → ℕ
  | [] => 0
  | item :: items => max item.height (tallest items)

def tallestEntry : List (String × Expr) → ℕ
  | [] => 0
  | (_, value) :: entries => max value.height (tallestEntry entries)

end

theorem height_pos (tree : Expr) : 0 < tree.height := by
  cases tree <;> simp [height]

theorem height_member_name (subject : Expr) (name : String) :
    (member subject (.literal (.string name)) false).height = subject.height + 1 := by
  have := subject.height_pos
  simp only [height]
  omega

theorem height_transform_nil (subject : Expr) (name : String) :
    (transform subject name []).height = subject.height + 1 := by
  rw [height, tallest, Nat.max_zero]

end Expr

namespace Parser

@[simp] theorem height_bracket (subject inner : Expr) :
    (bracket subject inner).height = max subject.height inner.height + 1 := by
  unfold bracket
  split_ifs <;> rw [Expr.height]

theorem height_of_atom? {kind : TokenKind} {tree : Expr} (h : atom? kind = some tree) :
    tree.height = 1 := by
  cases kind <;> simp only [atom?, Option.some.injEq, reduceCtorEq] at h <;> subst h <;>
    rw [Expr.height]

/-- The kinds of phrases. Those called tails go on after a tree that has been read. A list is read
as the array of its items, and fields are read as an object. -/
inductive Form where
  | expression
  | conditional
  | binary (least : Int32)
  | binaryTail (least : Int32) (left : Expr)
  | unary
  | suffixed
  | suffixes (subject : Expr)
  | primary
  | list (close : Mark)
  | fields

def suffixAt (tokens : List Token) : Bool :=
  startsWith .dot tokens || startsWith .leftBracket tokens || startsWith .pipe tokens

/-- An operator at the front of some tokens that binds at least as tight as `least`. -/
def Continues (g : Grammar) (least : Int32) (tokens : List Token) : Prop :=
  ∃ symbol precedence, binaryAt g tokens = some (symbol, precedence) ∧ least ≤ precedence

/-- The tree that a phrase of a form stands for, between the tokens before it and after it, and the
number of levels it opens. -/
inductive Reads (g : Grammar) : Form → List Token → List Token → Expr → ℕ → Prop where
  | expression {before after tree n} (h : Reads g .conditional before after tree n) :
    Reads g .expression before after tree (n + 1)
  | test {before after tree n} (h : Reads g (.binary Int32.minValue) before after tree n)
    (stop : startsWith .question after = false) : Reads g .conditional before after tree n
  | conditional {before mid mid' after o o' test consequent alternate n₁ n₂ n₃}
    (h₁ : Reads g (.binary Int32.minValue) before (⟨.mark .question, o⟩ :: mid) test n₁)
    (h₂ : Reads g .expression mid (⟨.mark .colon, o'⟩ :: mid') consequent n₂)
    (h₃ : Reads g .expression mid' after alternate n₃) :
    Reads g .conditional before after (.conditional test consequent alternate)
      (max (max n₁ n₂) n₃)
  | binary {least before mid after left tree n m} (h : Reads g .unary before mid left n)
    (tail : Reads g (.binaryTail least left) mid after tree m) :
    Reads g (.binary least) before after tree (max n m)
  | binaryStop {least left after} (stop : ¬ Continues g least after) :
    Reads g (.binaryTail least left) after after left 0
  | binaryStep {least left symbol o precedence mid mid' after right tree n m}
    (registered : g.precedence? symbol = some precedence) (tight : least ≤ precedence)
    (h : Reads g (.binary (tighter precedence)) mid mid' right n)
    (tail : Reads g (.binaryTail least (.binary symbol left right)) mid' after tree m) :
    Reads g (.binaryTail least left) (⟨.operator symbol, o⟩ :: mid) after tree (max n m)
  | unary {symbol o mid after operand n} (registered : g.isUnary symbol = true)
    (h : Reads g .unary mid after operand n) :
    Reads g .unary (⟨.operator symbol, o⟩ :: mid) after (.unary symbol operand) (n + 1)
  | operand {before after tree n} (bare : unaryAt g before = none)
    (h : Reads g .suffixed before after tree n) : Reads g .unary before after tree n
  | suffixed {before mid after subject tree n m} (h : Reads g .primary before mid subject n)
    (tail : Reads g (.suffixes subject) mid after tree m) :
    Reads g .suffixed before after tree (max n m)
  | suffixStop {subject after} (stop : suffixAt after = false) :
    Reads g (.suffixes subject) after after subject 0
  | member {subject o name o' mid after tree n}
    (tail : Reads g (.suffixes (.member subject (.literal (.string name)) false)) mid after tree
      n) :
    Reads g (.suffixes subject) (⟨.mark .dot, o⟩ :: ⟨.identifier name, o'⟩ :: mid) after tree n
  | bracket {subject o mid o' mid' after inner tree n m}
    (h : Reads g .expression mid (⟨.mark .rightBracket, o'⟩ :: mid') inner n)
    (tail : Reads g (.suffixes (bracket subject inner)) mid' after tree m) :
    Reads g (.suffixes subject) (⟨.mark .leftBracket, o⟩ :: mid) after tree (max n m)
  | transform {subject o name o' mid after tree n} (stop : startsWith .leftParen mid = false)
    (tail : Reads g (.suffixes (.transform subject name [])) mid after tree n) :
    Reads g (.suffixes subject) (⟨.mark .pipe, o⟩ :: ⟨.identifier name, o'⟩ :: mid) after tree n
  | call {subject o name o' o'' mid mid' after arguments tree n m}
    (h : Reads g (.list .rightParen) mid mid' (.array arguments) n)
    (tail : Reads g (.suffixes (.transform subject name arguments)) mid' after tree m) :
    Reads g (.suffixes subject)
      (⟨.mark .pipe, o⟩ :: ⟨.identifier name, o'⟩ :: ⟨.mark .leftParen, o''⟩ :: mid) after tree
      (max n m)
  | atom {kind o after tree} (h : atom? kind = some tree) :
    Reads g .primary (⟨kind, o⟩ :: after) after tree 0
  | relative {o name o' after} :
    Reads g .primary (⟨.mark .dot, o⟩ :: ⟨.identifier name, o'⟩ :: after) after (.relative name) 0
  | group {o mid o' after tree n}
    (h : Reads g .expression mid (⟨.mark .rightParen, o'⟩ :: after) tree n) :
    Reads g .primary (⟨.mark .leftParen, o⟩ :: mid) after tree n
  | array {o mid after items n} (h : Reads g (.list .rightBracket) mid after (.array items) n) :
    Reads g .primary (⟨.mark .leftBracket, o⟩ :: mid) after (.array items) n
  | object {o mid after entries n} (h : Reads g .fields mid after (.object entries) n) :
    Reads g .primary (⟨.mark .leftBrace, o⟩ :: mid) after (.object entries) n
  | listEnd {close o after} :
    Reads g (.list close) (⟨.mark close, o⟩ :: after) after (.array []) 0
  | listLast {close before o after item n} (more : startsWith close before = false)
    (h : Reads g .expression before (⟨.mark close, o⟩ :: after) item n) :
    Reads g (.list close) before after (.array [item]) n
  | listItem {close before o mid after item items n m} (more : startsWith close before = false)
    (other : close ≠ .comma) (h : Reads g .expression before (⟨.mark .comma, o⟩ :: mid) item n)
    (tail : Reads g (.list close) mid after (.array items) m) :
    Reads g (.list close) before after (.array (item :: items)) (max n m)
  | fieldsEnd {o after} : Reads g .fields (⟨.mark .rightBrace, o⟩ :: after) after (.object []) 0
  | fieldsLast {kind o o' mid o'' after key value n} (named : key? kind = some key)
    (h : Reads g .expression mid (⟨.mark .rightBrace, o''⟩ :: after) value n) :
    Reads g .fields (⟨kind, o⟩ :: ⟨.mark .colon, o'⟩ :: mid) after (.object [(key, value)]) n
  | fieldsItem {kind o o' mid o'' mid' after key value entries n m} (named : key? kind = some key)
    (h : Reads g .expression mid (⟨.mark .comma, o''⟩ :: mid') value n)
    (tail : Reads g .fields mid' after (.object entries) m) :
    Reads g .fields (⟨kind, o⟩ :: ⟨.mark .colon, o'⟩ :: mid) after
      (.object ((key, value) :: entries)) (max n m)

namespace Form

def begun : Form → ℕ
  | .binaryTail _ left => left.height
  | .suffixes subject => subject.height
  | _ => 0

def shortest : Form → ℕ
  | .binaryTail _ _ | .suffixes _ => 0
  | _ => 1

end Form

namespace Reads
variable {g : Grammar} {form : Form} {before after : List Token} {tree : Expr} {n : ℕ}

theorem length_le (h : Reads g form before after tree n) :
    after.length + form.shortest ≤ before.length := by
  induction h <;> simp only [Form.shortest, List.length_cons] at * <;> omega

/-- A tail builds on the tree that it goes on after. -/
theorem begun_le_height (h : Reads g form before after tree n) : form.begun ≤ tree.height := by
  induction h with
  | binaryStop | suffixStop => exact le_rfl
  | binaryStep _ _ _ _ _ ih | member _ ih | transform _ _ ih | call _ _ _ ih =>
    simp only [Form.begun, Expr.height] at ih ⊢
    omega
  | bracket _ _ _ ih =>
    simp only [Form.begun, height_bracket] at ih ⊢
    omega
  | _ => exact Nat.zero_le _

end Reads

end Parser

end Cohort
