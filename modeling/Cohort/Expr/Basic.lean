import Cohort.Value.Basic

/-! The tree of a filter expression. -/
namespace Cohort

/-- A filter expression. Operators and transforms are held by name, and a grammar gives them their
meaning when the tree is evaluated. -/
inductive Expr where
  | literal (value : Value)
  /-- A name in the context. -/
  | identifier (name : String)
  /-- A name in the element that a filter looks at. -/
  | relative (name : String)
  /-- A part of the subject; `computed` when it stands in brackets and not after a dot. -/
  | member (subject property : Expr) (computed : Bool)
  | array (items : List Expr)
  | object (entries : List (String × Expr))
  | unary (symbol : String) (operand : Expr)
  | binary (symbol : String) (left right : Expr)
  | conditional (test consequent alternate : Expr)
  /-- The items of the subject for which the predicate holds. -/
  | filter (subject predicate : Expr)
  | transform (subject : Expr) (name : String) (arguments : List Expr)

namespace Expr

mutual

/-- Whether something in the expression depends on the element that a filter looks at. A predicate
inside does not count: it looks at elements of its own. -/
def hasRelative : Expr → Bool
  | .literal _ | .identifier _ => false
  | .relative _ => true
  | .member subject property _ => subject.hasRelative || property.hasRelative
  | .array items => anyRelative items
  | .object entries => anyRelativeEntry entries
  | .unary _ operand => operand.hasRelative
  | .binary _ left right => left.hasRelative || right.hasRelative
  | .conditional test consequent alternate =>
    test.hasRelative || consequent.hasRelative || alternate.hasRelative
  | .filter subject _ => subject.hasRelative
  | .transform subject _ arguments => subject.hasRelative || anyRelative arguments

def anyRelative : List Expr → Bool
  | [] => false
  | item :: items => item.hasRelative || anyRelative items

def anyRelativeEntry : List (String × Expr) → Bool
  | [] => false
  | (_, value) :: entries => value.hasRelative || anyRelativeEntry entries

end

end Expr

end Cohort
