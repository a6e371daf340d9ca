import Cohort.Expr.Eval
import Cohort.Grammar.Standard
import Mathlib

/-!
What a binary operator makes of two values. An operator that gets both operands as values computes
the same from them whatever expressions they come from and wherever these are evaluated, so it is
known by what it computes.
-/
namespace Cohort.Grammar

variable {g : Grammar} {symbol : String} {precedence : Int32} {a b value : Value}

/-- An operator gives a value for two others, whatever expressions these come from. -/
def Gives (g : Grammar) (symbol : String) (a b value : Value) : Prop :=
  ∀ scope left right, Expr.eval g scope left = .ok a → Expr.eval g scope right = .ok b →
    Expr.eval g scope (.binary symbol left right) = .ok value

def Holds (g : Grammar) (symbol : String) (a b : Value) : Prop := g.Gives symbol a b (.bool true)

def Fails (g : Grammar) (symbol : String) (a b : Value) : Prop := g.Gives symbol a b (.bool false)

def Refuses (g : Grammar) (symbol : String) (a b : Value) (fault : EvalError) : Prop :=
  ∀ scope left right, Expr.eval g scope left = .ok a → Expr.eval g scope right = .ok b →
    Expr.eval g scope (.binary symbol left right) = .error fault

section Eager
variable {apply : Value → Value → Outcome}
  (h : g.binary.get? symbol = some ⟨precedence, .eager apply⟩)
include h

theorem eval_binary {scope : Scope} {left right : Expr} (hleft : Expr.eval g scope left = .ok a)
    (hright : Expr.eval g scope right = .ok b) :
    Expr.eval g scope (.binary symbol left right) = apply a b := by
  rw [Expr.eval, h]
  simp only [hleft, hright]
  rfl

/-- Literals are enough to see what an operator comes to. -/
theorem forall_eval_iff {outcome : Outcome} :
    (∀ scope left right, Expr.eval g scope left = .ok a → Expr.eval g scope right = .ok b →
      Expr.eval g scope (.binary symbol left right) = outcome) ↔ apply a b = outcome := by
  constructor
  · intro hall
    have hliteral (value : Value) : Expr.eval g ⟨.null, none⟩ (.literal value) = .ok value := by
      rw [Expr.eval]
    rw [← eval_binary h (hliteral a) (hliteral b)]
    exact hall _ _ _ (hliteral a) (hliteral b)
  · intro happly scope left right hleft hright
    rw [eval_binary h hleft hright, happly]

theorem gives_iff : g.Gives symbol a b value ↔ apply a b = .ok value := forall_eval_iff h

theorem refuses_iff {fault : EvalError} :
    g.Refuses symbol a b fault ↔ apply a b = .error fault := forall_eval_iff h

end Eager

section Tests
variable {test : Value → Value → Bool}
  (h : g.binary.get? symbol = some ⟨precedence, .eager fun a b => .ok (.bool (test a b))⟩)
include h

theorem holds_iff : g.Holds symbol a b ↔ test a b = true := by
  rw [Holds, gives_iff h]
  simp

theorem fails_iff : g.Fails symbol a b ↔ test a b = false := by
  rw [Fails, gives_iff h]
  simp

theorem holds_or_fails : g.Holds symbol a b ∨ g.Fails symbol a b := by
  rw [holds_iff h, fails_iff h]
  exact Bool.eq_false_or_eq_true _

end Tests

end Cohort.Grammar
