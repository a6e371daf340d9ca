import Cohort.Expr.Eval
import Cohort.Grammar.Standard
import Mathlib

/-!
The algebra of the logical operators. They hand on the operand that decides, and evaluate the right
one only where the left one leaves the answer open. So each of their laws holds of what operands
come to, failures among them: an operand that one side leaves alone is left alone by the other side
as well. The laws of a grammar ask of it only what its logical operators are, whatever else it has.
-/
namespace Cohort

@[simp] theorem Value.truthy_bool (b : Bool) : (Value.bool b).truthy = b := rfl

namespace Outcome
variable {v : Value} {y : Outcome}

def conj (x y : Outcome) : Outcome := do Operators.and (← x) fun _ => y

def disj (x y : Outcome) : Outcome := do Operators.or (← x) fun _ => y

def neg (x : Outcome) : Outcome := do Operators.not (← x)

def choose (x y z : Outcome) : Outcome := do if (← x).truthy then y else z

section Steps
variable (fault : EvalError) (y z : Outcome)

@[simp] theorem conj_error : conj (.error fault) y = .error fault := rfl

@[simp] theorem disj_error : disj (.error fault) y = .error fault := rfl

@[simp] theorem neg_error : neg (.error fault) = .error fault := rfl

@[simp] theorem choose_error : choose (.error fault) y z = .error fault := rfl

theorem conj_ok (v : Value) : conj (.ok v) y = if v.truthy then y else .ok v := rfl

theorem disj_ok (v : Value) : disj (.ok v) y = if v.truthy then .ok v else y := rfl

@[simp] theorem neg_ok (v : Value) : neg (.ok v) = .ok (.bool (!v.truthy)) := rfl

theorem choose_ok (v : Value) : choose (.ok v) y z = if v.truthy then y else z := rfl

end Steps

theorem conj_assoc (x y z : Outcome) : conj (conj x y) z = conj x (conj y z) := by
  cases x with
  | error fault => simp
  | ok v => cases h : v.truthy <;> simp [conj_ok, h]

theorem disj_assoc (x y z : Outcome) : disj (disj x y) z = disj x (disj y z) := by
  cases x with
  | error fault => simp
  | ok v => cases h : v.truthy <;> simp [disj_ok, h]

/-- Where the left operand decides, its negation is the boolean that decides the other way. -/
theorem neg_conj (x y : Outcome) : neg (conj x y) = disj (neg x) (neg y) := by
  cases x with
  | error fault => simp
  | ok v => cases h : v.truthy <;> simp [conj_ok, disj_ok, h]

theorem neg_disj (x y : Outcome) : neg (disj x y) = conj (neg x) (neg y) := by
  cases x with
  | error fault => simp
  | ok v => cases h : v.truthy <;> simp [conj_ok, disj_ok, h]

theorem choose_neg (x y z : Outcome) : choose (neg x) y z = choose x z y := by
  cases x with
  | error fault => simp
  | ok v => cases h : v.truthy <;> simp [choose_ok, h]

end Outcome

/-- The logical operators are the standard ones, at any precedence. -/
structure Grammar.HasLogic (g : Grammar) : Prop where
  and : ∃ precedence, g.binary.get? "&&" = some ⟨precedence, .shortCircuit Operators.and⟩
  or : ∃ precedence, g.binary.get? "||" = some ⟨precedence, .shortCircuit Operators.or⟩
  not : g.unary.get? "!" = some Operators.not

namespace Expr
open Outcome (conj disj neg choose)
variable {g : Grammar}

section Outcomes
variable (h : g.HasLogic) (scope : Scope) (a b c : Expr)

theorem eval_conditional :
    eval g scope (.conditional a b c) = choose (eval g scope a) (eval g scope b)
      (eval g scope c) := by
  rw [eval]
  rfl

include h

theorem eval_conj :
    eval g scope (.binary "&&" a b) = conj (eval g scope a) (eval g scope b) := by
  obtain ⟨precedence, hand⟩ := h.and
  rw [eval, hand]
  rfl

theorem eval_disj :
    eval g scope (.binary "||" a b) = disj (eval g scope a) (eval g scope b) := by
  obtain ⟨precedence, hor⟩ := h.or
  rw [eval, hor]
  rfl

theorem eval_neg : eval g scope (.unary "!" a) = neg (eval g scope a) := by
  rw [eval, h.not]
  rfl

end Outcomes

/-- Chains of one logical operator may be grouped either way, a negation may be moved into their
operands, and a choice may be turned around, with the same value or the same failure, whatever the
operands are and wherever they are evaluated. -/
theorem logical_laws (h : g.HasLogic) (scope : Scope) (a b c : Expr) :
    eval g scope (.binary "&&" (.binary "&&" a b) c)
      = eval g scope (.binary "&&" a (.binary "&&" b c)) ∧
    eval g scope (.binary "||" (.binary "||" a b) c)
      = eval g scope (.binary "||" a (.binary "||" b c)) ∧
    eval g scope (.unary "!" (.binary "&&" a b))
      = eval g scope (.binary "||" (.unary "!" a) (.unary "!" b)) ∧
    eval g scope (.unary "!" (.binary "||" a b))
      = eval g scope (.binary "&&" (.unary "!" a) (.unary "!" b)) ∧
    eval g scope (.conditional (.unary "!" a) b c) = eval g scope (.conditional a c b) := by
  simp only [eval_conj h, eval_disj h, eval_neg h, eval_conditional]
  exact ⟨Outcome.conj_assoc .., Outcome.disj_assoc .., Outcome.neg_conj .., Outcome.neg_disj ..,
    Outcome.choose_neg ..⟩

/-- With one more operator and an operand that fails. It is reached behind a value that counts as
true, and left alone behind one that counts as false. -/
theorem logical_laws_extended :
    let g := Grammar.standard.addBinary "??" 15 fun left _ => .ok left
    let scope : Scope := ⟨.object (.cons "one" trivial (Value.int 1) .nil), none⟩
    let one : Expr := .identifier "one"
    let missing : Expr := .identifier "missing"
    let fails : Expr := .binary "intersect" (.binary "??" one missing) missing
    let fault : EvalError := .typeError (.intersection .integer .null)
    g.HasLogic ∧
      eval g scope (.binary "||" (.unary "!" missing) (.unary "!" fails))
        = .ok (Value.bool true) ∧
      eval g scope (.binary "||" (.unary "!" one) (.unary "!" fails)) = .error fault ∧
      eval g scope (.binary "&&" one (.binary "&&" missing fails)) = .ok Value.null := by
  intro g scope one missing fails fault
  have hlogic : g.HasLogic := ⟨⟨_, rfl⟩, ⟨_, rfl⟩, rfl⟩
  have hleft : eval g scope (.unary "!" (.binary "&&" missing fails)) = .ok (Value.bool true) :=
    rfl
  have hright : eval g scope (.unary "!" (.binary "&&" one fails)) = .error fault := rfl
  have hchain : eval g scope (.binary "&&" (.binary "&&" one missing) fails) = .ok Value.null :=
    rfl
  obtain ⟨hassoc, -⟩ := logical_laws hlogic scope one missing fails
  obtain ⟨-, -, hmissing, -⟩ := logical_laws hlogic scope missing fails one
  obtain ⟨-, -, hone, -⟩ := logical_laws hlogic scope one fails one
  exact ⟨hlogic, hmissing.symm.trans hleft, hone.symm.trans hright, hassoc.symm.trans hchain⟩

end Expr

end Cohort
