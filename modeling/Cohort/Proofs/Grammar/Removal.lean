import Cohort.Grammar.Standard
import Cohort.Proofs.Expr.Dependence
import Mathlib

/-!
A tree can outlive an operator that it uses. What it evaluates to without the operator is what it
evaluated to before, unless the evaluation comes to the operator, and then it stops there: no
outcome is replaced by another one. For that the operators that look at their right operand only
sometimes have to hand on what it comes to.
-/
namespace Cohort

/-- An outcome is kept, or the evaluation stops at a symbol that is no operator any more. -/
def StopsAt (symbol : String) {α : Type} (before after : Except EvalError α) : Prop :=
  after = before ∨ after = .error (.unknownOperator symbol)

namespace StopsAt
variable {symbol : String} {α β : Type} {x y : Except EvalError α}
  {f f' : α → Except EvalError β} {xs : List α}

theorem refl (x : Except EvalError α) : StopsAt symbol x x := .inl rfl

theorem stop (x : Except EvalError α) : StopsAt symbol x (.error (.unknownOperator symbol)) :=
  .inr rfl

theorem bind (h : StopsAt symbol x y) (hf : ∀ a, StopsAt symbol (f a) (f' a)) :
    StopsAt symbol (x >>= f) (y >>= f') := by
  obtain rfl | rfl := h
  · cases y with
    | error fault => exact refl _
    | ok a => exact hf a
  · exact stop _

theorem mapM (h : ∀ a ∈ xs, StopsAt symbol (f a) (f' a)) :
    StopsAt symbol (xs.mapM f) (xs.mapM f') := by
  induction xs with
  | nil => exact refl _
  | cons a xs ih =>
    obtain ⟨hhead, htail⟩ := List.forall_mem_cons.mp h
    rw [List.mapM_cons, List.mapM_cons]
    exact hhead.bind fun b => (ih htail).bind fun bs => refl _

theorem keepWhere {test test' : Value → Outcome}
    (h : ∀ item, StopsAt symbol (test item) (test' item)) (items : List Value) :
    StopsAt symbol (Cohort.keepWhere test items) (Cohort.keepWhere test' items) := by
  rw [Expr.keepWhere_eq_mapM, Expr.keepWhere_eq_mapM]
  exact (mapM fun item _ => (h item).bind fun _ => refl _).bind fun _ => refl _

theorem and (left : Value) {right right' : Unit → Outcome}
    (h : StopsAt symbol (right ()) (right' ())) :
    StopsAt symbol (Operators.and left right) (Operators.and left right') := by
  unfold Operators.and
  split
  · exact h
  · exact refl _

theorem or (left : Value) {right right' : Unit → Outcome}
    (h : StopsAt symbol (right ()) (right' ())) :
    StopsAt symbol (Operators.or left right) (Operators.or left right') := by
  unfold Operators.or
  split
  · exact refl _
  · exact h

/-- What succeeds afterwards has succeeded before, with the same value. -/
theorem eq_ok {a : α} (h : StopsAt symbol x y) (hy : y = .ok a) : x = .ok a := by
  obtain rfl | rfl := h
  · exact hy
  · cases hy

/-- What fails in another way has failed in that way before. -/
theorem eq_error {fault : EvalError} (h : StopsAt symbol x y) (hy : y = .error fault) :
    fault = .unknownOperator symbol ∨ x = .error fault := by
  obtain rfl | rfl := h
  · exact .inr hy
  · exact .inl (Except.error.inj hy).symm

end StopsAt

namespace Grammar
variable {g : Grammar}

/-- No operator leaves its right operand unevaluated but the two standard ones. -/
def StandardLogic (g : Grammar) : Prop :=
  ∀ symbol op apply, g.binary.get? symbol = some op → op.rule = .shortCircuit apply →
    apply = Operators.and ∨ apply = Operators.or

theorem get?_removeOp_binary (g : Grammar) (symbol other : String) :
    (g.removeOp symbol).binary.get? other = if other = symbol then none else g.binary.get? other :=
  Table.get?_erase ..

theorem get?_removeOp_unary (g : Grammar) (symbol other : String) :
    (g.removeOp symbol).unary.get? other = if other = symbol then none else g.unary.get? other :=
  Table.get?_erase ..

namespace StandardLogic

theorem insert_binary (hg : g.StandardLogic) (symbol : String) {op : BinaryOp}
    (hop : ∀ apply, op.rule = .shortCircuit apply →
      apply = Operators.and ∨ apply = Operators.or) :
    StandardLogic { g with binary := g.binary.insert symbol op } := by
  intro other op' apply hget hrule
  rw [Table.get?_insert] at hget
  split at hget
  next =>
    obtain rfl := Option.some.inj hget
    exact hop apply hrule
  next => exact hg other op' apply hget hrule

theorem addBinary (hg : g.StandardLogic) (symbol : String) (precedence : Int32)
    (apply : Value → Value → Outcome) : (g.addBinary symbol precedence apply).StandardLogic :=
  hg.insert_binary symbol fun _ h => by cases h

theorem addShortCircuit (hg : g.StandardLogic) (symbol : String) (precedence : Int32)
    {apply : Value → (Unit → Outcome) → Outcome}
    (happly : apply = Operators.and ∨ apply = Operators.or) :
    (g.addShortCircuit symbol precedence apply).StandardLogic :=
  hg.insert_binary symbol fun _ h => by
    cases h
    exact happly

theorem addUnary (hg : g.StandardLogic) (symbol : String) (apply : UnaryOp) :
    (g.addUnary symbol apply).StandardLogic := hg

theorem addOperators (hg : g.StandardLogic) : g.addOperators.StandardLogic :=
  hg
  |>.addShortCircuit "&&" _ (.inl rfl)
  |>.addShortCircuit "||" _ (.inr rfl)
  |>.addBinary "==" _ _
  |>.addBinary "!=" _ _
  |>.addBinary "<" _ _
  |>.addBinary "<=" _ _
  |>.addBinary ">" _ _
  |>.addBinary ">=" _ _
  |>.addBinary "in" _ _
  |>.addBinary "intersect" _ _
  |>.addBinary "+" _ _
  |>.addBinary "-" _ _
  |>.addBinary "*" _ _
  |>.addBinary "/" _ _
  |>.addBinary "//" _ _
  |>.addBinary "%" _ _
  |>.addBinary "^" _ _
  |>.addUnary "!" _

theorem standard : Grammar.standard.StandardLogic :=
  addOperators (g := .empty) fun _ _ _ hget => by cases hget

end StandardLogic

end Grammar

namespace Expr

def Applies (symbol : String) : Expr → Prop
  | .unary symbol' _ | .binary symbol' _ _ => symbol' = symbol
  | _ => False

variable {g g' : Grammar} {scope : Scope} {symbol : String}

theorem stopsAt_evalItems {items : List Expr}
    (h : ∀ item ∈ items, StopsAt symbol (eval g scope item) (eval g' scope item)) :
    StopsAt symbol (evalItems g scope items) (evalItems g' scope items) := by
  rw [evalItems_eq_mapM, evalItems_eq_mapM]
  exact .mapM h

theorem stopsAt_evalEntries {entries : List (String × Expr)}
    (h : ∀ entry ∈ entries, StopsAt symbol (eval g scope entry.2) (eval g' scope entry.2)) :
    StopsAt symbol (evalEntries g scope entries) (evalEntries g' scope entries) := by
  rw [evalEntries_eq_mapM, evalEntries_eq_mapM]
  exact .mapM fun entry hmem => (h entry hmem).bind fun _ => .refl _

/-- Evaluation goes on as before up to the first place where it needs the removed operator. -/
theorem stopsAt_eval (hg : g.StandardLogic) (scope : Scope) (tree : Expr) :
    StopsAt symbol (eval g scope tree) (eval (g.removeOp symbol) scope tree) := by
  induction tree generalizing scope with
  | literal | identifier | relative => exact .refl _
  | member subject property computed ihs ihp =>
    rw [eval, eval]
    exact (ihs scope).bind fun _ => (ihp scope).bind fun _ => .refl _
  | array items ih =>
    rw [eval, eval]
    exact (stopsAt_evalItems fun item hmem => ih item hmem scope).bind fun _ => .refl _
  | object entries ih =>
    rw [eval, eval]
    exact (stopsAt_evalEntries fun entry hmem => ih entry hmem scope).bind fun _ => .refl _
  | unary symbol' operand ih =>
    rw [eval, eval, Grammar.get?_removeOp_unary]
    split_ifs with hsymbol
    · subst hsymbol
      exact .stop _
    · cases g.unary.get? symbol' with
      | none => exact .refl _
      | some apply => exact (ih scope).bind fun _ => .refl _
  | binary symbol' left right ihl ihr =>
    rw [eval, eval, Grammar.get?_removeOp_binary]
    split_ifs with hsymbol
    · subst hsymbol
      exact .stop _
    · cases hop : g.binary.get? symbol' with
      | none => exact .refl _
      | some op =>
        refine (ihl scope).bind fun leftValue => ?_
        cases hrule : op.rule with
        | eager apply => exact (ihr scope).bind fun _ => .refl _
        | shortCircuit apply =>
          obtain rfl | rfl := hg symbol' op apply hop hrule
          · exact .and leftValue (ihr scope)
          · exact .or leftValue (ihr scope)
  | conditional test consequent alternate iht ihc iha =>
    rw [eval, eval]
    refine (iht scope).bind fun value => ?_
    cases value.truthy with
    | true => exact ihc scope
    | false => exact iha scope
  | filter subject predicate ihs ihp =>
    rw [eval, eval]
    exact (ihs scope).bind fun _ =>
      (StopsAt.keepWhere (fun item => ihp ⟨scope.root, some item⟩) _).bind fun _ => .refl _
  | transform subject name arguments ihs iha =>
    rw [eval, eval]
    exact (ihs scope).bind fun _ =>
      (stopsAt_evalItems fun argument hmem => iha argument hmem scope).bind fun _ => .refl _

theorem sameMeaning_removeOp (root : Value) {node : Expr} (h : ¬ node.Applies symbol) :
    SameMeaning (g.removeOp symbol) g root root node := by
  cases node with
  | unary => exact (g.get?_removeOp_unary symbol _).trans (if_neg h)
  | binary => exact (g.get?_removeOp_binary symbol _).trans (if_neg h)
  | _ => trivial

/-- A tree evaluates without an operator as it did with it, or it stops with the error that the
symbol is no operator, and it never does that if it does not apply the operator. So what it still
evaluates to it has evaluated to before, and what else stops it has stopped it before. -/
theorem eval_removeOp (hg : g.StandardLogic) (symbol : String) (scope : Scope) (tree : Expr) :
    let before := eval g scope tree
    let after := eval (g.removeOp symbol) scope tree
    (after = before ∨ after = .error (.unknownOperator symbol)) ∧
      (Everywhere (fun node => ¬ node.Applies symbol) tree → after = before) ∧
      (∀ value, after = .ok value → before = .ok value) ∧
      ∀ fault, after = .error fault → fault = .unknownOperator symbol ∨ before = .error fault := by
  intro before after
  have hstops : StopsAt symbol before after := stopsAt_eval hg scope tree
  refine ⟨hstops, fun hfree => ?_, fun _ => hstops.eq_ok, fun _ => hstops.eq_error⟩
  exact eval_congr (hfree.imp fun node hnode => sameMeaning_removeOp scope.root hnode) fun _ => rfl

/-- The same removal stops one branch of a tree and leaves the other one alone. -/
theorem eval_removeOp_standard :
    let tree : Expr := .binary "&&" (.identifier "a")
      (.binary "in" (.literal (Value.string "x")) (.identifier "b"))
    let root : Value := .object (.cons "a" trivial (Value.bool true) .nil)
    let removed := Grammar.standard.removeOp "in"
    Grammar.standard.StandardLogic ∧
      (eval removed ⟨root, none⟩ tree = eval .standard ⟨root, none⟩ tree ∨
        eval removed ⟨root, none⟩ tree = .error (.unknownOperator "in")) ∧
      eval removed ⟨root, none⟩ tree = .error (.unknownOperator "in") ∧
      eval removed ⟨Value.null, none⟩ tree = .ok Value.null := by
  intro tree root removed
  exact ⟨.standard, (eval_removeOp .standard "in" ⟨root, none⟩ tree).1, rfl, rfl⟩

end Expr

end Cohort
