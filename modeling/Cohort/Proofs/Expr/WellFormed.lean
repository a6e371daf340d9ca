import Cohort.Proofs.Expr.Dependence
import Mathlib

/-!
Trees that fit a grammar. Their evaluation never comes upon an operator that is missing: operators
that the grammar does not have make no difference to it, and whatever it fails with is raised by a
function of the grammar or is the want of a transform.
-/
namespace Cohort

namespace Grammar

/-- A grammar has the operators of another one, perhaps among others, and the same transforms. -/
structure Extends (g' g : Grammar) : Prop where
  unary : ∀ symbol, g.unary.contains symbol = true → g.unary.get? symbol = g'.unary.get? symbol
  binary : ∀ symbol, g.binary.contains symbol = true → g.binary.get? symbol = g'.binary.get? symbol
  transforms : ∀ name, g.transforms.get? name = g'.transforms.get? name

/-- A function of the grammar fails of its own accord. A short-circuit operator that passes on a
failure of its right operand does not. -/
inductive Raises (g : Grammar) (fault : EvalError) : Prop where
  | unary {symbol apply operand} (registered : g.unary.get? symbol = some apply)
    (fails : apply operand = .error fault)
  | eager {symbol precedence apply left right}
    (registered : g.binary.get? symbol = some ⟨precedence, .eager apply⟩)
    (fails : apply left right = .error fault)
  | shortCircuit {symbol precedence apply left right}
    (registered : g.binary.get? symbol = some ⟨precedence, .shortCircuit apply⟩)
    (fails : apply left right = .error fault) (own : right () ≠ .error fault)
  | transform {name apply subject arguments} (registered : g.transforms.get? name = some apply)
    (fails : apply subject arguments = .error fault)

end Grammar

namespace Expr
variable {g g' : Grammar} {scope : Scope} {tree : Expr} {fault : EvalError}

/-- A node is one that the parser may give under a grammar, its parts apart. -/
def Fits (g : Grammar) : Expr → Prop
  | .literal value => ∃ scalar, value = .scalar scalar ∧ scalar.kind ≠ .date
  | .member _ property false => ∃ name, property = .literal (.string name)
  | .member _ property true => property.hasRelative = false
  | .unary symbol _ => g.unary.contains symbol = true
  | .binary symbol _ _ => g.binary.contains symbol = true
  | .filter _ predicate => predicate.hasRelative = true
  | _ => True

def WellFormed (g : Grammar) (tree : Expr) : Prop := Everywhere (Fits g) tree

theorem Fits.sameMeaning {node : Expr} (h : Fits g node) (hext : g'.Extends g) (root : Value) :
    SameMeaning g g' root root node := by
  cases node with
  | unary symbol => exact hext.unary symbol h
  | binary symbol => exact hext.binary symbol h
  | transform _ name => exact hext.transforms name
  | _ => trivial

/-- Operators that its grammar does not have make no difference to a tree that fits it. -/
theorem WellFormed.eval_eq (h : WellFormed g tree) (hext : g'.Extends g) (scope : Scope) :
    eval g' scope tree = eval g scope tree :=
  (eval_congr (h.imp fun _ hfits => hfits.sameMeaning hext scope.root) fun _ => rfl).symm

/-- What the evaluation of a tree that fits a grammar may fail with. -/
def Explained (g : Grammar) (fault : EvalError) : Prop :=
  g.Raises fault ∨ ∃ name, g.transforms.get? name = none ∧ fault = .unknownTransform name

theorem exists_of_keepWhere_eq_error {test : Value → Outcome} {items : List Value}
    (h : keepWhere test items = .error fault) : ∃ item, test item = .error fault := by
  rw [keepWhere_eq_mapM] at h
  obtain h | ⟨tested, -, h⟩ := bind_eq_error h
  · obtain ⟨item, -, h⟩ := exists_of_mapM_eq_error h
    obtain h | ⟨value, -, h⟩ := bind_eq_error h
    · exact ⟨item, h⟩
    · cases h
  · cases h

theorem explained_of_unary {symbol : String} {operand : Expr}
    (hfits : Fits g (.unary symbol operand))
    (ih : eval g scope operand = .error fault → Explained g fault)
    (h : eval g scope (.unary symbol operand) = .error fault) : Explained g fault := by
  obtain ⟨apply, happly⟩ := Option.isSome_iff_exists.mp hfits
  rw [eval, happly] at h
  obtain h | ⟨value, -, h⟩ := bind_eq_error h
  · exact ih h
  · exact .inl (.unary happly h)

theorem explained_of_binary {symbol : String} {left right : Expr}
    (hfits : Fits g (.binary symbol left right))
    (ihl : eval g scope left = .error fault → Explained g fault)
    (ihr : eval g scope right = .error fault → Explained g fault)
    (h : eval g scope (.binary symbol left right) = .error fault) : Explained g fault := by
  obtain ⟨⟨precedence, rule⟩, hrule⟩ := Option.isSome_iff_exists.mp hfits
  rw [eval, hrule] at h
  obtain h | ⟨value, -, h⟩ := bind_eq_error h
  · exact ihl h
  cases rule with
  | eager apply =>
    obtain h | ⟨value', -, h⟩ := bind_eq_error h
    · exact ihr h
    · exact .inl (.eager hrule h)
  | shortCircuit apply =>
    by_cases hright : eval g scope right = .error fault
    · exact ihr hright
    · exact .inl (.shortCircuit hrule h hright)

/-- The evaluation of a tree that fits its grammar fails only where a function of the grammar does
or where a transform is missing, never for want of an operator. -/
theorem WellFormed.explained (h : WellFormed g tree) (heval : eval g scope tree = .error fault) :
    Explained g fault := by
  induction tree generalizing scope with
  | literal | identifier | relative => cases heval
  | member subject property _ ihs ihp =>
    obtain ⟨-, hs, hp⟩ := everywhere_member.mp h
    rw [eval] at heval
    obtain heval | ⟨value, -, heval⟩ := bind_eq_error heval
    · exact ihs hs heval
    · obtain heval | ⟨value', -, heval⟩ := bind_eq_error heval
      · exact ihp hp heval
      · cases heval
  | array items ih =>
    obtain ⟨-, hitems⟩ := everywhere_array.mp h
    rw [eval] at heval
    obtain heval | ⟨values, -, heval⟩ := bind_eq_error heval
    · obtain ⟨item, hmem, heval⟩ := exists_of_mapM_eq_error (evalItems_eq_mapM _ ▸ heval)
      exact ih item hmem (hitems item hmem) heval
    · cases heval
  | object entries ih =>
    obtain ⟨-, hentries⟩ := everywhere_object.mp h
    rw [eval] at heval
    obtain heval | ⟨values, -, heval⟩ := bind_eq_error heval
    · obtain ⟨entry, hmem, heval⟩ := exists_of_mapM_eq_error (evalEntries_eq_mapM _ ▸ heval)
      obtain heval | ⟨value, -, heval⟩ := bind_eq_error heval
      · exact ih entry hmem (hentries entry hmem) heval
      · cases heval
    · cases heval
  | unary symbol operand ih =>
    obtain ⟨hfits, hoperand⟩ := everywhere_unary.mp h
    exact explained_of_unary hfits (ih hoperand) heval
  | binary symbol left right ihl ihr =>
    obtain ⟨hfits, hl, hr⟩ := everywhere_binary.mp h
    exact explained_of_binary hfits (ihl hl) (ihr hr) heval
  | conditional test consequent alternate iht ihc iha =>
    obtain ⟨-, ht, hc, ha⟩ := everywhere_conditional.mp h
    rw [eval] at heval
    obtain heval | ⟨value, -, heval⟩ := bind_eq_error heval
    · exact iht ht heval
    · split_ifs at heval
      · exact ihc hc heval
      · exact iha ha heval
  | filter subject predicate ihs ihp =>
    obtain ⟨-, hs, hp⟩ := everywhere_filter.mp h
    rw [eval] at heval
    obtain heval | ⟨value, -, heval⟩ := bind_eq_error heval
    · exact ihs hs heval
    · obtain heval | ⟨kept, -, heval⟩ := bind_eq_error heval
      · obtain ⟨item, heval⟩ := exists_of_keepWhere_eq_error heval
        exact ihp hp heval
      · cases heval
  | transform subject name arguments ihs iha =>
    obtain ⟨-, hs, ha⟩ := everywhere_transform.mp h
    rw [eval] at heval
    obtain heval | ⟨value, -, heval⟩ := bind_eq_error heval
    · exact ihs hs heval
    · obtain heval | ⟨values, -, heval⟩ := bind_eq_error heval
      · obtain ⟨argument, hmem, heval⟩ := exists_of_mapM_eq_error (evalItems_eq_mapM _ ▸ heval)
        exact iha argument hmem (ha argument hmem) heval
      · split at heval
        next hmissing => exact .inr ⟨name, hmissing, (Except.error.inj heval).symm⟩
        next apply happly => exact .inl (.transform happly heval)

end Expr

end Cohort
