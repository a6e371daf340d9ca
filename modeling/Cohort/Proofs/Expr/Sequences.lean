import Cohort.Expr.Eval
import Mathlib

/-!
Evaluations in a row: they go on while there are values, and the first failure ends them.
-/
namespace Cohort.Expr

section Sequence
variable {α β ε : Type} {fault : ε} {xs : List α}

theorem bind_eq_error {x : Except ε α} {f : α → Except ε β} (h : (x >>= f) = .error fault) :
    x = .error fault ∨ ∃ a, x = .ok a ∧ f a = .error fault := by
  cases x with
  | error => exact .inl (congrArg Except.error (Except.error.inj h))
  | ok a => exact .inr ⟨a, rfl, h⟩

theorem mapM_congr {f f' : α → Except ε β} (h : ∀ x ∈ xs, f x = f' x) :
    xs.mapM f = xs.mapM f' := by
  induction xs with
  | nil => rfl
  | cons x xs ih =>
    rw [List.forall_mem_cons] at h
    rw [List.mapM_cons, List.mapM_cons, h.1, ih h.2]

theorem exists_of_mapM_eq_error {f : α → Except ε β} (h : xs.mapM f = .error fault) :
    ∃ x ∈ xs, f x = .error fault := by
  induction xs with
  | nil => cases h
  | cons x xs ih =>
    rw [List.mapM_cons] at h
    obtain h | ⟨b, -, h⟩ := bind_eq_error h
    · exact ⟨x, List.mem_cons_self, h⟩
    · obtain h | ⟨bs, -, h⟩ := bind_eq_error h
      · obtain ⟨y, hmem, hy⟩ := ih h
        exact ⟨y, List.mem_cons_of_mem _ hmem, hy⟩
      · cases h

end Sequence

variable {g : Grammar} {scope : Scope}

theorem evalItems_eq_mapM (items : List Expr) :
    evalItems g scope items = items.mapM (eval g scope) := by
  induction items with
  | nil => rfl
  | cons item items ih => rw [evalItems, List.mapM_cons, ih]

theorem evalEntries_eq_mapM (entries : List (String × Expr)) :
    evalEntries g scope entries =
      entries.mapM fun entry => do return (entry.1, ← eval g scope entry.2) := by
  induction entries with
  | nil => rfl
  | cons entry entries ih =>
    rw [evalEntries, List.mapM_cons, ih]
    cases eval g scope entry.2 <;> rfl

/-- A filter tests every item before it keeps any. -/
theorem keepWhere_eq_mapM (test : Value → Outcome) (items : List Value) :
    keepWhere test items = do
      let tested ← items.mapM fun item => do return (item, ← test item)
      return (tested.filter (·.2.truthy)).map (·.1) := by
  induction items with
  | nil => rfl
  | cons item items ih =>
    rw [keepWhere, List.mapM_cons, ih]
    cases test item with
    | error => rfl
    | ok keep =>
      cases items.mapM fun item => do return (item, ← test item) with
      | error => rfl
      | ok tested =>
        simp only [bind, Except.bind, pure, Except.pure, List.filter_cons]
        split <;> rfl

end Cohort.Expr
