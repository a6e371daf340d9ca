import Cohort.Grammar.Standard
import Cohort.Proofs.Expr.Sequences
import Mathlib

/-!
Filters in a row. A filter has a value when its test has one on every item, and then it keeps the
items on which the test counts as true. So a second filter may be put into the test of the first
one, behind a logical and, which leaves it alone where the first test does not hold.
-/
namespace Cohort

namespace Outcome

def Succeeds (outcome : Outcome) : Prop := ∃ value, outcome = .ok value

def holds : Outcome → Bool
  | .ok value => value.truthy
  | .error _ => false

@[simp] theorem succeeds_ok (value : Value) : Succeeds (.ok value) := ⟨value, rfl⟩

@[simp] theorem not_succeeds_error (fault : EvalError) : ¬ Succeeds (.error fault) :=
  fun ⟨_, h⟩ => nomatch h

@[simp] theorem holds_ok (value : Value) : holds (.ok value) = value.truthy := rfl

@[simp] theorem holds_error (fault : EvalError) : holds (.error fault) = false := rfl

end Outcome

open Outcome (Succeeds holds)

section Kept
variable {test test' : Value → Outcome} {items kept : List Value}

/-- A test that fails on one item fails for all of them; otherwise an item is kept or dropped by
what the test says of it, whatever the other items are. -/
theorem keepWhere_eq_ok_iff :
    keepWhere test items = .ok kept ↔
      (∀ item ∈ items, Succeeds (test item)) ∧
        kept = items.filter fun item => holds (test item) := by
  induction items generalizing kept with
  | nil => simp [keepWhere, eq_comm]
  | cons item items ih =>
    rw [keepWhere, List.forall_mem_cons, List.filter_cons]
    cases htest : test item with
    | error fault => simp [bind, Except.bind]
    | ok value =>
      cases hrest : keepWhere test items with
      | error fault =>
        have hnot : ¬ ∀ item ∈ items, Succeeds (test item) := by
          intro h
          cases hrest.symm.trans (ih.mpr ⟨h, rfl⟩)
        simp [bind, Except.bind, hnot]
      | ok others =>
        obtain ⟨hall, rfl⟩ := ih.mp hrest
        simp only [bind, Except.bind, pure, Except.pure, Outcome.holds_ok, Except.ok.injEq,
          Outcome.succeeds_ok, true_and]
        rw [and_iff_right hall]
        exact eq_comm

def both (test test' : Value → Outcome) (item : Value) : Outcome := do
  Operators.and (← test item) fun _ => test' item

theorem succeeds_both {item : Value} :
    Succeeds (both test test' item) ↔
      Succeeds (test item) ∧ (holds (test item) = true → Succeeds (test' item)) := by
  unfold both
  cases test item with
  | error fault => simp [bind, Except.bind]
  | ok value => cases htruthy : value.truthy <;> simp [bind, Except.bind, Operators.and, htruthy]

/-- Both tests decide together: the one that does not hold gives the value. -/
theorem holds_both (item : Value) :
    holds (both test test' item) = (holds (test item) && holds (test' item)) := by
  unfold both
  cases test item with
  | error fault => rfl
  | ok value => cases htruthy : value.truthy <;> simp [bind, Except.bind, Operators.and, htruthy]

/-- Keeping items by one test and then by another is keeping them by both at once. -/
theorem keepWhere_both :
    keepWhere (both test test') items = .ok kept ↔
      ∃ first, keepWhere test items = .ok first ∧ keepWhere test' first = .ok kept := by
  simp only [keepWhere_eq_ok_iff, succeeds_both, holds_both]
  constructor
  · rintro ⟨hboth, rfl⟩
    refine ⟨_, ⟨fun item hmem => (hboth item hmem).1, rfl⟩, fun item hmem => ?_, ?_⟩
    · obtain ⟨hmem, hholds⟩ := List.mem_filter.mp hmem
      exact (hboth item hmem).2 hholds
    · rw [List.filter_filter]
      simp only [Bool.and_comm]
  · rintro ⟨_, ⟨hfirst, rfl⟩, hsecond, rfl⟩
    refine ⟨fun item hmem => ⟨hfirst item hmem, fun hholds => ?_⟩, ?_⟩
    · exact hsecond item (List.mem_filter.mpr ⟨hmem, hholds⟩)
    · rw [List.filter_filter]
      simp only [Bool.and_comm]

theorem sublist_of_keepWhere (h : keepWhere test items = .ok kept) : kept.Sublist items := by
  obtain ⟨-, rfl⟩ := keepWhere_eq_ok_iff.mp h
  exact List.filter_sublist

theorem keepWhere_of_kept (h : keepWhere test items = .ok kept) :
    keepWhere test kept = .ok kept := by
  obtain ⟨hall, rfl⟩ := keepWhere_eq_ok_iff.mp h
  refine keepWhere_eq_ok_iff.mpr ⟨fun item hmem => hall item (List.mem_filter.mp hmem).1, ?_⟩
  simp [List.filter_filter]

end Kept

namespace Expr
variable {g : Grammar} {scope : Scope} {subject predicate predicate' : Expr} {value : Value}

/-- A filter gives an array of what it keeps of its subject. -/
theorem eval_filter_eq_ok_iff :
    eval g scope (.filter subject predicate) = .ok value ↔
      ∃ found kept, eval g scope subject = .ok found ∧
        keepWhere (fun item => eval g ⟨scope.root, some item⟩ predicate) found.elements = .ok kept ∧
          value = .array kept := by
  rw [eval]
  cases eval g scope subject with
  | error fault => simp [bind, Except.bind]
  | ok found =>
    cases hkept : keepWhere (fun item => eval g ⟨scope.root, some item⟩ predicate)
        found.elements with
    | error fault => simp [bind, Except.bind, hkept]
    | ok kept => simp [bind, Except.bind, pure, Except.pure, hkept, eq_comm]

/-- The logical and of two predicates is their test of both. -/
theorem eval_and {precedence : Int32}
    (h : g.binary.get? "&&" = some ⟨precedence, .shortCircuit Operators.and⟩) (root : Value) :
    (fun item => eval g ⟨root, some item⟩ (.binary "&&" predicate predicate')) =
      both (fun item => eval g ⟨root, some item⟩ predicate)
        fun item => eval g ⟨root, some item⟩ predicate' := by
  funext item
  rw [eval, h]
  rfl

/-- A filter of a filter has the value of the one filter for which both predicates have to hold,
and has none where that has none. What a filter keeps comes in the order of its subject, each item
as often as it stood there at most, and filtering once more changes nothing. -/
theorem eval_filter_filter {precedence : Int32}
    (h : g.binary.get? "&&" = some ⟨precedence, .shortCircuit Operators.and⟩) (scope : Scope)
    (subject predicate predicate' : Expr) :
    (∀ value, eval g scope (.filter (.filter subject predicate) predicate') = .ok value ↔
      eval g scope (.filter subject (.binary "&&" predicate predicate')) = .ok value) ∧
    ∀ value, eval g scope (.filter subject predicate) = .ok value →
      (∃ found kept, eval g scope subject = .ok found ∧ value = .array kept ∧
        kept.Sublist (match found with
          | .array items => items
          | .null => []
          | other => [other])) ∧
      eval g scope (.filter (.filter subject predicate) predicate) = .ok value := by
  refine ⟨fun value => ?_, fun value hvalue => ?_⟩
  · simp only [eval_filter_eq_ok_iff, eval_and h, keepWhere_both]
    constructor
    · rintro ⟨_, kept, ⟨found, first, hfound, hfirst, rfl⟩, hkept, rfl⟩
      exact ⟨found, kept, hfound, ⟨first, hfirst, hkept⟩, rfl⟩
    · rintro ⟨found, kept, hfound, ⟨first, hfirst, hkept⟩, rfl⟩
      exact ⟨.array first, kept, ⟨found, first, hfound, hfirst, rfl⟩, hkept, rfl⟩
  · obtain ⟨found, kept, hfound, hkept, rfl⟩ := eval_filter_eq_ok_iff.mp hvalue
    exact ⟨⟨found, kept, hfound, rfl, sublist_of_keepWhere hkept⟩,
      eval_filter_eq_ok_iff.mpr ⟨.array kept, kept, hvalue, keepWhere_of_kept hkept, rfl⟩⟩

/-- The first predicate is null on an item that the second one fails on, and the values of both are
numbers where they are not null. -/
theorem eval_filter_filter_standard :
    let subject : Expr := .identifier "addons"
    let sized : Expr := .relative "size"
    let uneven : Expr := .binary "%" (.relative "size") (.literal (Value.int 2))
    let even : Value := .object (.cons "size" trivial (Value.int 4) .nil)
    let odd : Value := .object (.cons "size" trivial (Value.int 3) .nil)
    let root : Value := .object (.cons "addons" trivial
      (Value.array [even, odd, Value.string "none", odd]) .nil)
    Grammar.standard.binary.get? "&&"
        = some ⟨Operators.logicalPrecedence, .shortCircuit Operators.and⟩ ∧
      eval .standard ⟨root, none⟩ (.filter subject (.binary "&&" sized uneven))
        = .ok (.array [odd, odd]) ∧
      eval .standard ⟨root, none⟩ (.filter (.filter subject sized) uneven)
        = .ok (.array [odd, odd]) ∧
      ∃ fault, eval .standard ⟨root, none⟩ (.filter subject uneven) = .error fault := by
  intro subject sized uneven even odd root
  have hand : Grammar.standard.binary.get? "&&"
      = some ⟨Operators.logicalPrecedence, .shortCircuit Operators.and⟩ := rfl
  have hfused : eval .standard ⟨root, none⟩ (.filter subject (.binary "&&" sized uneven))
      = .ok (.array [odd, odd]) := rfl
  exact ⟨hand, hfused,
    ((eval_filter_filter hand ⟨root, none⟩ subject sized uneven).1 _).mpr hfused, _, rfl⟩

end Expr

end Cohort
