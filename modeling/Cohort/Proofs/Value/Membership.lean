import Cohort.Proofs.Grammar.Application
import Cohort.Proofs.Value.Equality
import Mathlib

/-!
What two arrays have in common. The items of one array that are in the other are picked by the same
question that membership asks. Because equality is symmetric, an item that is picked on one side has
an equal one that is picked on the other, which is all that is left of sets here: equality does not
carry over from item to item, and what is picked on the two sides may differ in number.
-/
namespace Cohort.Value
open Cohort.Grammar (standard gives_iff holds_iff)
open Cohort.Operators (contains)
variable {l r : List Value} {x : Value}

/-- The items of an array that are in another, as often and in the order as they are there. -/
def common (l r : List Value) : List Value := l.filter (contains (array r))

theorem contains_array : contains (array r) x = true ↔ ∃ y ∈ r, y.looseEq x = true :=
  List.any_eq_true

theorem mem_common : x ∈ common l r ↔ x ∈ l ∧ ∃ y ∈ r, y.looseEq x = true :=
  List.mem_filter.trans (and_congr_right' contains_array)

/-- All items that are picked would be picked again. -/
theorem common_common (l r : List Value) : common (common l r) r = common l r := by
  rw [common, common, List.filter_filter]
  simp only [Bool.and_self]

/-- The item that made an item be picked is picked on the other side. -/
theorem contains_common_of_mem (h : x ∈ common l r) : contains (array (common r l)) x = true := by
  obtain ⟨hx, y, hy, hyx⟩ := mem_common.mp h
  have hxy : x.looseEq y = true := (looseEq_comm x y).trans hyx
  exact contains_array.mpr ⟨y, mem_common.mpr ⟨hy, x, hx, hxy⟩, hyx⟩

theorem gives_memberOf : standard.Gives "in" x (array r) (bool (contains (array r) x)) :=
  (gives_iff rfl).mpr rfl

theorem holds_memberOf : standard.Holds "in" x (array r) ↔ contains (array r) x = true :=
  (holds_iff rfl).trans .rfl

theorem gives_intersect : standard.Gives "intersect" (array l) (array r) (array (common l r)) :=
  (gives_iff rfl).mpr rfl

/-- The intersection of two arrays keeps those items of the first that are in the second, and keeps
all of them when it is made again. Each of its items is in the intersection the other way around. -/
theorem intersect_laws (l r : List Value) :
    (∀ x, standard.Gives "in" x (array r) (bool (contains (array r) x))) ∧
    standard.Gives "intersect" (array l) (array r) (array (l.filter (contains (array r)))) ∧
    standard.Gives "intersect" (array (common l r)) (array r) (array (common l r)) ∧
    standard.Gives "intersect" (array r) (array l) (array (common r l)) ∧
    (∀ x ∈ common l r, standard.Holds "in" x (array (common r l))) ∧
    ∀ y ∈ common r l, standard.Holds "in" y (array (common l r)) := by
  refine ⟨fun x => gives_memberOf, gives_intersect, ?again, gives_intersect,
    fun x hx => holds_memberOf.mpr (contains_common_of_mem hx),
    fun y hy => holds_memberOf.mpr (contains_common_of_mem hy)⟩
  case again =>
    have h := gives_intersect (l := common l r) (r := r)
    rwa [common_common] at h

/-- An integer and a double are in common with the integer, which has only itself in common with
them. -/
theorem intersect_laws_mixed :
    let l : List Value := [int 1, string "a", float 1.0]
    let r : List Value := [int 1]
    (common l r).length = 2 ∧ (common r l).length = 1 ∧ float 1.0 ∈ common l r ∧
      standard.Holds "in" (float 1.0) (array (common r l)) := by
  intro l r
  have hitem : float 1.0 ∈ l := List.mem_cons_of_mem _ (List.mem_cons_of_mem _ List.mem_cons_self)
  have hmem : float 1.0 ∈ common l r :=
    mem_common.mpr ⟨hitem, int 1, List.mem_singleton_self _, by decide +kernel⟩
  obtain ⟨-, -, -, -, hcommon, -⟩ := intersect_laws l r
  exact ⟨by decide +kernel, by decide +kernel, hmem, hcommon _ hmem⟩

end Cohort.Value
