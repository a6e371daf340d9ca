import Cohort.Proofs.Number.Comparison
import Cohort.Proofs.Sampling.Equality
import Mathlib

/-!
The equality of expressions. It is symmetric, values that are the same in every part are equal, and
a value is equal to itself unless there is a NaN in it. Of two objects it is enough to ask that they
have equally many entries and that what one has under each of its keys is equal to what the other
has there.
-/
namespace Cohort

namespace Scalar
variable {s t : Scalar}

def isNaN : Scalar → Bool
  | .float x => x.isNaN
  | _ => false

theorem looseEq_symm (h : s.looseEq t = true) : t.looseEq s = true := by
  cases equal_of_looseEq h with
  | same => exact h
  | floats h => exact BEq.symm (α := Float) h
  | intFloat h => exact h
  | floatInt h => exact h

theorem looseEq_comm (s t : Scalar) : s.looseEq t = t.looseEq s :=
  Bool.eq_iff_iff.mpr ⟨looseEq_symm, looseEq_symm⟩

/-- Scalars that are the same part of their kind are equal. -/
theorem looseEq_of_beq (h : (s == t) = true) : s.looseEq t = true := by
  cases s with
  | int n =>
    cases t with
    | float x => cases h
    | _ => exact h
  | float x =>
    cases t with
    | int n => cases h
    | _ => exact h
  | _ => exact h

theorem looseEq_self_iff : s.looseEq s = true ↔ s.isNaN = false := by
  cases s with
  | float x => exact Number.beq_self_iff
  | null => exact iff_of_true rfl rfl
  | bool => exact iff_of_true (beq_self_eq_true (α := Bool) _) rfl
  | int => exact iff_of_true (beq_self_eq_true (α := Int64) _) rfl
  | string => exact iff_of_true (beq_self_eq_true (α := String) _) rfl
  | date => exact iff_of_true (beq_self_eq_true (α := Instant) _) rfl

end Scalar

namespace Value

theorem looseEq_comm (a b : Value) : a.looseEq b = b.looseEq a :=
  Document.agree_comm Scalar.looseEq_comm

/-- Objects are equal when they have equally many entries and each entry of the first is equal to
what the second has under its key. -/
theorem looseEq_object (xs ys : Entries) : (object xs).looseEq (object ys) =
    (xs.size == ys.size &&
      xs.toList.all fun entry => (ys.get? entry.1).any (looseEq entry.2 ·)) := by
  rw [looseEq, Document.agree]
  exact Fields.agree_eq_lookup

/-- The equality of expressions is symmetric, includes the sameness of all parts, and holds of a
value and itself unless there is a NaN in it. Objects are compared key by key. -/
theorem looseEq_laws (a b : Value) :
    a.looseEq b = b.looseEq a ∧
    ((a == b) = true → a.looseEq b = true) ∧
    (a.looseEq a = true ↔ a.Every fun scalar => scalar.isNaN = false) ∧
    ∀ xs ys : Entries, (object xs).looseEq (object ys) =
      (xs.size == ys.size &&
        xs.toList.all fun entry => (ys.get? entry.1).any (looseEq entry.2 ·)) := by
  refine ⟨looseEq_comm a b, fun h => ?_, ?_, looseEq_object⟩
  · exact Document.agree_imp (fun _ _ => Scalar.looseEq_of_beq) h
  · rw [looseEq, Document.agree_self_iff]
    simp only [Scalar.looseEq_self_iff]

/-- Objects in arrays with zeros of both signs, and with a NaN. -/
theorem looseEq_laws_nested :
    let a : Value := array [object (.cons "k" trivial (array [float 0.0, int 3]) .nil)]
    let b : Value := array [object (.cons "k" trivial (array [float (-0.0), int 3]) .nil)]
    let c : Value := array [object (.cons "k" trivial (float (Float.ofBits 0x7ff8000000000000)) .nil)]
    (a == b) = true ∧ a.looseEq b = true ∧ b.looseEq a = true ∧ c.looseEq c = false := by
  intro a b c
  have hsame : (a == b) = true := by decide +kernel
  obtain ⟨hsymm, hequal, -, -⟩ := looseEq_laws a b
  exact ⟨hsame, hequal hsame, hsymm ▸ hequal hsame, by decide +kernel⟩

end Value

end Cohort
