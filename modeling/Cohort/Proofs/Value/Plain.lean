import Cohort.Proofs.Document.Agreement
import Cohort.Value.Basic
import Mathlib

/-! Values without doubles and dates. Two of them are equal only if they are the same. -/
namespace Cohort

def Scalar.Plain : Scalar → Prop
  | .float _ | .date _ => False
  | _ => True

/-- A value in which there are no doubles and no dates. -/
def Value.Plain (value : Value) : Prop := value.Every Scalar.Plain

theorem Scalar.Plain.beq_iff_eq {s : Scalar} (h : s.Plain) (other : Scalar) :
    (s == other) = true ↔ s = other := by
  change Scalar.beq s other = true ↔ s = other
  cases s <;> cases other <;> simp [Scalar.beq, Scalar.Plain] at h ⊢

theorem Value.Plain.beq_iff_eq {value : Value} (h : value.Plain) (other : Value) :
    (value == other) = true ↔ value = other :=
  h.agree_iff_eq (fun _ hs => hs.beq_iff_eq) other

end Cohort
