import Cohort.Proofs.Number.Exact
import Mathlib

/-!
Doubles in order. Two of them have an order unless one is a NaN, and turned around it is the other
order. What is finite lies between two finite doubles just when its exact value does.
-/
namespace Cohort.Number
open Float.Model (UnpackedFloat)

theorem compare_comm (u v : UnpackedFloat) : v.compare u = (u.compare v).map Ordering.swap := by
  cases u with
  | notANumber => cases v with | _ => rfl
  | infinity sign =>
    cases v with
    | infinity sign' => cases sign <;> cases sign' <;> rfl
    | _ => cases sign <;> rfl
  | zero =>
    cases v with
    | infinity sign' | finite sign' => cases sign' <;> rfl
    | _ => rfl
  | finite sign m e =>
    cases v with
    | notANumber => rfl
    | infinity sign' => cases sign' <;> rfl
    | zero => cases sign <;> rfl
    | finite sign' n f =>
      have hsizes : (compare f e).then (compare n m)
          = ((compare e f).then (compare m n)).swap := by
        rw [Ordering.swap_then, ← Std.OrientedCmp.eq_swap, ← Std.OrientedCmp.eq_swap]
      cases sign <;> cases sign' <;> simp only [UnpackedFloat.compare, Option.map_some, hsizes] <;>
        rfl

theorem compare_eq_none_iff (u v : UnpackedFloat) :
    u.compare v = none ↔ u.isNaN = true ∨ v.isNaN = true := by
  cases u with
  | notANumber => simp [UnpackedFloat.compare, UnpackedFloat.isNaN]
  | infinity sign | zero sign | finite sign =>
    cases v with
    | notANumber => simp [UnpackedFloat.compare, UnpackedFloat.isNaN]
    | infinity sign' | zero sign' | finite sign' =>
      cases sign <;> cases sign' <;> simp [UnpackedFloat.compare, UnpackedFloat.isNaN]

/-- What compares equal is of one form, zeros of both signs apart. -/
theorem eq_or_zero_of_compare_eq {u v : UnpackedFloat} (h : u.compare v = some .eq) :
    u = v ∨ (∃ sign, u = .zero sign) ∧ ∃ sign, v = .zero sign := by
  cases u with
  | notANumber => cases h
  | infinity sign =>
    cases v with
    | notANumber => cases h
    | infinity sign' => cases sign <;> cases sign' <;> simp_all [UnpackedFloat.compare]
    | zero | finite => cases sign <;> cases h
  | zero sign =>
    cases v with
    | notANumber => cases h
    | zero sign' => exact .inr ⟨⟨sign, rfl⟩, sign', rfl⟩
    | infinity sign' | finite sign' => cases sign' <;> cases h
  | finite sign m e =>
    cases v with
    | notANumber => cases h
    | infinity sign' => cases sign' <;> cases h
    | zero => cases sign <;> cases h
    | finite sign' n f =>
      left
      have hsizes (h : (compare e f).then (compare m n) = .eq) : e = f ∧ m = n := by
        rwa [Ordering.then_eq_eq, compare_eq_iff_eq, compare_eq_iff_eq] at h
      cases sign <;> cases sign' <;>
        simp only [UnpackedFloat.compare, Option.some.injEq, Ordering.swap_eq_eq, reduceCtorEq] at h
      · obtain ⟨rfl, rfl⟩ := hsizes h
        rfl
      · obtain ⟨rfl, rfl⟩ := hsizes h
        rfl

section Order
variable {a b x y : Float}

/-- Where one double is not at most another, it is the greater one or there is a NaN. -/
theorem not_le_iff : ¬x ≤ y ↔ x.isNaN = true ∨ y.isNaN = true ∨ y < x := by
  have hle : x ≤ y ↔ (x.toModel.unpack.compare y.toModel.unpack).any (·.isLE) = true :=
    decide_eq_true_iff
  have hlt : y < x ↔ (y.toModel.unpack.compare x.toModel.unpack == some .lt) = true :=
    decide_eq_true_iff
  have hnan : x.isNaN = true ∨ y.isNaN = true ↔ x.toModel.unpack.compare y.toModel.unpack = none :=
    (compare_eq_none_iff _ _).symm
  rw [← or_assoc, hnan, hle, hlt, compare_comm x.toModel.unpack]
  rcases x.toModel.unpack.compare y.toModel.unpack with _ | (_ | _ | _) <;> decide

/-- Doubles that are equal are unpacked alike, zeros of both signs apart. -/
theorem unpack_eq_or_zero_of_beq (h : (x == y) = true) :
    x.toModel.unpack = y.toModel.unpack ∨
      (∃ sign, x.toModel.unpack = .zero sign) ∧ ∃ sign, y.toModel.unpack = .zero sign := by
  replace h : (x.toModel.unpack.compare y.toModel.unpack == some .eq) = true := h
  exact eq_or_zero_of_compare_eq (beq_iff_eq.mp h)

/-- What lies between two finite doubles is finite, and between their exact values. -/
theorem between_iff (ha : a.isFinite = true) (hb : b.isFinite = true) :
    a ≤ x ∧ x ≤ b ↔ x.isFinite = true ∧ exact a ≤ exact x ∧ exact x ≤ exact b := by
  constructor
  · rintro ⟨hax, hxb⟩
    have hx := isFinite_of_le_of_le ha hb hax hxb
    exact ⟨hx, (le_iff_exact_le_exact ha hx).mp hax, (le_iff_exact_le_exact hx hb).mp hxb⟩
  · rintro ⟨hx, hax, hxb⟩
    exact ⟨(le_iff_exact_le_exact ha hx).mpr hax, (le_iff_exact_le_exact hx hb).mpr hxb⟩

end Order

end Cohort.Number
