import Cohort.Proofs.Value.Comparison
import Mathlib

/-!
How far equality and order carry over. Integers are compared with each other exactly and with
doubles after rounding, so a double stands for every integer that is rounded to it. Two values that
are equal to a third one are therefore equal unless they hold different integers in the same place,
and an order carries over unless it would go down from one integer to another. Integers up to
`2 ^ 53` are not rounded, and among values without greater ones nothing of the kind occurs.
-/
namespace Cohort
open Cohort.Number (AtMost beq_ofInt_iff atMost_ofInt_iff exact_ofInt_of_le exact_ofInt_mono
  natAbs_toInt_le)
open Cohort.Grammar (standard fails_iff holds_equal holds_atMost)

namespace Scalar
variable {s t u : Scalar}

def sameIntegers : Scalar → Scalar → Bool
  | .int m, .int n => m == n
  | _, _ => true

lemma sameIntegers_of_looseEq (h : s.looseEq t = true) : s.sameIntegers t = true := by
  cases equal_of_looseEq h with
  | same s =>
    cases s with
    | int n => exact beq_self_eq_true n
    | _ => rfl
  | floats | intFloat | floatInt => rfl

/-- Scalars that are equal to the same one are equal unless they are different integers. -/
theorem looseEq_trans_iff (hst : s.looseEq t = true) (htu : t.looseEq u = true) :
    s.looseEq u = true ↔ s.sameIntegers u = true := by
  refine ⟨sameIntegers_of_looseEq, fun hsame => ?_⟩
  cases equal_of_looseEq hst with
  | same => exact htu
  | @floats x y hxy =>
    cases equal_of_looseEq htu with
    | same => exact hst
    | floats hyz => exact BEq.trans (α := Float) hxy hyz
    | floatInt hny => exact BEq.trans (α := Float) hny (BEq.symm hxy)
  | @intFloat n x hnx =>
    cases equal_of_looseEq htu with
    | same => exact hst
    | floats hxy => exact BEq.trans (α := Float) hnx hxy
    | floatInt => exact hsame
  | @floatInt n x hnx =>
    cases equal_of_looseEq htu with
    | same => exact hst
    | intFloat hny => exact BEq.trans (α := Float) (BEq.symm hnx) hny

/-- Small integers that become equal doubles are the same. -/
theorem Small.sameIntegers (hs : s.Small) (hu : u.Small) (hst : s.looseEq t = true)
    (htu : t.looseEq u = true) : s.sameIntegers u = true := by
  cases s with
  | int m =>
    cases u with
    | int k =>
      cases equal_of_looseEq hst with
      | same => exact sameIntegers_of_looseEq htu
      | @intFloat _ x hm =>
        have hk : (Float.ofInt k.toInt == x) = true := htu
        have hvalues := (beq_ofInt_iff (natAbs_toInt_le m) (natAbs_toInt_le k)).mp
          (BEq.trans (α := Float) hm (BEq.symm hk))
        rw [exact_ofInt_of_le hs, exact_ofInt_of_le hu, Int.cast_inj, Int64.toInt_inj] at hvalues
        exact beq_iff_eq.mpr hvalues
    | _ => rfl
  | _ => rfl

end Scalar

namespace Value
variable {a b c : Value}

/-- Wherever both values hold an integer in the same place, it is the same one. -/
def SameIntegers (a b : Value) : Prop := a.agree Scalar.sameIntegers b = true

instance : Decidable (SameIntegers a b) := inferInstanceAs (Decidable (_ = true))

/-- Values that are equal to the same one are equal just when they hold no different integers in
the same place, as they never do where integers are small. -/
theorem looseEq_trans_iff (hab : a.looseEq b = true) (hbc : b.looseEq c = true) :
    (a.looseEq c = true ↔ SameIntegers a c) ∧
    (a.Every Scalar.Small → c.Every Scalar.Small → a.looseEq c = true) := by
  classical
  have hjoined : a.agree
      (fun s u => decide (∃ t : Scalar, s.looseEq t = true ∧ t.looseEq u = true)) c = true :=
    Document.agree_trans (fun s t u hst htu => decide_eq_true ⟨t, hst, htu⟩) hab c hbc
  constructor
  · refine Document.agree_iff_of_agree (fun s u h => ?_) hjoined
    obtain ⟨t, hst, htu⟩ := of_decide_eq_true h
    exact Scalar.looseEq_trans_iff hst htu
  · refine Document.agree_imp_of_every (fun s u hs hu h => ?_) hjoined
    obtain ⟨t, hst, htu⟩ := of_decide_eq_true h
    exact (Scalar.looseEq_trans_iff hst htu).mpr (hs.sameIntegers hu hst htu)

end Value

namespace Value
variable {a b c : Value} {x y z : Float}

def Falls : Value → Value → Prop
  | .int m, .int n => n < m
  | _, _ => False

theorem comparable_of_holds (h : standard.Holds "<=" a b) : Comparable a b := by
  by_contra hcon
  rw [holds_atMost, compare?_eq_none_of_not_comparable hcon] at h
  cases h

theorem Comparable.exists_toFloat? (h : Comparable a b) (ha : a.toFloat? = some x) :
    ∃ y, b.toFloat? = some y := by
  cases h with
  | ints | intFloat | floatInt | floats => exact ⟨_, rfl⟩
  | strings | dates => cases ha

/-- Integers that are in order become doubles that are. -/
lemma atMost_ofInt {m n : Int64} (h : ¬n < m) :
    AtMost (Float.ofInt m.toInt) (Float.ofInt n.toInt) := by
  rw [Int64.not_lt, Int64.le_iff_toInt_le] at h
  exact (atMost_ofInt_iff (natAbs_toInt_le m) (natAbs_toInt_le n)).mpr
    (exact_ofInt_mono (natAbs_toInt_le m) (natAbs_toInt_le n) h)

/-- A number is at most another when its double is at most the other one and the order does not go
down from one integer to another. -/
theorem holds_iff_atMost (ha : a.toFloat? = some x) (hb : b.toFloat? = some y) :
    standard.Holds "<=" a b ↔ AtMost x y ∧ ¬Falls a b := by
  rw [holds_atMost]
  obtain ⟨m, rfl⟩ | ⟨x, rfl⟩ := exists_of_toFloat?_eq_some ha
  · cases ha
    obtain ⟨n, rfl⟩ | ⟨y, rfl⟩ := exists_of_toFloat?_eq_some hb
    · cases hb
      have hints : (compare m n != .gt) = true ↔ ¬n < m := by
        rw [bne_iff_ne, ne_eq, Std.compare_eq_gt]
      exact hints.trans (and_iff_right_of_imp atMost_ofInt).symm
    · cases hb
      exact (and_iff_left id).symm
  · cases ha
    obtain ⟨n, rfl⟩ | ⟨y, rfl⟩ := exists_of_toFloat?_eq_some hb
    · cases hb
      exact (and_iff_left id).symm
    · cases hb
      exact (and_iff_left id).symm

/-- Small integers do not go down where their doubles do not. -/
theorem not_falls_of_small (ha : a.toFloat? = some x) (hb : b.toFloat? = some y)
    (h : AtMost x y) (hsmall : a.Every Scalar.Small) (hsmall' : b.Every Scalar.Small) :
    ¬Falls a b := by
  obtain ⟨m, rfl⟩ | ⟨x, rfl⟩ := exists_of_toFloat?_eq_some ha
  · obtain ⟨n, rfl⟩ | ⟨y, rfl⟩ := exists_of_toFloat?_eq_some hb
    · cases ha
      cases hb
      have hm : Scalar.Small (.int m) := Document.every_scalar.mp hsmall
      have hn : Scalar.Small (.int n) := Document.every_scalar.mp hsmall'
      rw [atMost_ofInt_iff (natAbs_toInt_le m) (natAbs_toInt_le n), exact_ofInt_of_le hm,
        exact_ofInt_of_le hn, Int.cast_le, ← Int64.le_iff_toInt_le] at h
      exact Int64.not_lt.mpr h
    · exact id
  · exact id

/-- Among numbers an order carries over just when it does not go down from one integer to another,
as it never does where integers are small. -/
theorem holds_trans_iff_of_toFloat? (ha : a.toFloat? = some x) (hb : b.toFloat? = some y)
    (hab : standard.Holds "<=" a b) (hbc : standard.Holds "<=" b c) :
    (standard.Holds "<=" a c ↔ ¬Falls a c) ∧
    (a.Every Scalar.Small → c.Every Scalar.Small → standard.Holds "<=" a c) := by
  obtain ⟨z, hc⟩ := (comparable_of_holds hbc).exists_toFloat? hb
  have hdoubles : AtMost x z :=
    ((holds_iff_atMost ha hb).mp hab).1.trans ((holds_iff_atMost hb hc).mp hbc).1
  rw [holds_iff_atMost ha hc, and_iff_right hdoubles]
  exact ⟨Iff.rfl, not_falls_of_small ha hc hdoubles⟩

/-- A lawful order of one kind carries over. -/
lemma any_ne_gt_trans {α : Type} (order : α → α → Ordering) [Std.TransCmp order] {s t u : α}
    (hst : (some (order s t)).any (· != .gt) = true)
    (htu : (some (order t u)).any (· != .gt) = true) :
    (some (order s u)).any (· != .gt) = true := by
  rw [Option.any_some, bne_iff_ne, ne_eq, ← Ordering.isLE_iff_ne_gt] at hst htu ⊢
  exact Std.TransCmp.isLE_trans hst htu

/-- Of three values the first is at most the third when it is at most the second and that at most
the third, unless this goes down from one integer to another. -/
theorem holds_trans_iff (hab : standard.Holds "<=" a b) (hbc : standard.Holds "<=" b c) :
    (standard.Holds "<=" a c ↔ ¬Falls a c) ∧
    (a.Every Scalar.Small → c.Every Scalar.Small → standard.Holds "<=" a c) := by
  have hsecond := comparable_of_holds hbc
  cases comparable_of_holds hab with
  | ints | intFloat | floatInt | floats => exact holds_trans_iff_of_toFloat? rfl rfl hab hbc
  | strings s t =>
    cases hsecond with
    | strings _ u =>
      have hle : standard.Holds "<=" (string s) (string u) := holds_atMost.mpr
        (any_ne_gt_trans compare (holds_atMost.mp hab) (holds_atMost.mp hbc))
      exact ⟨iff_of_true hle id, fun _ _ => hle⟩
  | dates s t =>
    cases hsecond with
    | dates _ u =>
      have hle : standard.Holds "<=" (date s) (date u) := holds_atMost.mpr
        (any_ne_gt_trans Instant.compare (holds_atMost.mp hab) (holds_atMost.mp hbc))
      exact ⟨iff_of_true hle id, fun _ _ => hle⟩

/-- Equality and order carry over from one value to the next, except that a double is equal to every
integer that is rounded to it: values that are equal to the same one are equal unless they hold
different integers in the same place, and an order does not go down from one integer to another. No
integer up to `2 ^ 53` is rounded, so that among small integers nothing is left of the exception. -/
theorem comparisons_trans (a b c : Value) :
    (∀ x y, standard.Holds "==" x y ↔ x.looseEq y = true) ∧
    (a.looseEq b = true → b.looseEq c = true → (a.looseEq c = true ↔ SameIntegers a c)) ∧
    (standard.Holds "<=" a b → standard.Holds "<=" b c →
      (standard.Holds "<=" a c ↔ ¬Falls a c)) ∧
    (a.Every Scalar.Small → c.Every Scalar.Small →
      (a.looseEq b = true → b.looseEq c = true → a.looseEq c = true) ∧
      (standard.Holds "<=" a b → standard.Holds "<=" b c → standard.Holds "<=" a c)) :=
  ⟨fun _ _ => holds_equal, fun hab hbc => (looseEq_trans_iff hab hbc).1,
    fun hab hbc => (holds_trans_iff hab hbc).1,
    fun ha hc => ⟨fun hab hbc => (looseEq_trans_iff hab hbc).2 ha hc,
      fun hab hbc => (holds_trans_iff hab hbc).2 ha hc⟩⟩

/-- Equality by way of a double, in arrays, and order by way of one. -/
theorem comparisons_trans_nested :
    let a : Value := array [int 9007199254740994, float 0.0]
    let b : Value := array [float (Float.ofBits 0x4340000000000001), float (-0.0)]
    let c : Value := array [int 9007199254740994, int 0]
    (a.looseEq b = true ∧ b.looseEq c = true ∧ SameIntegers a c ∧ a.looseEq c = true) ∧
    standard.Holds "<=" (int 3) (float 3.5) ∧ standard.Holds "<=" (float 3.5) (int 4) ∧
      (int 3).Every Scalar.Small ∧ (int 4).Every Scalar.Small ∧
      standard.Holds "<=" (int 3) (int 4) := by
  intro a b c
  have hab : a.looseEq b = true := by decide +kernel
  have hbc : b.looseEq c = true := by decide +kernel
  have hsame : SameIntegers a c := by decide +kernel
  have hlow : standard.Holds "<=" (int 3) (float 3.5) := holds_atMost.mpr (by decide +kernel)
  have hhigh : standard.Holds "<=" (float 3.5) (int 4) := holds_atMost.mpr (by decide +kernel)
  have hthree : (3 : Int64).toInt.natAbs ≤ 2 ^ 53 := by decide
  have hfour : (4 : Int64).toInt.natAbs ≤ 2 ^ 53 := by decide
  obtain ⟨-, hequal, -, -⟩ := comparisons_trans a b c
  obtain ⟨-, -, -, hsmall⟩ := comparisons_trans (int 3) (float 3.5) (int 4)
  exact ⟨⟨hab, hbc, hsame, (hequal hab hbc).mpr hsame⟩, hlow, hhigh, .scalar hthree, .scalar hfour,
    (hsmall (.scalar hthree) (.scalar hfour)).2 hlow hhigh⟩

/-- The integer after `2 ^ 53` is equal to the double `2 ^ 53`, that to the integer of this size,
and the two integers are neither equal nor in this order. -/
theorem comparisons_not_trans :
    let a : Value := int 9007199254740993
    let b : Value := float (Float.ofBits 0x4340000000000000)
    let c : Value := int 9007199254740992
    (standard.Holds "==" a b ∧ standard.Holds "==" b c ∧ standard.Fails "==" a c) ∧
    (standard.Holds "<=" a b ∧ standard.Holds "<=" b c ∧ standard.Fails "<=" a c) ∧
    (array [a]).looseEq (array [b]) = true ∧ (array [b]).looseEq (array [c]) = true ∧
      (array [a]).looseEq (array [c]) = false := by
  intro a b c
  have hne : a.looseEq c = false := by decide +kernel
  refine ⟨⟨holds_equal.mpr ?_, holds_equal.mpr ?_, (fails_iff rfl).mpr hne⟩,
    ⟨holds_atMost.mpr ?_, holds_atMost.mpr ?_, (fails_iff rfl).mpr ?_⟩, ?_, ?_, ?_⟩
  all_goals decide +kernel

end Value

end Cohort
