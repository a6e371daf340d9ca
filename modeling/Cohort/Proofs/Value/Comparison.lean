import Cohort.Proofs.Grammar.Application
import Cohort.Proofs.Value.Equality
import Mathlib

/-!
The comparisons of expressions. Numbers, strings and dates have an order among each other, in which
what is neither before nor after is equal; a NaN has none. The six comparison operators ask for that
order and that equality, so what one of them gives follows from what the others give. All other
values are neither before nor after each other.
-/
namespace Cohort

namespace Instant

instance : Std.TransCmp Instant.compare :=
  inferInstanceAs (Std.TransCmp (compareLex (compareOn seconds) (compareOn (·.nanos.val))))

instance : Std.LawfulEqCmp Instant.compare where
  eq_of_compare := by
    rintro ⟨seconds, nanos⟩ ⟨seconds', nanos'⟩ h
    rw [Instant.compare, Ordering.then_eq_eq, Std.compare_eq_iff_eq, Std.compare_eq_iff_eq] at h
    obtain ⟨rfl, hnanos⟩ := h
    exact congrArg (Instant.mk seconds) (Fin.ext hnanos)

end Instant

namespace Value
variable {a b : Value}

inductive Comparable : Value → Value → Prop where
  | ints (m n : Int64) : Comparable (int m) (int n)
  | intFloat (n : Int64) (x : Float) : Comparable (int n) (float x)
  | floatInt (x : Float) (n : Int64) : Comparable (float x) (int n)
  | floats (x y : Float) : Comparable (float x) (float y)
  | strings (s t : String) : Comparable (string s) (string t)
  | dates (t u : Instant) : Comparable (date t) (date u)

def isNaN : Value → Bool
  | .scalar s => s.isNaN
  | _ => false

theorem Comparable.symm (h : Comparable a b) : Comparable b a := by
  cases h with
  | ints m n => exact .ints n m
  | intFloat n x => exact .floatInt x n
  | floatInt x n => exact .intFloat n x
  | floats x y => exact .floats y x
  | strings s t => exact .strings t s
  | dates t u => exact .dates u t

theorem exists_of_toFloat?_eq_some {x : Float} (h : a.toFloat? = some x) :
    (∃ n, a = int n) ∨ ∃ y, a = float y := by
  cases a with
  | scalar s =>
    cases s with
    | int n => exact .inl ⟨n, rfl⟩
    | float y => exact .inr ⟨y, rfl⟩
    | _ => cases h
  | _ => cases h

theorem comparable_of_toFloat? {x y : Float} (ha : a.toFloat? = some x) (hb : b.toFloat? = some y) :
    Comparable a b := by
  obtain ⟨n, rfl⟩ | ⟨x, rfl⟩ := exists_of_toFloat?_eq_some ha
  · obtain ⟨m, rfl⟩ | ⟨y, rfl⟩ := exists_of_toFloat?_eq_some hb
    · exact .ints n m
    · exact .intFloat n y
  · obtain ⟨m, rfl⟩ | ⟨y, rfl⟩ := exists_of_toFloat?_eq_some hb
    · exact .floatInt x m
    · exact .floats x y

theorem compare?_eq_none_of_not_comparable (h : ¬Comparable a b) : a.compare? b = none := by
  unfold compare?
  split
  · exact absurd (.ints _ _) h
  · exact absurd (.strings _ _) h
  · exact absurd (.dates _ _) h
  · refine Option.bind_eq_none_iff.mpr fun x ha => Option.bind_eq_none_iff.mpr fun y hb => ?_
    exact absurd (comparable_of_toFloat? ha hb) h

theorem compare?_comm (a b : Value) : b.compare? a = (a.compare? b).map Ordering.swap := by
  by_cases h : Comparable a b
  · cases h with
    | ints m n => exact congrArg some Std.OrientedCmp.eq_swap
    | intFloat n x => exact Number.compareFloats?_comm _ _
    | floatInt x n => exact Number.compareFloats?_comm _ _
    | floats x y => exact Number.compareFloats?_comm _ _
    | strings s t => exact congrArg some Std.OrientedCmp.eq_swap
    | dates t u => exact congrArg some Std.OrientedCmp.eq_swap
  · rw [compare?_eq_none_of_not_comparable h, compare?_eq_none_of_not_comparable (mt .symm h),
      Option.map_none]

/-- A lawful order of one kind says that two values are the same just when they are equal. -/
lemma some_eq_some_eq_iff {α : Type} [BEq α] [LawfulBEq α] {order : α → α → Ordering}
    [Std.LawfulEqCmp order] {x y : α} : some (order x y) = some .eq ↔ (x == y) = true := by
  rw [Option.some_inj, Std.LawfulEqCmp.compare_eq_iff_eq, beq_iff_eq]

/-- Values that may be compared are equal when neither comes before the other. -/
theorem Comparable.compare?_eq_some_eq_iff (h : Comparable a b) :
    a.compare? b = some .eq ↔ a.looseEq b = true := by
  cases h with
  | ints m n => exact some_eq_some_eq_iff
  | intFloat n x => exact Number.beq_iff_compareFloats?.symm
  | floatInt x n =>
    refine Number.beq_iff_compareFloats?.symm.trans ?_
    rw [BEq.comm]
    rfl
  | floats x y => exact Number.beq_iff_compareFloats?.symm
  | strings s t => exact some_eq_some_eq_iff
  | dates t u => exact some_eq_some_eq_iff

theorem Comparable.compare?_eq_none_iff (h : Comparable a b) :
    a.compare? b = none ↔ a.isNaN = true ∨ b.isNaN = true := by
  cases h with
  | ints m n => simp [compare?, isNaN, Scalar.isNaN]
  | intFloat n x =>
    refine Number.compareFloats?_eq_none_iff.trans ?_
    rw [Number.isNaN_ofInt (Number.natAbs_toInt_le n)]
    rfl
  | floatInt x n =>
    refine Number.compareFloats?_eq_none_iff.trans ?_
    rw [Number.isNaN_ofInt (Number.natAbs_toInt_le n)]
    rfl
  | floats x y => exact Number.compareFloats?_eq_none_iff
  | strings s t => simp [compare?, isNaN, Scalar.isNaN]
  | dates t u => simp [compare?, isNaN, Scalar.isNaN]

end Value

namespace Grammar
open Cohort.Value (Comparable compare?_comm)
variable {symbol : String} {precedence : Int32} {accept : Ordering → Bool} {order : Ordering}
  {a b : Value}

def orderSymbols : List String := ["<", "<=", ">", ">="]

def comparisonSymbols : List String := "==" :: "!=" :: orderSymbols

/-- The operator that asks for one of the three ways in which values may be ordered. -/
def symbolOf : Ordering → String
  | .lt => "<"
  | .eq => "=="
  | .gt => ">"

theorem holds_or_fails_of_mem (h : symbol ∈ comparisonSymbols) :
    standard.Holds symbol a b ∨ standard.Fails symbol a b := by
  simp only [comparisonSymbols, orderSymbols, List.mem_cons, List.not_mem_nil, or_false] at h
  rcases h with rfl | rfl | rfl | rfl | rfl | rfl
  all_goals exact holds_or_fails rfl

theorem holds_equal : standard.Holds "==" a b ↔ a.looseEq b = true := holds_iff rfl

theorem holds_notEqual : standard.Holds "!=" a b ↔ (!a.looseEq b) = true :=
  (holds_iff rfl).trans .rfl

theorem holds_less : standard.Holds "<" a b ↔ a.compare? b = some .lt :=
  (holds_iff rfl).trans (by simp [Option.any_eq_true])

theorem holds_greater : standard.Holds ">" a b ↔ a.compare? b = some .gt :=
  (holds_iff rfl).trans (by simp [Option.any_eq_true])

theorem holds_atMost : standard.Holds "<=" a b ↔ (a.compare? b).any (· != .gt) = true :=
  (holds_iff rfl).trans .rfl

theorem holds_atLeast : standard.Holds ">=" a b ↔ (a.compare? b).any (· != .lt) = true :=
  (holds_iff rfl).trans .rfl

theorem fails_of_compare?_eq_none
    (hop : standard.binary.get? symbol = some ⟨precedence, .eager (Operators.ordered accept)⟩)
    (h : a.compare? b = none) : standard.Fails symbol a b :=
  (fails_iff hop).mpr (by rw [h, Option.any_none])

theorem fails_of_not_comparable (hsymbol : symbol ∈ orderSymbols) (h : ¬Comparable a b) :
    standard.Fails symbol a b := by
  have hnone := Value.compare?_eq_none_of_not_comparable h
  simp only [orderSymbols, List.mem_cons, List.not_mem_nil, or_false] at hsymbol
  rcases hsymbol with rfl | rfl | rfl | rfl
  all_goals exact fails_of_compare?_eq_none rfl hnone

theorem holds_symbolOf (h : Comparable a b) (order : Ordering) :
    standard.Holds (symbolOf order) a b ↔ a.compare? b = some order := by
  cases order with
  | lt => exact holds_less
  | eq => exact holds_equal.trans h.compare?_eq_some_eq_iff.symm
  | gt => exact holds_greater

theorem fails_symbolOf (h : Comparable a b) (hnone : a.compare? b = none) (order : Ordering) :
    standard.Fails (symbolOf order) a b := by
  cases order with
  | lt => exact fails_of_compare?_eq_none rfl hnone
  | eq =>
    have hne : a.looseEq b ≠ true := fun heq => by
      rw [h.compare?_eq_some_eq_iff.mpr heq] at hnone
      cases hnone
    exact (fails_iff rfl).mpr (Bool.eq_false_of_not_eq_true hne)
  | gt => exact fails_of_compare?_eq_none rfl hnone

/-- The comparison operators agree with each other. Each gives true or false; inequality is the
opposite of equality, and turned around an order is the opposite one. Of two numbers, strings or
dates the first is at most the second when it is less or equal, and it is less, equal or greater,
and only one of these, or none at all when one is a NaN. Other values have no order. -/
theorem comparisons_coherent (a b : Value) :
    (∀ symbol ∈ comparisonSymbols, standard.Holds symbol a b ∨ standard.Fails symbol a b) ∧
    (standard.Holds "!=" a b ↔ ¬standard.Holds "==" a b) ∧
    (standard.Holds "<" a b ↔ standard.Holds ">" b a) ∧
    (standard.Holds "<=" a b ↔ standard.Holds ">=" b a) ∧
    (Comparable a b →
      (standard.Holds "<=" a b ↔ standard.Holds "<" a b ∨ standard.Holds "==" a b) ∧
      (a.isNaN = false ∧ b.isNaN = false → ∃! order, standard.Holds (symbolOf order) a b) ∧
      (a.isNaN = true ∨ b.isNaN = true → ∀ order, standard.Fails (symbolOf order) a b)) ∧
    (¬Comparable a b → ∀ symbol ∈ orderSymbols, standard.Fails symbol a b) := by
  refine ⟨fun symbol => holds_or_fails_of_mem, ?unequal, ?less, ?atMost, fun h => ⟨?_, ?_, ?_⟩,
    fun h symbol hsymbol => fails_of_not_comparable hsymbol h⟩
  case unequal =>
    rw [holds_notEqual, holds_equal, Bool.not_eq_true', Bool.not_eq_true]
  case less =>
    rw [holds_less, holds_greater, compare?_comm a b]
    rcases a.compare? b with _ | (_ | _ | _) <;> decide
  case atMost =>
    rw [holds_atMost, holds_atLeast, compare?_comm a b]
    rcases a.compare? b with _ | (_ | _ | _) <;> decide
  · rw [holds_atMost, holds_less, holds_equal, ← h.compare?_eq_some_eq_iff]
    rcases a.compare? b with _ | (_ | _ | _) <;> decide
  · rintro ⟨ha, hb⟩
    obtain ⟨order, horder⟩ := Option.ne_none_iff_exists'.mp
      (mt h.compare?_eq_none_iff.mp (by simp [ha, hb]))
    refine ⟨order, (holds_symbolOf h order).mpr horder, fun other hother => ?_⟩
    have hother' := (holds_symbolOf h other).mp hother
    exact Option.some.inj (hother'.symm.trans horder)
  · intro hnan
    exact fails_symbolOf h (h.compare?_eq_none_iff.mpr hnan)

/-- An integer and the double it is rounded to, a NaN, and two values of different kinds. -/
theorem comparisons_coherent_mixed :
    let n : Value := .int 9007199254740993
    let x : Value := .float (Float.ofBits 0x4340000000000000)
    let nan : Value := .float (Float.ofBits 0x7ff8000000000000)
    standard.Holds "==" n x ∧ standard.Holds "<=" n x ∧
      (∃! order, standard.Holds (symbolOf order) n x) ∧
      (∀ order, standard.Fails (symbolOf order) n nan) ∧
      ∀ symbol ∈ orderSymbols, standard.Fails symbol n (.string "9007199254740993") := by
  intro n x nan
  have hequal : standard.Holds "==" n x := holds_equal.mpr (by decide +kernel)
  obtain ⟨-, -, -, -, hnumbers, -⟩ := comparisons_coherent n x
  obtain ⟨hatMost, hone, -⟩ := hnumbers (.intFloat _ _)
  obtain ⟨-, -, -, -, hnans, -⟩ := comparisons_coherent n nan
  obtain ⟨-, -, -, -, -, hkinds⟩ := comparisons_coherent n (.string "9007199254740993")
  have hnone : ¬Comparable (.int 9007199254740993) (.string "9007199254740993") := by
    rintro ⟨⟩
  exact ⟨hequal, hatMost.mpr (.inr hequal), hone ⟨rfl, by decide +kernel⟩,
    (hnans (.intFloat _ _)).2.2 (.inr (by decide +kernel)), hkinds hnone⟩

end Grammar

end Cohort
