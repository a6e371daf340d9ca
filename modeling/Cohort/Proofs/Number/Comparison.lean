import Cohort.Proofs.Number.Integers
import Cohort.Value.Basic
import Mathlib

/-!
Doubles as places on a line. Every double but a NaN has its place among the rationals or at one of
their two bounds, which are the infinities. Doubles are compared by their places, so where there is
no NaN their order is total and transitive, and the zeros of both signs are equal. An integer gets
the place of the double nearest to it. Greater integers get no lower places, and up to `2 ^ 53` the
place is the integer itself.
-/
namespace Cohort
open Float.Model (UnpackedFloat)
open Float.Model.UnpackedFloat (Sign)

namespace Number

def bound : Sign → WithBotTop ℚ
  | .negative => ⊥
  | .positive => ⊤

/-- The place of an unpacked double on the line; a NaN has none. -/
def unpackedPlace? : UnpackedFloat → Option (WithBotTop ℚ)
  | .notANumber => none
  | .infinity sign => some (bound sign)
  | u => some (.coe (unpackedValue u))

def place? (x : Float) : Option (WithBotTop ℚ) := unpackedPlace? x.toModel.unpack

theorem unpackedPlace?_of_isFinite {u : UnpackedFloat} (h : u.isFinite = true) :
    unpackedPlace? u = some (.coe (unpackedValue u)) := by
  cases u with
  | zero | finite => rfl
  | infinity | notANumber => cases h

theorem place?_of_isFinite {x : Float} (h : x.isFinite = true) : place? x = some (.coe (exact x)) :=
  unpackedPlace?_of_isFinite h

theorem place?_eq_none_iff {x : Float} : place? x = none ↔ x.isNaN = true := by
  change unpackedPlace? x.toModel.unpack = none ↔ x.toModel.unpack.isNaN = true
  cases x.toModel.unpack with
  | notANumber => exact iff_of_true rfl rfl
  | infinity | zero | finite => exact iff_of_false nofun nofun

lemma compare_coe (p q : ℚ) : compare (WithBotTop.coe p) (.coe q) = compare p q := by
  rcases lt_trichotomy p q with hlt | rfl | hgt
  · rw [compare_lt_iff_lt.mpr hlt, compare_lt_iff_lt.mpr (WithBotTop.coe_lt_coe.mpr hlt)]
  · rw [Std.compare_self, Std.compare_self]
  · rw [compare_gt_iff_gt.mpr hgt, compare_gt_iff_gt.mpr (WithBotTop.coe_lt_coe.mpr hgt)]

lemma compare_bound (sign sign' : Sign) :
    compare (bound sign) (bound sign') = compare sign sign' := by
  cases sign with
  | negative =>
    cases sign' with
    | negative => exact Std.compare_self
    | positive => exact compare_lt_iff_lt.mpr bot_lt_top
  | positive =>
    cases sign' with
    | negative => exact compare_gt_iff_gt.mpr bot_lt_top
    | positive => exact Std.compare_self

lemma compare_bound_coe (sign : Sign) (q : ℚ) : compare (bound sign) (.coe q) =
    match sign with | .negative => .lt | .positive => .gt := by
  cases sign with
  | negative => exact compare_lt_iff_lt.mpr (bot_lt_iff_ne_bot.mpr (WithBotTop.coe_ne_bot q))
  | positive => exact compare_gt_iff_gt.mpr (lt_top_iff_ne_top.mpr (WithBotTop.coe_ne_top q))

lemma compare_coe_bound (p : ℚ) (sign : Sign) : compare (.coe p) (bound sign) =
    match sign with | .negative => .gt | .positive => .lt := by
  rw [Std.OrientedOrd.eq_swap, compare_bound_coe]
  cases sign <;> rfl

theorem compare_eq_compare_unpackedPlace? {u v : UnpackedFloat} (hu : Canonical u)
    (hv : Canonical v) :
    u.compare v = (unpackedPlace? u).bind fun p => (unpackedPlace? v).map (compare p) := by
  by_cases hfinite : u.isFinite = true ∧ v.isFinite = true
  · obtain ⟨fu, fv⟩ := hfinite
    rw [compare_eq_compare_unpackedValue hu hv fu fv, unpackedPlace?_of_isFinite fu,
      unpackedPlace?_of_isFinite fv, Option.bind_some, Option.map_some, compare_coe]
  · cases u with
    | notANumber => rfl
    | infinity sign =>
      cases v with
      | notANumber => cases sign <;> rfl
      | infinity sign' => exact congrArg some (compare_bound sign sign').symm
      | zero | finite =>
        refine Eq.trans ?_ (congrArg some (compare_bound_coe sign _).symm)
        cases sign <;> rfl
    | zero | finite =>
      cases v with
      | notANumber => rfl
      | infinity sign' =>
        refine Eq.trans ?_ (congrArg some (compare_coe_bound _ sign').symm)
        cases sign' <;> rfl
      | zero | finite => exact absurd ⟨rfl, rfl⟩ hfinite

section Order
variable {x y z : Float}

theorem beq_iff_compare_unpack :
    (x == y) = true ↔ x.toModel.unpack.compare y.toModel.unpack = some .eq := by
  change (x.toModel.unpack.compare y.toModel.unpack == some .eq) = true ↔ _
  exact beq_iff_eq

/-- Expressions compare doubles as doubles are compared. -/
theorem compareFloats?_eq_compare_unpack (x y : Float) :
    compareFloats? x y = x.toModel.unpack.compare y.toModel.unpack := by
  have hlt : x < y ↔ x.toModel.unpack.compare y.toModel.unpack = some .lt :=
    decide_eq_true_iff.trans beq_iff_eq
  have hgt : x > y ↔ y.toModel.unpack.compare x.toModel.unpack = some .lt :=
    decide_eq_true_iff.trans beq_iff_eq
  rw [compare_comm x.toModel.unpack] at hgt
  simp only [compareFloats?, hlt, beq_iff_compare_unpack, hgt]
  rcases x.toModel.unpack.compare y.toModel.unpack with _ | (_ | _ | _) <;> rfl

theorem compareFloats?_eq_compare_place? (x y : Float) :
    compareFloats? x y = (place? x).bind fun p => (place? y).map (compare p) :=
  (compareFloats?_eq_compare_unpack x y).trans
    (compare_eq_compare_unpackedPlace? (canonical_unpack x.toModel) (canonical_unpack y.toModel))

theorem compareFloats?_eq_some_iff {order : Ordering} : compareFloats? x y = some order ↔
    ∃ p q, place? x = some p ∧ place? y = some q ∧ compare p q = order := by
  rw [compareFloats?_eq_compare_place?]
  simp only [Option.bind_eq_some_iff, Option.map_eq_some_iff]
  tauto

theorem beq_iff_compareFloats? : (x == y) = true ↔ compareFloats? x y = some .eq := by
  rw [compareFloats?_eq_compare_unpack, beq_iff_compare_unpack]

theorem beq_iff_place? : (x == y) = true ↔ ∃ p, place? x = some p ∧ place? y = some p := by
  rw [beq_iff_compareFloats?, compareFloats?_eq_some_iff]
  simp only [compare_eq_iff_eq, exists_and_left, exists_eq_right']

instance partialEquivFloat : PartialEquivBEq Float where
  symm h := by
    obtain ⟨p, hx, hy⟩ := beq_iff_place?.mp h
    exact beq_iff_place?.mpr ⟨p, hy, hx⟩
  trans h h' := by
    obtain ⟨p, hx, hy⟩ := beq_iff_place?.mp h
    obtain ⟨q, hy', hz⟩ := beq_iff_place?.mp h'
    obtain rfl : p = q := Option.some.inj (hy.symm.trans hy')
    exact beq_iff_place?.mpr ⟨p, hx, hz⟩

theorem beq_self_iff : (x == x) = true ↔ x.isNaN = false := by
  rw [beq_iff_place?, ← Bool.not_eq_true, ← place?_eq_none_iff, ← ne_eq, Option.ne_none_iff_exists']
  simp only [and_self]

theorem compareFloats?_comm (x y : Float) :
    compareFloats? y x = (compareFloats? x y).map Ordering.swap := by
  rw [compareFloats?_eq_compare_unpack, compareFloats?_eq_compare_unpack, compare_comm]

theorem compareFloats?_eq_none_iff :
    compareFloats? x y = none ↔ x.isNaN = true ∨ y.isNaN = true := by
  rw [compareFloats?_eq_compare_unpack]
  exact compare_eq_none_iff _ _

def AtMost (x y : Float) : Prop := (compareFloats? x y).any (· != .gt) = true

theorem atMost_iff_place? :
    AtMost x y ↔ ∃ p q, place? x = some p ∧ place? y = some q ∧ p ≤ q := by
  simp only [AtMost, Option.any_eq_true, compareFloats?_eq_some_iff, bne_iff_ne]
  constructor
  · rintro ⟨order, ⟨p, q, hx, hy, rfl⟩, hle⟩
    exact ⟨p, q, hx, hy, compare_le_iff_le.mp hle⟩
  · rintro ⟨p, q, hx, hy, hle⟩
    exact ⟨_, ⟨p, q, hx, hy, rfl⟩, compare_le_iff_le.mpr hle⟩

theorem AtMost.trans (hxy : AtMost x y) (hyz : AtMost y z) : AtMost x z := by
  obtain ⟨p, q, hx, hy, hpq⟩ := atMost_iff_place?.mp hxy
  obtain ⟨q', r, hy', hz, hqr⟩ := atMost_iff_place?.mp hyz
  obtain rfl : q = q' := Option.some.inj (hy.symm.trans hy')
  exact atMost_iff_place?.mpr ⟨p, r, hx, hz, hpq.trans hqr⟩

end Order

section Integers
variable {m n : ℤ}

/-- Up to `2 ^ 53` in size nothing is rounded. -/
theorem exact_ofInt_of_le (h : n.natAbs ≤ 2 ^ 53) : exact (Float.ofInt n) = n := by
  rcases h.lt_or_eq with hlt | heq
  · exact (exact_ofInt_of_lt hlt).2
  · obtain rfl | rfl : n = 2 ^ 53 ∨ n = -2 ^ 53 := by omega
    · decide +kernel
    · decide +kernel

lemma rounded_zero : rounded 0 = 0 := by simp [rounded, nearestEven]

lemma rounded_natCast_nonneg (k : ℕ) : 0 ≤ rounded k := by
  unfold rounded
  positivity

lemma rounded_natCast_mono {k l : ℕ} (h : k ≤ l) : rounded k ≤ rounded l := by
  rcases k.eq_zero_or_pos with rfl | hpos
  · rw [Nat.cast_zero, rounded_zero]
    exact rounded_natCast_nonneg l
  · exact rounded_mono (Nat.cast_pos.mpr hpos) (Nat.cast_le.mpr h)

lemma exact_ofInt_of_nonneg (h : n.natAbs ≤ 2 ^ 63) (hn : 0 ≤ n) :
    exact (Float.ofInt n) = rounded n.natAbs := by
  rw [(exact_ofInt h).2]
  rcases hn.eq_or_lt with rfl | hpos
  · simp [rounded_zero]
  · rw [Int.sign_eq_one_of_pos hpos, Int.cast_one, one_mul]

lemma exact_ofInt_of_nonpos (h : n.natAbs ≤ 2 ^ 63) (hn : n ≤ 0) :
    exact (Float.ofInt n) = -rounded n.natAbs := by
  rw [(exact_ofInt h).2]
  rcases hn.eq_or_lt with rfl | hneg
  · simp [rounded_zero]
  · rw [Int.sign_eq_neg_one_of_neg hneg, Int.cast_neg, Int.cast_one, neg_one_mul]

theorem exact_ofInt_mono (hm : m.natAbs ≤ 2 ^ 63) (hn : n.natAbs ≤ 2 ^ 63) (h : m ≤ n) :
    exact (Float.ofInt m) ≤ exact (Float.ofInt n) := by
  rcases le_total 0 m with hpos | hneg
  · rw [exact_ofInt_of_nonneg hm hpos, exact_ofInt_of_nonneg hn (hpos.trans h)]
    exact rounded_natCast_mono (by omega)
  · rw [exact_ofInt_of_nonpos hm hneg]
    rcases le_total 0 n with hpos' | hneg'
    · rw [exact_ofInt_of_nonneg hn hpos']
      exact (neg_nonpos.mpr (rounded_natCast_nonneg _)).trans (rounded_natCast_nonneg _)
    · rw [exact_ofInt_of_nonpos hn hneg']
      exact neg_le_neg (rounded_natCast_mono (by omega))

theorem place?_ofInt (h : n.natAbs ≤ 2 ^ 63) :
    place? (Float.ofInt n) = some (.coe (exact (Float.ofInt n))) :=
  place?_of_isFinite (exact_ofInt h).1

theorem isNaN_ofInt (h : n.natAbs ≤ 2 ^ 63) : (Float.ofInt n).isNaN = false := by
  rw [← Bool.not_eq_true, ← place?_eq_none_iff, place?_ofInt h]
  nofun

theorem beq_ofInt_iff (hm : m.natAbs ≤ 2 ^ 63) (hn : n.natAbs ≤ 2 ^ 63) :
    (Float.ofInt m == Float.ofInt n) = true ↔
      exact (Float.ofInt m) = exact (Float.ofInt n) := by
  rw [beq_iff_place?, place?_ofInt hm, place?_ofInt hn]
  constructor
  · rintro ⟨p, hp, hp'⟩
    exact WithBotTop.coe_injective (Option.some.inj (hp.trans hp'.symm))
  · intro heq
    exact ⟨_, rfl, congrArg (some ∘ WithBotTop.coe) heq.symm⟩

theorem atMost_ofInt_iff (hm : m.natAbs ≤ 2 ^ 63) (hn : n.natAbs ≤ 2 ^ 63) :
    AtMost (Float.ofInt m) (Float.ofInt n) ↔ exact (Float.ofInt m) ≤ exact (Float.ofInt n) := by
  simp [atMost_iff_place?, place?_ofInt hm, place?_ofInt hn]

end Integers

end Number

end Cohort
