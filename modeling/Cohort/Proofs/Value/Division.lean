import Cohort.Proofs.Grammar.Application
import Cohort.Proofs.Number.Bits
import Cohort.Proofs.Number.Comparison
import Cohort.Proofs.Number.Words
import Mathlib

/-!
What a division comes to. The three operators that divide refuse what is not a number before they
look at the divisor, refuse a zero of any kind, and have a value for all other numbers but one pair
of integers. The quotient of the least integer and minus one does not fit a word, and where an
integer quotient is asked for this is reported as a division by zero.
-/
namespace Cohort

namespace Number
open Float.Model (UnpackedFloat)
variable {x : Float} {n : ℤ}

/-- Only the two zeros are unpacked to zero. -/
theorem eq_zero_of_unpack {sign : UnpackedFloat.Sign} (h : x.toModel.unpack = .zero sign) :
    x = 0.0 ∨ x = -0.0 := by
  obtain ⟨bits, hvalid⟩ := x
  change UnpackedFloat.unpack .binary64 bits.toBitVec = .zero sign at h
  unfold UnpackedFloat.unpack at h
  dsimp only at h
  split_ifs at h with hones hinf hmin hzero
  have hexponent : exponentField bits = 0 := (unpackExponent_eq_iff bits 0#_).mp hmin
  have hmantissa : mantissaField bits = 0 :=
    (toNat_unpackMantissa bits).symm.trans (congrArg BitVec.toNat hzero)
  have hlt := bits.toNat_lt
  unfold exponentField at hexponent
  unfold mantissaField at hmantissa
  obtain hnone | hsign : bits.toNat = 0 ∨ bits.toNat = 2 ^ 63 := by omega
  · obtain rfl : bits = 0 := UInt64.toNat_inj.mp hnone
    exact .inl rfl
  · obtain rfl : bits = 0x8000000000000000 := UInt64.toNat_inj.mp hsign
    exact .inr rfl

theorem beq_zero_iff : (x == 0.0) = true ↔ x = 0.0 ∨ x = -0.0 := by
  constructor
  · intro h
    obtain heq | ⟨⟨sign, hzero⟩, -⟩ := unpack_eq_or_zero_of_beq h
    · have hpositive : x.toModel.unpack = .zero .positive := heq.trans rfl
      exact eq_zero_of_unpack hpositive
    · exact eq_zero_of_unpack hzero
  · rintro (rfl | rfl)
    · decide +kernel
    · decide +kernel

/-- Rounding makes no integer zero. -/
theorem ofInt_beq_zero_iff (h : n.natAbs ≤ 2 ^ 63) :
    (Float.ofInt n == 0.0) = true ↔ n = 0 := by
  have hzero : (0.0 : Float) = Float.ofInt 0 := rfl
  rw [hzero, beq_ofInt_iff h (by decide), exact_ofInt_of_le (n := 0) (by decide), Int.cast_zero]
  rcases lt_or_ge n.natAbs (2 ^ 53) with hsmall | hlarge
  · rw [(exact_ofInt_of_lt hsmall).2, Int.cast_eq_zero]
  · have hsize := two_pow_le_abs_exact_ofInt hlarge h
    refine iff_of_false (fun hexact => ?_) (fun hn => ?_)
    · rw [hexact] at hsize
      norm_num at hsize
    · rw [hn] at hlarge
      norm_num at hlarge

end Number

namespace Value
open Number (beq_zero_iff ofInt_beq_zero_iff natAbs_toInt_le)
variable {l r v : Value}

def IsNumber (v : Value) : Prop := (∃ n, v = int n) ∨ ∃ x, v = float x

def IsZero (v : Value) : Prop := v = int 0 ∨ v = float 0.0 ∨ v = float (-0.0)

theorem isNumber_int (n : Int64) : (int n).IsNumber := .inl ⟨n, rfl⟩

theorem isNumber_float (x : Float) : (float x).IsNumber := .inr ⟨x, rfl⟩

theorem isNumber_iff : v.IsNumber ↔ ∃ x, v.toFloat? = some x := by
  constructor
  · rintro (⟨n, rfl⟩ | ⟨x, rfl⟩)
    · exact ⟨_, rfl⟩
    · exact ⟨_, rfl⟩
  · rintro ⟨x, h⟩
    match v with
    | .int n => exact isNumber_int n
    | .float y => exact isNumber_float y

theorem isZero_int_iff {n : Int64} : (int n).IsZero ↔ n = 0 := by simp [IsZero]

theorem isZero_float_iff {x : Float} : (float x).IsZero ↔ x = 0.0 ∨ x = -0.0 := by simp [IsZero]

theorem IsZero.isNumber (h : v.IsZero) : v.IsNumber := by
  obtain rfl | rfl | rfl := h
  · exact isNumber_int 0
  · exact isNumber_float 0.0
  · exact isNumber_float (-0.0)

theorem isZero_iff : v.IsZero ↔ v.toFloat?.any (· == 0.0) = true := by
  match v with
  | .int n =>
    rw [isZero_int_iff, ← Int64.toInt_inj]
    exact (ofInt_beq_zero_iff (natAbs_toInt_le n)).symm
  | .float x => exact isZero_float_iff.trans beq_zero_iff.symm
  | .null | .bool _ | .string _ | .date _ | .array _ | .object _ =>
    simp [IsZero, toFloat?, Scalar.toFloat?]

end Value

namespace Operators
open Number (FitsWord exists_toInt_eq_iff fdiv_eq fitsWord_tdiv_iff fitsWord_tmod narrow?_eq_none_iff
  pred?_eq quotient? quotient?_eq quotient?_eq_some_iff remainder?_eq toInt_ne_zero
  toInt_ofInt_of_fitsWord)
open Value (isNumber_iff isZero_iff)
variable {symbol : String} {l r : Value} {outcome : Outcome}

theorem dividesByZero_iff : dividesByZero l r = true ↔ l.IsNumber ∧ r.IsZero := by
  rw [dividesByZero, Bool.and_eq_true, isNumber_iff, isZero_iff, Option.isSome_iff_exists]

section Words
variable {a b : Int64}

theorem dividesByZero_eq_false (hb : b ≠ 0) : dividesByZero (.int a) (.int b) = false := by
  rw [← Bool.not_eq_true, dividesByZero_iff, Value.isZero_int_iff]
  exact fun h => hb h.2

theorem exists_divideWords?_eq_ok (a b : Int64) : ∃ v, divideWords? a b = some (.ok v) := by
  unfold divideWords?
  split
  next hzero =>
    obtain ⟨q, hq, -⟩ := Option.bind_eq_some_iff.mp hzero
    exact ⟨.int q, by rw [hq]; rfl⟩
  next => exact ⟨_, rfl⟩

/-- The floor is the quotient that is cut off towards zero, or one less. -/
theorem floorDivideWords?_eq (hb : b ≠ 0) :
    floorDivideWords? a b =
      some (if FitsWord (a.toInt.tdiv b.toInt) then .ok (.int (Int64.ofInt (a.toInt.fdiv b.toInt)))
        else .error .divisionByZero) := by
  have hn := toInt_ne_zero hb
  cases hquotient : quotient? a b with
  | none =>
    rw [floorDivideWords?, hquotient, if_neg]
    rwa [← narrow?_eq_none_iff, ← quotient?_eq hb]
  | some q =>
    have hq := (quotient?_eq_some_iff hb).mp hquotient
    have hfits : FitsWord (a.toInt.tdiv b.toInt) := exists_toInt_eq_iff.mp ⟨q, hq⟩
    have hcut : Int64.ofInt (a.toInt.tmod b.toInt) ≠ 0 ∧ decide (a < 0) ≠ decide (b < 0) ↔
        a.toInt.tmod b.toInt ≠ 0 ∧ decide (a.toInt < 0) ≠ decide (b.toInt < 0) := by
      simp only [ne_eq, ← Int64.toInt_inj, Int64.lt_iff_toInt_lt, Int64.toInt_zero,
        toInt_ofInt_of_fitsWord (fitsWord_tmod hn)]
    rw [floorDivideWords?, hquotient, if_pos hfits, fdiv_eq hn]
    simp only [remainder?_eq hquotient, Option.bind_eq_bind, Option.bind_some, hcut]
    split_ifs with hless
    · rw [pred?_eq hquotient (hcut.mpr hless).1]
      rfl
    · rw [← hq, Int64.ofInt_toInt]

/-- The operator divides words as far as it divides integers. -/
theorem divideWords?_eq_some_divide (hb : b ≠ 0) :
    divideWords? a b = some (divide (.int a) (.int b)) := by
  rw [divide, dividesByZero_eq_false hb, if_neg Bool.false_ne_true, Option.some_get]

theorem floorDivideWords?_eq_some_floorDivide (hb : b ≠ 0) :
    floorDivideWords? a b = some (floorDivide (.int a) (.int b)) := by
  rw [floorDivide, dividesByZero_eq_false hb, if_neg Bool.false_ne_true, Option.some_get]

end Words

namespace Arithmetic

theorem exists_apply_eq_ok (op : Arithmetic) (hl : l.IsNumber) (hr : r.IsNumber) :
    ∃ v, op.apply l r = .ok v := by
  obtain ⟨x, hx⟩ := isNumber_iff.mp hl
  obtain ⟨y, hy⟩ := isNumber_iff.mp hr
  unfold apply
  split
  · split
    · exact ⟨_, rfl⟩
    · exact ⟨_, rfl⟩
  · exact ⟨_, rfl⟩
  · rw [hx, hy]
    exact ⟨_, rfl⟩

theorem apply_eq_mismatch (op : Arithmetic) (h : ¬(l.IsNumber ∧ r.IsNumber)) :
    op.apply l r = mismatch op.symbol l r := by
  unfold apply
  split
  · exact absurd ⟨Value.isNumber_int _, Value.isNumber_int _⟩ h
  · exact absurd ⟨Value.isNumber_float _, Value.isNumber_float _⟩ h
  · split
    next x y hx hy => exact absurd ⟨isNumber_iff.mpr ⟨x, hx⟩, isNumber_iff.mpr ⟨y, hy⟩⟩ h
    next => rfl

end Arithmetic

/-- An integer quotient is asked for of the two integers of which it is no word. -/
def LosesQuotient (symbol : String) (l r : Value) : Prop :=
  symbol = "//" ∧ l = .int Int64.minValue ∧ r = .int (-1)

inductive Divides (symbol : String) (l r : Value) : Outcome → Prop where
  | mismatch (h : ¬(l.IsNumber ∧ r.IsNumber)) : Divides symbol l r (mismatch symbol l r)
  | zero (hl : l.IsNumber) (hr : r.IsZero) : Divides symbol l r (.error .divisionByZero)
  | lost (h : LosesQuotient symbol l r) : Divides symbol l r (.error .divisionByZero)
  | value (v : Value) (hl : l.IsNumber) (hr : r.IsNumber) (hzero : ¬r.IsZero)
    (hlost : ¬LosesQuotient symbol l r) : Divides symbol l r (.ok v)

theorem divides_guarded
    (h : (l.IsNumber → ¬r.IsZero) → Divides symbol l r outcome) :
    Divides symbol l r (if dividesByZero l r then .error .divisionByZero else outcome) := by
  split
  next hzero =>
    obtain ⟨hl, hr⟩ := dividesByZero_iff.mp hzero
    exact .zero hl hr
  next hzero => exact h fun hl hr => hzero (dividesByZero_iff.mpr ⟨hl, hr⟩)

/-- A division that falls back on doubles loses no quotient. -/
theorem Arithmetic.divides (op : Arithmetic) (hsymbol : op.symbol ≠ "//")
    (hzero : l.IsNumber → ¬r.IsZero) : Divides op.symbol l r (op.apply l r) := by
  by_cases hnumbers : l.IsNumber ∧ r.IsNumber
  · obtain ⟨v, hv⟩ := op.exists_apply_eq_ok hnumbers.1 hnumbers.2
    rw [hv]
    exact .value v hnumbers.1 hnumbers.2 (hzero hnumbers.1) fun hlost => hsymbol hlost.1
  · rw [op.apply_eq_mismatch hnumbers]
    exact .mismatch hnumbers

theorem divides_divide (l r : Value) : Divides "/" l r (divide l r) := by
  have hsymbol : division.symbol ≠ "//" := by decide
  refine divides_guarded fun hzero => ?_
  split
  next a b =>
    obtain ⟨v, hv⟩ := exists_divideWords?_eq_ok a b
    rw [Option.get_of_eq_some _ hv]
    exact .value v (Value.isNumber_int a) (Value.isNumber_int b) (hzero (Value.isNumber_int a))
      fun hlost => hsymbol hlost.1
  next => exact division.divides hsymbol hzero

theorem divides_modulo (l r : Value) : Divides "%" l r (modulo l r) :=
  divides_guarded fun hzero => remainder.divides (by decide) hzero

theorem divides_floorDivide (l r : Value) : Divides "//" l r (floorDivide l r) := by
  refine divides_guarded fun hzero => ?_
  split
  next a b =>
    have hl := Value.isNumber_int a
    have hr := Value.isNumber_int b
    have hb : b ≠ 0 := fun h => hzero hl (Value.isZero_int_iff.mpr h)
    have hlost : LosesQuotient "//" (.int a) (.int b) ↔ a = Int64.minValue ∧ b = -1 := by
      simp [LosesQuotient]
    rw [Option.get_of_eq_some _ (floorDivideWords?_eq hb)]
    split_ifs with hfits
    · rw [fitsWord_tdiv_iff] at hfits
      exact .value _ hl hr (hzero hl) (mt hlost.mp hfits)
    · rw [fitsWord_tdiv_iff, not_not] at hfits
      exact .lost (hlost.mpr hfits)
  next hints =>
    have hlost : ¬LosesQuotient "//" l r := fun ⟨_, hl, hr⟩ => hints _ _ hl hr
    split
    next x y hx hy =>
      have hl := isNumber_iff.mpr ⟨x, hx⟩
      exact .value _ hl (isNumber_iff.mpr ⟨y, hy⟩) (hzero hl) hlost
    next hnone =>
      refine .mismatch fun ⟨hl, hr⟩ => ?_
      obtain ⟨x, hx⟩ := isNumber_iff.mp hl
      obtain ⟨y, hy⟩ := isNumber_iff.mp hr
      exact hnone x y hx hy

namespace Divides
variable (h : Divides symbol l r outcome)
include h

theorem eq_divisionByZero_iff :
    outcome = .error .divisionByZero ↔ l.IsNumber ∧ r.IsZero ∨ LosesQuotient symbol l r := by
  cases h with
  | mismatch h =>
    refine iff_of_false nofun ?_
    rintro (⟨hl, hr⟩ | ⟨-, rfl, rfl⟩)
    · exact h ⟨hl, hr.isNumber⟩
    · exact h ⟨Value.isNumber_int _, Value.isNumber_int _⟩
  | zero hl hr => exact iff_of_true rfl (.inl ⟨hl, hr⟩)
  | lost h => exact iff_of_true rfl (.inr h)
  | value v hl hr hzero hlost =>
    exact iff_of_false nofun fun h => h.elim (fun h => hzero h.2) hlost

theorem eq_typeError_iff {fault : TypeFault} :
    outcome = .error (.typeError fault) ↔
      ¬(l.IsNumber ∧ r.IsNumber) ∧ fault = .operands symbol l.kind r.kind := by
  cases h with
  | mismatch h =>
    rw [Operators.mismatch, Except.error.injEq, EvalError.typeError.injEq, eq_comm,
      and_iff_right h]
  | zero hl hr => exact iff_of_false nofun fun h => h.1 ⟨hl, hr.isNumber⟩
  | lost h =>
    obtain ⟨-, rfl, rfl⟩ := h
    exact iff_of_false nofun fun h => h.1 ⟨Value.isNumber_int _, Value.isNumber_int _⟩
  | value v hl hr => exact iff_of_false nofun fun h => h.1 ⟨hl, hr⟩

theorem exists_eq_ok_iff :
    (∃ v, outcome = .ok v) ↔
      l.IsNumber ∧ r.IsNumber ∧ ¬r.IsZero ∧ ¬LosesQuotient symbol l r := by
  cases h with
  | mismatch h => exact iff_of_false nofun fun hok => h ⟨hok.1, hok.2.1⟩
  | zero hl hr => exact iff_of_false nofun fun hok => hok.2.2.1 hr
  | lost h => exact iff_of_false nofun fun hok => hok.2.2.2 h
  | value v hl hr hzero hlost => exact iff_of_true ⟨v, rfl⟩ ⟨hl, hr, hzero, hlost⟩

end Divides

end Operators

namespace Grammar
open Operators (Divides LosesQuotient)
variable {symbol : String}

def divisionSymbols : List String := ["/", "//", "%"]

theorem exists_divides (h : symbol ∈ divisionSymbols) (l r : Value) :
    ∃ precedence apply, standard.binary.get? symbol = some ⟨precedence, .eager apply⟩ ∧
      Divides symbol l r (apply l r) := by
  simp only [divisionSymbols, List.mem_cons, List.not_mem_nil, or_false] at h
  rcases h with rfl | rfl | rfl
  · exact ⟨_, _, rfl, Operators.divides_divide l r⟩
  · exact ⟨_, _, rfl, Operators.divides_floorDivide l r⟩
  · exact ⟨_, _, rfl, Operators.divides_modulo l r⟩

/-- A division of two values is refused as one by zero when the first is a number and the second a
zero of any kind, and besides when the integer quotient of the least word and minus one is asked
for. It is refused for the kinds of its operands when these are not both numbers, whatever the
divisor. In every other case it has a value. -/
theorem divisions_refuse (h : symbol ∈ divisionSymbols) (l r : Value) :
    (standard.Refuses symbol l r .divisionByZero ↔
      l.IsNumber ∧ r.IsZero ∨ symbol = "//" ∧ l = .int Int64.minValue ∧ r = .int (-1)) ∧
    (∀ fault, standard.Refuses symbol l r (.typeError fault) ↔
      ¬(l.IsNumber ∧ r.IsNumber) ∧ fault = .operands symbol l.kind r.kind) ∧
    ((∃ value, standard.Gives symbol l r value) ↔
      l.IsNumber ∧ r.IsNumber ∧ ¬r.IsZero ∧
        ¬(symbol = "//" ∧ l = .int Int64.minValue ∧ r = .int (-1))) := by
  obtain ⟨precedence, apply, hop, hdivides⟩ := exists_divides h l r
  simp only [refuses_iff hop, gives_iff hop]
  exact ⟨hdivides.eq_divisionByZero_iff, fun fault => hdivides.eq_typeError_iff,
    hdivides.exists_eq_ok_iff⟩

/-- A negative zero, a string by zero, and the least integer by minus one as a double. -/
theorem divisions_refuse_mixed :
    let least : Value := .int Int64.minValue
    ("/" ∈ divisionSymbols ∧ "//" ∈ divisionSymbols ∧ "%" ∈ divisionSymbols) ∧
      standard.Refuses "/" (.int 1) (.float (-0.0)) .divisionByZero ∧
      standard.Refuses "%" (.string "1") (.int 0)
        (.typeError (.operands "%" .string .integer)) ∧
      ∃ value, standard.Gives "//" least (.float (-1.0)) value := by
  intro least
  have hmem : "/" ∈ divisionSymbols ∧ "//" ∈ divisionSymbols ∧ "%" ∈ divisionSymbols := by
    simp [divisionSymbols]
  have hstring : ¬(Value.string "1").IsNumber := by
    rintro (⟨_, h⟩ | ⟨_, h⟩) <;> cases h
  have hone : ¬(Value.float (-1.0)).IsZero := by
    rw [Value.isZero_iff]
    decide +kernel
  obtain ⟨hzero, -, -⟩ := divisions_refuse hmem.1 (.int 1) (.float (-0.0))
  obtain ⟨-, hkinds, -⟩ := divisions_refuse hmem.2.2 (.string "1") (.int 0)
  obtain ⟨-, -, hvalue⟩ := divisions_refuse hmem.2.1 least (.float (-1.0))
  exact ⟨hmem, hzero.mpr (.inl ⟨Value.isNumber_int 1, .inr (.inr rfl)⟩),
    (hkinds _).mpr ⟨fun h => hstring h.1, rfl⟩,
    hvalue.mpr ⟨Value.isNumber_int _, Value.isNumber_float _, hone, fun h => by cases h.2.2⟩⟩

/-- The least integer by minus one is refused as a division by zero where an integer quotient is
asked for, and has a value otherwise. -/
theorem floorDivide_least :
    let least : Value := .int Int64.minValue
    let divisor : Value := .int (-1)
    standard.Refuses "//" least divisor .divisionByZero ∧
      least.IsNumber ∧ divisor.IsNumber ∧ ¬divisor.IsZero ∧
      (∃ value, standard.Gives "/" least divisor value) ∧
      ∃ value, standard.Gives "%" least divisor value := by
  intro least divisor
  have hleast : least.IsNumber := Value.isNumber_int _
  have hdivisor : divisor.IsNumber := Value.isNumber_int _
  have hzero : ¬divisor.IsZero := by
    rw [Value.isZero_int_iff]
    decide
  refine ⟨(refuses_iff rfl).mpr ?_, hleast, hdivisor, hzero, ?_, ?_⟩
  · exact (Operators.divides_floorDivide _ _).eq_divisionByZero_iff.mpr (.inr ⟨rfl, rfl, rfl⟩)
  · obtain ⟨value, hvalue⟩ := (Operators.divides_divide least divisor).exists_eq_ok_iff.mpr
      ⟨hleast, hdivisor, hzero, fun h => absurd h.1 (by decide)⟩
    exact ⟨value, (gives_iff rfl).mpr hvalue⟩
  · obtain ⟨value, hvalue⟩ := (Operators.divides_modulo least divisor).exists_eq_ok_iff.mpr
      ⟨hleast, hdivisor, hzero, fun h => absurd h.1 (by decide)⟩
    exact ⟨value, (gives_iff rfl).mpr hvalue⟩

end Grammar

end Cohort
