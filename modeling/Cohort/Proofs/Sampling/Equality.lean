import Cohort.Proofs.Document.Relations
import Cohort.Proofs.Number.Integers
import Cohort.Proofs.Number.Shortest
import Cohort.Proofs.Number.Words
import Cohort.Proofs.Sampling.Canonical
import Cohort.Proofs.Sampling.Rates
import Mathlib

/-!
Samples of values that expressions take for equal. Such values differ only in how their numbers are
held. They have the same canonical text, and are sampled alike, just when every integer in one of
them that stands for a double in the other is written like that double. Up to `2 ^ 53` every integer
is; from there on a double is written by its shortest digits, which need not be those of the
integer.
-/
namespace Cohort
open Cohort.Number
open Cohort.Text (Ends ends_cons)

section Numbers
variable {x y : Float} {n : ℤ}

lemma canonicalFloat_congr (h : x.toModel.unpack = y.toModel.unpack) :
    canonicalFloat x = canonicalFloat y := by
  have hfinite : x.isFinite = y.isFinite := congrArg Float.Model.UnpackedFloat.isFinite h
  simp only [canonicalFloat, hfinite, whole?, Style.text, h]

lemma canonicalFloat_of_zero {sign} (h : x.toModel.unpack = .zero sign) :
    canonicalFloat x = "0" := by
  have hfinite : x.isFinite = true := congrArg Float.Model.UnpackedFloat.isFinite h
  simp only [canonicalFloat, hfinite, whole?, h]
  rfl

/-- Doubles that are equal have the same text, zeros of both signs included. -/
theorem canonicalFloat_eq_of_beq (h : (x == y) = true) : canonicalFloat x = canonicalFloat y := by
  obtain h | ⟨⟨_, hx⟩, _, hy⟩ := unpack_eq_or_zero_of_beq h
  · exact canonicalFloat_congr h
  · rw [canonicalFloat_of_zero hx, canonicalFloat_of_zero hy]

theorem numeral_canonicalFloat (hx : x.isFinite = true) : Numeral (canonicalFloat x) := by
  rw [canonicalFloat, hx, Bool.not_true, if_neg Bool.false_ne_true]
  split
  · split_ifs
    · exact Numeral.int _
    · exact Numeral.canonical hx
  · exact Numeral.canonical hx

/-- An integer that is written like the double nearest to it: one that is held exactly, or the one
that the shortest decimal of the double stands for. -/
def Spelled (n : ℤ) : Prop := n.natAbs ≤ 2 ^ 53 ∨ shortestValue (Float.ofInt n) = n

instance (n : ℤ) : Decidable (Spelled n) := inferInstanceAs (Decidable (_ ∨ _))

lemma canonicalFloat_of_two_pow_le (hx : x.isFinite = true) (h : 2 ^ 53 ≤ |exact x|) :
    canonicalFloat x = Style.canonical.text x := by
  rw [canonicalFloat, hx, Bool.not_true, if_neg Bool.false_ne_true]
  split
  next k hk =>
    rw [exact_of_whole? hk] at h
    have hk' : 2 ^ 53 ≤ |k| := by exact_mod_cast h
    rw [Int.abs_eq_natAbs] at hk'
    exact if_neg (by omega)
  next => rfl

/-- The double nearest to an integer in the range of a word has the text of the integer just when
the integer is written like it. -/
theorem canonicalFloat_ofInt_eq_iff (h : n.natAbs ≤ 2 ^ 63) :
    canonicalFloat (Float.ofInt n) = toString n ↔ Spelled n := by
  rcases lt_trichotomy n.natAbs (2 ^ 53) with hlt | heq | hgt
  · obtain ⟨hfinite, hvalue⟩ := exact_ofInt_of_lt hlt
    refine iff_of_true ?_ (.inl hlt.le)
    rw [canonicalFloat, hfinite, (whole?_eq_some_iff hfinite).mpr hvalue]
    exact if_pos hlt
  · refine iff_of_true ?_ (.inl heq.le)
    obtain rfl | rfl : n = 2 ^ 53 ∨ n = -2 ^ 53 := by omega
    · decide +kernel
    · decide +kernel
  · have hspelled : Spelled n ↔ shortestValue (Float.ofInt n) = n :=
      or_iff_right (not_le.mpr hgt)
    rw [hspelled, canonicalFloat_of_two_pow_le (exact_ofInt h).1
      (two_pow_le_abs_exact_ofInt hgt.le h)]
    exact canonical_text_eq_iff (exact_ofInt_mul_pos hgt.le h) (by omega)

end Numbers

namespace Scalar
variable {s t : Scalar}

inductive Equal : Scalar → Scalar → Prop where
  | same (s : Scalar) : Equal s s
  | floats {x y : Float} (h : (x == y) = true) : Equal (.float x) (.float y)
  | intFloat {n : Int64} {x : Float} (h : (Float.ofInt n.toInt == x) = true) :
    Equal (.int n) (.float x)
  | floatInt {n : Int64} {x : Float} (h : (Float.ofInt n.toInt == x) = true) :
    Equal (.float x) (.int n)

theorem equal_of_looseEq (h : s.looseEq t = true) : Equal s t := by
  cases s with
  | null =>
    cases t with
    | null => exact .same _
    | _ => cases h
  | bool a =>
    cases t with
    | bool b => exact eq_of_beq (α := Bool) h ▸ .same _
    | _ => cases h
  | int n =>
    cases t with
    | int m => exact eq_of_beq (α := Int64) h ▸ .same _
    | float x => exact .intFloat h
    | _ => cases h
  | float x =>
    cases t with
    | int n => exact .floatInt h
    | float y => exact .floats h
    | _ => cases h
  | string a =>
    cases t with
    | string b => exact eq_of_beq (α := String) h ▸ .same _
    | _ => cases h
  | date a =>
    cases t with
    | date b => exact eq_of_beq (α := Instant) h ▸ .same _
    | _ => cases h

/-- An integer that stands for a double, in either place, is written like it. -/
def spelledAlike : Scalar → Scalar → Bool
  | .int n, .float _ | .float _, .int n => decide (Spelled n.toInt)
  | _, _ => true

/-- An integer that every double can take the place of: one of a size up to `2 ^ 53`. -/
def Small : Scalar → Prop
  | .int n => n.toInt.natAbs ≤ 2 ^ 53
  | _ => True

theorem Small.spelledAlike (hs : s.Small) (ht : t.Small) : s.spelledAlike t = true := by
  cases s with
  | int n =>
    cases t with
    | float x => exact decide_eq_true (.inl hs)
    | _ => rfl
  | float x =>
    cases t with
    | int n => exact decide_eq_true (.inl ht)
    | _ => rfl
  | _ => rfl

lemma canonicalFloat_eq_iff {n : Int64} {x : Float} (h : (Float.ofInt n.toInt == x) = true) :
    canonicalFloat x = toString n.toInt ↔ decide (Spelled n.toInt) = true := by
  rw [← canonicalFloat_eq_of_beq h, decide_eq_true_iff,
    canonicalFloat_ofInt_eq_iff (natAbs_toInt_le n)]

theorem canonical_eq_iff (h : s.looseEq t = true) :
    s.canonical = t.canonical ↔ s.spelledAlike t = true := by
  cases equal_of_looseEq h with
  | same => exact iff_of_true rfl (by cases s <;> rfl)
  | floats h => exact iff_of_true (canonicalFloat_eq_of_beq h) rfl
  | intFloat h => exact eq_comm.trans (canonicalFloat_eq_iff h)
  | floatInt h => exact canonicalFloat_eq_iff h

/-- When their texts differ, both are numbers. -/
theorem numeral_of_canonical_ne (h : s.looseEq t = true) (hne : s.canonical ≠ t.canonical) :
    Numeral s.canonical ∧ Numeral t.canonical := by
  have hfloat {n : Int64} {x : Float} (h : (Float.ofInt n.toInt == x) = true) :
      Numeral (canonicalFloat x) := by
    rw [← canonicalFloat_eq_of_beq h]
    exact numeral_canonicalFloat (exact_ofInt (natAbs_toInt_le n)).1
  cases equal_of_looseEq h with
  | same => exact absurd rfl hne
  | floats h => exact absurd (canonicalFloat_eq_of_beq h) hne
  | intFloat h => exact ⟨Numeral.int _, hfloat h⟩
  | floatInt h => exact ⟨hfloat h, Numeral.int _⟩

/-- Equal scalars that begin the same text end at the same place of it, unless a number goes on
there. -/
theorem spelledAlike_of_append_eq {rest rest' : List Char} (h : s.looseEq t = true)
    (hrest : Ends isNumeral rest) (hrest' : Ends isNumeral rest')
    (heq : s.canonical.toList ++ rest = t.canonical.toList ++ rest') :
    s.spelledAlike t = true ∧ rest = rest' := by
  rw [← canonical_eq_iff h]
  by_cases htext : s.canonical = t.canonical
  · rw [htext] at heq
    exact ⟨htext, List.append_cancel_left heq⟩
  · obtain ⟨hs, ht⟩ := numeral_of_canonical_ne h htext
    have hsame := congrArg (List.takeWhile isNumeral) heq
    rw [hrest.takeWhile_append hs, hrest'.takeWhile_append ht] at hsame
    exact absurd (String.toList_inj.mp hsame) htext

end Scalar

section Members
variable {γ : Type} {R S : γ → γ → Prop} {f : γ → List Char} {xs ys : List γ} {close : Char}
  {rest rest' : List Char}

/-- Where the text of `x` and what follows it is that of `y` and what follows it, both end at the
same place and `x` is related to `y`. No number may go on after them. -/
def Aligned (f : γ → List Char) (S : γ → γ → Prop) (x y : γ) : Prop :=
  ∀ rest rest', Ends isNumeral rest → Ends isNumeral rest' → f x ++ rest = f y ++ rest' →
    S x y ∧ rest = rest'

lemma ends_flatMap_comma (hclose : isNumeral close = false) :
    Ends isNumeral (xs.flatMap (fun x => ',' :: f x) ++ close :: rest) := by
  cases xs with
  | nil => exact ends_cons hclose
  | cons x xs => exact ends_cons rfl

/-- Two lists of one length are aligned when their members are. -/
theorem forall₂_of_flatMap_comma_eq (hclose : isNumeral close = false)
    (h : List.Forall₂ (Aligned f S) xs ys)
    (heq : xs.flatMap (fun x => ',' :: f x) ++ close :: rest =
      ys.flatMap (fun y => ',' :: f y) ++ close :: rest') :
    List.Forall₂ S xs ys ∧ rest = rest' := by
  induction h with
  | nil => exact ⟨.nil, (List.cons.inj heq).2⟩
  | cons hxy _ ih =>
    simp only [List.flatMap_cons, List.cons_append, List.append_assoc, List.cons.injEq,
      true_and] at heq
    obtain ⟨hfirst, htail⟩ :=
      hxy _ _ (ends_flatMap_comma hclose) (ends_flatMap_comma hclose) heq
    obtain ⟨hothers, hrest⟩ := ih htail
    exact ⟨.cons hfirst hothers, hrest⟩

theorem forall₂_of_intercalate_comma_eq (hclose : isNumeral close = false)
    (h : List.Forall₂ (Aligned f S) xs ys)
    (heq : [','].intercalate (xs.map f) ++ close :: rest =
      [','].intercalate (ys.map f) ++ close :: rest') :
    List.Forall₂ S xs ys ∧ rest = rest' := by
  cases h with
  | nil => exact ⟨.nil, (List.cons.inj heq).2⟩
  | cons hxy h =>
    rw [intercalate_comma_cons, intercalate_comma_cons, List.append_assoc,
      List.append_assoc] at heq
    obtain ⟨hfirst, htail⟩ :=
      hxy _ _ (ends_flatMap_comma hclose) (ends_flatMap_comma hclose) heq
    obtain ⟨hothers, hrest⟩ := forall₂_of_flatMap_comma_eq hclose h htail
    exact ⟨.cons hfirst hothers, hrest⟩

theorem map_eq_of_forall₂ (h : ∀ x y, R x y → S x y → f x = f y) (hR : List.Forall₂ R xs ys)
    (hS : List.Forall₂ S xs ys) : xs.map f = ys.map f := by
  induction hR with
  | nil => rfl
  | @cons x y xs ys hxy _ ih =>
    rw [List.forall₂_cons] at hS
    rw [List.map_cons, List.map_cons, h x y hxy hS.1, ih hS.2]

end Members

namespace Value
variable {a b : Value}

/-- The values have the same shape, and every integer in one of them that stands for a double in the
other is written like it. -/
def SpelledAlike (a b : Value) : Prop := a.agree Scalar.spelledAlike b = true

instance : Decidable (SpelledAlike a b) := inferInstanceAs (Decidable (_ = true))

theorem spelledAlike_scalar {s t : Scalar} :
    SpelledAlike (.scalar s) (.scalar t) ↔ s.spelledAlike t = true := by
  rw [SpelledAlike, Document.agree]

theorem spelledAlike_array {xs ys : List Value} :
    SpelledAlike (array xs) (array ys) ↔ List.Forall₂ SpelledAlike xs ys := by
  rw [SpelledAlike, Document.agree, Document.agreeItems_iff]
  rfl

theorem spelledAlike_object {xs ys : Entries} :
    SpelledAlike (object xs) (object ys) ↔
      List.Forall₂ (fun x y => x.1 = y.1 ∧ SpelledAlike x.2 y.2) xs.toList ys.toList := by
  rw [SpelledAlike, Document.agree, Fields.agree_iff]
  rfl

theorem canonicalChars_eq_of_spelledAlike (h : a.looseEq b = true) :
    SpelledAlike a b → a.canonicalChars = b.canonicalChars := by
  refine Document.agree_induct (fun s t hequal => ?scalar) (fun xs ys hitems => ?array)
    (fun xs ys hentries => ?object) h
  case scalar =>
    rw [spelledAlike_scalar, ← Scalar.canonical_eq_iff hequal]
    exact congrArg String.toList
  case array =>
    rw [spelledAlike_array, canonicalChars_array, canonicalChars_array]
    intro halike
    rw [map_eq_of_forall₂ (fun x y hequal halike => hequal.2 halike) hitems halike]
  case object =>
    rw [spelledAlike_object, canonicalChars_object, canonicalChars_object]
    intro halike
    rw [map_eq_of_forall₂ (fun x y hequal halike => ?_) hentries halike]
    rw [entryChars, entryChars, halike.1, hequal.2.2 halike.2]

/-- Equal values with the same text are spelled alike, also in front of other texts. -/
theorem aligned_of_looseEq (h : a.looseEq b = true) :
    Aligned canonicalChars SpelledAlike a b := by
  refine Document.agree_induct (fun s t hequal => ?scalar) (fun xs ys hitems => ?array)
    (fun xs ys hentries => ?object) h
  case scalar =>
    intro rest rest' hrest hrest' heq
    rw [spelledAlike_scalar]
    exact Scalar.spelledAlike_of_append_eq hequal hrest hrest' heq
  case array =>
    intro rest rest' hrest hrest' heq
    simp only [canonicalChars_array, List.cons_append, List.append_assoc, List.nil_append,
      List.cons.injEq, true_and] at heq
    rw [spelledAlike_array]
    exact forall₂_of_intercalate_comma_eq rfl (hitems.imp fun _ _ hitem => hitem.2) heq
  case object =>
    intro rest rest' hrest hrest' heq
    simp only [canonicalChars_object, List.cons_append, List.append_assoc, List.nil_append,
      List.cons.injEq, true_and] at heq
    rw [spelledAlike_object]
    refine forall₂_of_intercalate_comma_eq rfl (hentries.imp fun x y hentry => ?_) heq
    intro rest rest' hrest hrest' heq
    simp only [entryChars, hentry.1, List.append_assoc, List.append_cancel_left_eq,
      List.cons_append, List.cons.injEq, true_and] at heq
    obtain ⟨halike, hafter⟩ := hentry.2.2 rest rest' hrest hrest' heq
    exact ⟨⟨hentry.1, halike⟩, hafter⟩

/-- Equal values without great integers are spelled alike. -/
theorem spelledAlike_of_small (h : a.looseEq b = true) :
    a.Every Scalar.Small → b.Every Scalar.Small → SpelledAlike a b :=
  Document.agree_imp_of_every (fun _ _ hs ht _ => Scalar.Small.spelledAlike hs ht) h

/-- Values that expressions take for equal have the same canonical text just when every integer that
stands for a double is written like it, as all integers up to `2 ^ 53` are. Then they are sampled
alike, whatever the digest. -/
theorem canonical_eq_iff_of_looseEq {a b : Value} (h : a.looseEq b = true) :
    (a.canonical = b.canonical ↔ SpelledAlike a b) ∧
    (a.Every Scalar.Small → b.Every Scalar.Small → SpelledAlike a b) ∧
    (SpelledAlike a b → ∀ digest : List UInt8 → Key,
      Sampling.hashUnder digest a = Sampling.hashUnder digest b ∧
      (∀ rate, Sampling.stableSampleUnder digest a rate
        = Sampling.stableSampleUnder digest b rate) ∧
      ∀ start count total, Sampling.bucketSampleUnder digest a start count total
        = Sampling.bucketSampleUnder digest b start count total) := by
  have htext (halike : SpelledAlike a b) : a.canonical = b.canonical :=
    String.toList_inj.mp (canonicalChars_eq_of_spelledAlike h halike)
  refine ⟨⟨fun hsame => ?_, htext⟩, spelledAlike_of_small h, fun halike digest => ?_⟩
  · have hends : Ends isNumeral [] := fun _ hc => nomatch hc
    have hchars : a.canonicalChars ++ [] = b.canonicalChars ++ [] := by
      rw [canonicalChars, canonicalChars, hsame]
    exact (aligned_of_looseEq h [] [] hends hends hchars).1
  · have hhash : Sampling.hashUnder digest a = Sampling.hashUnder digest b := by
      rw [Sampling.hashUnder, Sampling.hashUnder, htext halike]
    refine ⟨hhash, fun rate => ?_, fun start count total => ?_⟩
    · rw [Sampling.stableSampleUnder, Sampling.stableSampleUnder, hhash]
    · rw [Sampling.bucketSampleUnder, Sampling.bucketSampleUnder, hhash]

/-- The integer `10 ^ 16` is written like the double, `2 ^ 62` is not. -/
theorem canonical_eq_iff_of_looseEq_nested :
    let sixteen : Value := array [int 10000000000000000, int 3]
    let sixteen' : Value := array [float (Float.ofBits 0x4341c37937e08000), float 3.0]
    let great : Value := array [int 4611686018427387904]
    let great' : Value := array [float (Float.ofBits 0x43d0000000000000)]
    let small : Value := array [int 3, float (-0.0)]
    let small' : Value := array [float 3.0, int 0]
    sixteen.looseEq sixteen' = true ∧ sixteen.canonical = sixteen'.canonical ∧
      Sampling.inputHash sixteen = Sampling.inputHash sixteen' ∧
      great.looseEq great' = true ∧ great.canonical ≠ great'.canonical ∧
      small.looseEq small' = true ∧ SpelledAlike small small' := by
  intro sixteen sixteen' great great' small small'
  have hsixteen : sixteen.looseEq sixteen' = true := by decide +kernel
  have halike : SpelledAlike sixteen sixteen' := by decide +kernel
  have hgreat : great.looseEq great' = true := by decide +kernel
  have hnot : ¬SpelledAlike great great' := by decide +kernel
  have hsmall : small.looseEq small' = true := by decide +kernel
  have hthree : (3 : Int64).toInt.natAbs ≤ 2 ^ 53 := by decide
  have hzero : (0 : Int64).toInt.natAbs ≤ 2 ^ 53 := by decide
  have hsmallLeft : small.Every Scalar.Small :=
    .array (by simpa [small] using ⟨.scalar hthree, .scalar trivial⟩)
  have hsmallRight : small'.Every Scalar.Small :=
    .array (by simpa [small'] using ⟨.scalar trivial, .scalar hzero⟩)
  obtain ⟨htext, -, hsampled⟩ := canonical_eq_iff_of_looseEq hsixteen
  exact ⟨hsixteen, htext.mpr halike, (hsampled halike Sha256.digest).1, hgreat,
    mt (canonical_eq_iff_of_looseEq hgreat).1.mp hnot, hsmall,
    (canonical_eq_iff_of_looseEq hsmall).2.1 hsmallLeft hsmallRight⟩

/-- An integer and a double that are equal need not be sampled alike. -/
theorem canonical_ne_of_looseEq :
    let a : Value := int 4611686018427387904
    let b : Value := float (Float.ofBits 0x43d0000000000000)
    a.looseEq b = true ∧ a.canonical ≠ b.canonical ∧
      Sampling.inputHash a ≠ Sampling.inputHash b ∧
      Sampling.stableSample a 0.5 = .ok true ∧ Sampling.stableSample b 0.5 = .ok false ∧
      Sampling.bucketSample a 0 1 2 = .ok true ∧ Sampling.bucketSample b 0 1 2 = .ok false := by
  intro a b
  have ha : Sampling.inputHash a
      = 0x0b5d78ce4bfad5b7a4fcdeee0e0d7c3680ab5e7e84e1cbf784a487b5c4a2dcaf := by decide +kernel
  have hb : Sampling.inputHash b
      = 0xdd3db7cea225e08c4d75171211eae3cee4cad30c78d41e4e9575e78273d049da := by decide +kernel
  have hstable (value : Value) : Sampling.stableSample value 0.5
      = Sampling.belowRate (Sampling.inputHash value) 0.5 := rfl
  have hbucket (value : Value) : Sampling.bucketSample value 0 1 2
      = Sampling.inBuckets (Sampling.inputHash value) 0 1 2 := rfl
  rw [hstable, hstable, hbucket, hbucket, ha, hb]
  refine ⟨by decide +kernel, by decide +kernel, by decide, ?_, ?_, ?_, ?_⟩
  · exact Sampling.eq_ok_of_toOption (by decide +kernel)
  · exact Sampling.eq_ok_of_toOption (by decide +kernel)
  · exact Sampling.eq_ok_of_toOption (by decide +kernel)
  · exact Sampling.eq_ok_of_toOption (by decide +kernel)

end Value

end Cohort
