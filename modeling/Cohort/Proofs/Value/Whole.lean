import Cohort.Grammar.Standard
import Cohort.Proofs.Number.Integers
import Cohort.Proofs.Number.Words
import Cohort.Proofs.Sampling.Faults
import Cohort.Proofs.Sampling.Runs
import Cohort.Proofs.Token.Taken
import Mathlib

/-!
Doubles in the place of integers. A double without a fraction is read as the word nearest to it, so
as another number when it lies outside the range of words, and every literal that does not fit a
word is such a double or an infinity. A sample by buckets is then drawn with numbers that were not
asked for, unless it is refused.
-/
namespace Cohort
open Number

namespace Value
variable {v : Value} {w : Int64} {m n : ℤ}

/-- The exact value of a number. There is none for NaN and the infinities. -/
def number? : Value → Option ℚ
  | .int n => some n.toInt
  | .float x => if x.isFinite then some (exact x) else none
  | _ => none

def StandsFor (v : Value) (n : ℤ) : Prop := v.number? = some (n : ℚ)

def Whole (v : Value) : Prop := ∃ n, v.StandsFor n

def Beyond (v : Value) : Prop := ∃ n, v.StandsFor n ∧ ¬FitsWord n

theorem StandsFor.unique (hm : v.StandsFor m) (hn : v.StandsFor n) : m = n := by
  have h := hm.symm.trans hn
  exact_mod_cast Option.some.inj h

theorem standsFor_int (w : Int64) : (int w).StandsFor w.toInt := rfl

theorem standsFor_float_iff {x : Float} : (float x).StandsFor n ↔ whole? x = some n := by
  change (if x.isFinite then some (exact x) else none) = some (n : ℚ) ↔ _
  by_cases hx : x.isFinite = true
  · rw [if_pos hx, Option.some.injEq, whole?_eq_some_iff hx]
  · rw [if_neg hx]
    exact iff_of_false nofun fun h => hx (isFinite_of_whole? h)

/-- What is read as an integer is a number without a fraction, and the word nearest to it is what it
is read as. -/
theorem toInt?_eq_some_iff : v.toInt? = some w ↔ ∃ n, v.StandsFor n ∧ saturate n = w := by
  match v with
  | .int m =>
    have hsaturate : saturate m.toInt = m := saturate_of_narrow? (narrow?_toInt m)
    constructor
    · intro h
      exact ⟨m.toInt, standsFor_int m, hsaturate.trans (Option.some.inj h)⟩
    · rintro ⟨n, hn, rfl⟩
      rw [hn.unique (standsFor_int m), hsaturate]
      rfl
  | .float x =>
    simp only [standsFor_float_iff]
    exact Option.map_eq_some_iff
  | .null | .bool _ | .string _ | .date _ | .array _ | .object _ =>
    simp [toInt?, StandsFor, number?]

theorem StandsFor.toInt?_eq (h : v.StandsFor n) : v.toInt? = some (saturate n) :=
  toInt?_eq_some_iff.mpr ⟨n, h, rfl⟩

theorem StandsFor.toInt?_toInt (h : v.StandsFor w.toInt) : v.toInt? = some w := by
  rw [h.toInt?_eq, saturate_of_narrow? (narrow?_toInt w)]

theorem whole_of_toInt? (h : v.toInt? = some w) : v.Whole := by
  obtain ⟨n, hn, -⟩ := toInt?_eq_some_iff.mp h
  exact ⟨n, hn⟩

theorem toInt?_eq_none_iff : v.toInt? = none ↔ ¬v.Whole := by
  rw [← Option.not_isSome_iff_eq_none, Option.isSome_iff_exists, not_iff_not]
  constructor
  · rintro ⟨w, hw⟩
    exact whole_of_toInt? hw
  · rintro ⟨n, hn⟩
    exact ⟨_, hn.toInt?_eq⟩

theorem StandsFor.beyond_iff (h : v.StandsFor n) : v.Beyond ↔ ¬FitsWord n := by
  constructor
  · rintro ⟨m, hm, hbeyond⟩
    rwa [hm.unique h] at hbeyond
  · exact fun hbeyond => ⟨n, h, hbeyond⟩

/-- A value is read as the integer it stands for unless that does not fit a word. -/
theorem standsFor_toInt_iff (h : v.toInt? = some w) : v.StandsFor w.toInt ↔ ¬v.Beyond := by
  obtain ⟨n, hn, rfl⟩ := toInt?_eq_some_iff.mp h
  rw [hn.beyond_iff, not_not, ← toInt_saturate_eq_iff]
  constructor
  · exact fun hw => hw.unique hn
  · exact fun heq => heq.symm ▸ hn

theorem exists_standsFor_iff : (∃ w : Int64, v.StandsFor w.toInt) ↔ v.Whole ∧ ¬v.Beyond := by
  constructor
  · rintro ⟨w, hw⟩
    exact ⟨⟨_, hw⟩, hw.beyond_iff.not_left.mpr (fitsWord_toInt w)⟩
  · rintro ⟨⟨n, hn⟩, hbeyond⟩
    obtain ⟨w, rfl⟩ := exists_toInt_eq_iff.mpr (not_not.mp (hn.beyond_iff.not.mp hbeyond))
    exact ⟨w, hn⟩

end Value

namespace Lexer
open Cohort.Text (digitsValue)
variable {lexicon : Lexicon} {expected negative : Bool} {c : Char} {digits rest after : List Char}

/-- A text begins with an integer literal that does not fit a word. -/
structure BeginsBeyond (expected negative : Bool) (digits after text : List Char) : Prop where
  expected_of_negative : negative = true → expected = true
  isDigits : Digits digits
  follows : FollowsNumber none after
  text_eq : text = minus negative ++ (digits ++ after)
  not_fitsWord : ¬FitsWord (signed negative (digitsValue digits))

/-- The double nearest to a number beyond the words is read as the last word on its side. -/
theorem toInt?_of_nearest {k : ℕ} {x : Float} (hlarge : 2 ^ 63 ≤ k)
    (hnearest : Nearest negative k x) (hfinite : x.isFinite = true) :
    (Value.float x).toInt? = some (if negative then Int64.minValue else Int64.maxValue) := by
  obtain ⟨m, hm, hle⟩ := exists_rounded_eq hlarge
  have hle' : (2 ^ 63 : ℤ) ≤ m := by exact_mod_cast hle
  have hexact := hnearest.exact_eq_of_isFinite hfinite
  rw [hm] at hexact
  have hstands : (Value.float x).StandsFor (signed negative m) := by
    rw [Value.standsFor_float_iff, whole?_eq_some_iff hfinite, hexact, signed]
    split <;> push_cast <;> rfl
  rw [hstands.toInt?_eq, signed]
  split
  next => rw [saturate_of_le (by omega)]
  next => rw [saturate_of_ge hle']

/-- An integer literal that does not fit a word is a double. It is the nearest one and is read as
the word at the end of the range, or it is an infinity and not read as an integer at all. -/
theorem BeginsBeyond.lexeme_eq (h : BeginsBeyond expected negative digits after (c :: rest)) :
    ∃ x, lexeme lexicon expected c rest = .ok (.float x, after) ∧
      Nearest negative (digitsValue digits) x ∧
      (Value.float x).toInt? = if x.isFinite then
        some (if negative then Int64.minValue else Int64.maxValue) else none := by
  have hnearest := nearest_decimal negative digits none
  have hvalue : decimal digits none = digitsValue digits := by simp [decimal]
  have hkind : numberOf negative digits none = .float (ofDecimal negative
      (digitsValue (digits ++ (none : Option (List Char)).getD []))
      (-((none : Option (List Char)).getD []).length)) := by
    simp only [numberOf, narrow?_eq_none_iff.mpr h.not_fitsWord]
  rw [hvalue] at hnearest
  generalize ofDecimal .. = x at hnearest hkind
  have hnone : ∀ fraction ∈ (none : Option (List Char)), Digits fraction := by simp
  refine ⟨x, ?_, hnearest, ?_⟩
  · rw [lexeme_number h.expected_of_negative h.isDigits hnone h.follows h.text_eq, hkind]
  have hlarge : 2 ^ 63 ≤ digitsValue digits := by
    have hbeyond := h.not_fitsWord
    unfold FitsWord signed at hbeyond
    split at hbeyond
    next => omega
    next => omega
  split
  next hfinite => exact toInt?_of_nearest hlarge hnearest hfinite
  next hfinite =>
    rw [Value.toInt?_eq_none_iff]
    rintro ⟨n, hn⟩
    exact hfinite (isFinite_of_whole? (Value.standsFor_float_iff.mp hn))

end Lexer

namespace Transforms
variable {subject start count total : Value} {s c t : Int64}

def drawn (subject : Value) (start count total : Int64) : Outcome :=
  ((Sampling.bucketSample subject start count total).map Value.bool).mapError .range

/-- The sample asked for is drawn with the numbers that the arguments stand for. -/
def DrawsExactly (subject start count total : Value) : Prop :=
  ∃ s c t : Int64, start.StandsFor s.toInt ∧ count.StandsFor c.toInt ∧ total.StandsFor t.toInt ∧
    bucketSample subject [start, count, total] = drawn subject s c t

def Refuses (subject start count total : Value) : Prop :=
  ∃ fault, bucketSample subject [start, count, total] = .error fault

theorem bucketSample_eq_drawn (hs : start.toInt? = some s) (hc : count.toInt? = some c)
    (ht : total.toInt? = some t) :
    bucketSample subject [start, count, total] = drawn subject s c t := by
  simp only [bucketSample, bucketArgument, hs, hc, ht]
  rfl

theorem exists_drawn_eq_error_iff :
    (∃ fault, drawn subject s c t = .error fault) ↔ t.toInt ≤ 0 := by
  unfold drawn Sampling.bucketSample Sampling.bucketSampleUnder
  rcases lt_or_ge 0 t.toInt with hpos | hnonpos
  · obtain ⟨sampled, h⟩ : ∃ sampled,
        Sampling.inBuckets (Sampling.hashUnder Sha256.digest subject) s c t = .ok sampled :=
      Sampling.exists_inBuckets_eq_ok hpos
    rw [h]
    exact iff_of_false nofun hpos.not_ge
  · rw [Sampling.inBuckets_of_total_nonpos hnonpos]
    exact iff_of_true ⟨_, rfl⟩ hnonpos

/-- Of the start only its bucket counts. -/
theorem drawn_congr {s' : Int64} (h : s.toInt ≡ s'.toInt [ZMOD t.toInt]) :
    drawn subject s c t = drawn subject s' c t := by
  have hbucket : Sampling.bucketSample subject s c t = Sampling.bucketSample subject s' c t :=
    Sampling.inBuckets_congr h
  rw [drawn, hbucket, drawn]

/-- The first argument that is no integer is named, whatever those after it are. -/
theorem bucketSample_of_not_whole (subject : Value)
    (h : ¬(start.Whole ∧ count.Whole ∧ total.Whole)) :
    ∃ name ∈ ["start", "count", "total"], bucketSample subject [start, count, total]
      = .error (.invalidArguments "bucketSample" (name ++ " must be an integer")) := by
  cases hs : start.toInt? with
  | none =>
    refine ⟨"start", by simp, ?_⟩
    simp only [bucketSample, bucketArgument, hs]
    rfl
  | some s =>
    cases hc : count.toInt? with
    | none =>
      refine ⟨"count", by simp, ?_⟩
      simp only [bucketSample, bucketArgument, hs, hc]
      rfl
    | some c =>
      have ht : total.toInt? = none := by
        rw [Value.toInt?_eq_none_iff]
        exact fun ht => h ⟨Value.whole_of_toInt? hs, Value.whole_of_toInt? hc, ht⟩
      refine ⟨"total", by simp, ?_⟩
      simp only [bucketSample, bucketArgument, hs, hc, ht]
      rfl

theorem refuses_iff : Refuses subject start count total ↔
    ¬(start.Whole ∧ count.Whole ∧ total.Whole) ∨ ∃ t, total.StandsFor t ∧ t ≤ 0 := by
  by_cases hwhole : start.Whole ∧ count.Whole ∧ total.Whole
  · obtain ⟨⟨s, hs⟩, ⟨c, hc⟩, ⟨t, ht⟩⟩ := hwhole
    have hnonpos : (∃ t, total.StandsFor t ∧ t ≤ 0) ↔ t ≤ 0 :=
      ⟨fun ⟨_, ht', hle⟩ => ht'.unique ht ▸ hle, fun hle => ⟨t, ht, hle⟩⟩
    rw [Refuses, bucketSample_eq_drawn hs.toInt?_eq hc.toInt?_eq ht.toInt?_eq,
      exists_drawn_eq_error_iff, toInt_saturate_nonpos_iff, hnonpos, or_iff_right]
    exact fun hnot => hnot ⟨⟨s, hs⟩, ⟨c, hc⟩, ⟨t, ht⟩⟩
  · obtain ⟨name, -, hrefused⟩ := bucketSample_of_not_whole subject hwhole
    exact iff_of_true ⟨_, hrefused⟩ (.inl hwhole)

/-- The numbers asked for are drawn with just when all of them are integers that fit. -/
theorem drawsExactly_iff : DrawsExactly subject start count total ↔
    (start.Whole ∧ count.Whole ∧ total.Whole) ∧
      ¬(start.Beyond ∨ count.Beyond ∨ total.Beyond) := by
  have h (v : Value) := v.exists_standsFor_iff
  constructor
  · rintro ⟨s, c, t, hs, hc, ht, -⟩
    have hs' := (h start).mp ⟨s, hs⟩
    have hc' := (h count).mp ⟨c, hc⟩
    have ht' := (h total).mp ⟨t, ht⟩
    tauto
  · rintro ⟨⟨hs, hc, ht⟩, hbeyond⟩
    push Not at hbeyond
    obtain ⟨s, hs⟩ := (h start).mpr ⟨hs, hbeyond.1⟩
    obtain ⟨c, hc⟩ := (h count).mpr ⟨hc, hbeyond.2.1⟩
    obtain ⟨t, ht⟩ := (h total).mpr ⟨ht, hbeyond.2.2⟩
    exact ⟨s, c, t, hs, hc, ht,
      bucketSample_eq_drawn hs.toInt?_toInt hc.toInt?_toInt ht.toInt?_toInt⟩

/-- A number without a fraction is read as the integer that it is unless that does not fit a word,
and a literal that does not fit is read as the word at the end of the range. So a sample by buckets
is drawn with the numbers that its arguments stand for, or refused, unless one of them does not fit.
It is then drawn with the words nearest to the three numbers, if nothing else is wrong with them. -/
theorem bucketSample_exact_iff (subject start count total : Value) :
    Grammar.standard.transforms.get? "bucketSample" = some bucketSample ∧
    (∀ (v : Value) (w : Int64), v.toInt? = some w → (v.StandsFor w.toInt ↔ ¬v.Beyond)) ∧
    (DrawsExactly subject start count total ∨ Refuses subject start count total ↔
      ¬(start.Beyond ∨ count.Beyond ∨ total.Beyond) ∨
        ¬(start.Whole ∧ count.Whole ∧ total.Whole) ∨ ∃ t, total.StandsFor t ∧ t ≤ 0) ∧
    (∀ s c t : ℤ, start.StandsFor s → count.StandsFor c → total.StandsFor t →
      bucketSample subject [start, count, total]
        = drawn subject (saturate s) (saturate c) (saturate t)) ∧
    ∀ (lexicon : Lexicon) (expected negative : Bool) (c : Char) (digits rest after : List Char),
      Lexer.BeginsBeyond expected negative digits after (c :: rest) →
      ∃ x, Lexer.lexeme lexicon expected c rest = .ok (.float x, after) ∧
        Nearest negative (Text.digitsValue digits) x ∧
        (Value.float x).toInt? = if x.isFinite then
          some (if negative then Int64.minValue else Int64.maxValue) else none := by
  refine ⟨rfl, fun v w h => Value.standsFor_toInt_iff h, ?draws, ?words, ?literals⟩
  case draws =>
    rw [drawsExactly_iff, refuses_iff]
    tauto
  case words =>
    exact fun s c t hs hc ht => bucketSample_eq_drawn hs.toInt?_eq hc.toInt?_eq ht.toInt?_eq
  case literals => exact fun lexicon expected negative c digits rest after h => h.lexeme_eq

lemma standsFor_ten_pow : Value.StandsFor (.float 1e19) (10 ^ 19) :=
  Value.standsFor_float_iff.mpr (by decide +kernel)

lemma toInt?_ten_pow : (Value.float 1e19).toInt? = some Int64.maxValue :=
  standsFor_ten_pow.toInt?_eq.trans (congrArg some (by decide))

lemma beyond_ten_pow : Value.Beyond (.float 1e19) := ⟨10 ^ 19, standsFor_ten_pow, by decide⟩

/-- A start that does not fit a word, as a double and as a literal. -/
theorem bucketSample_exact_iff_large :
    ¬Value.StandsFor (.float 1e19) Int64.maxValue.toInt ∧
    bucketSample (.string "2") [.float 1e19, .int 1, .int 10]
      = drawn (.string "2") Int64.maxValue 1 10 ∧
    ∃ x, Lexer.lexeme Grammar.standard.lexicon true '9' "223372036854775808".toList
        = .ok (.float x, []) ∧ Nearest false (2 ^ 63) x := by
  obtain ⟨-, hreads, -, hwords, hliterals⟩ :=
    bucketSample_exact_iff (.string "2") (.float 1e19) (.int 1) (.int 10)
  have hsample :=
    hwords (10 ^ 19) 1 10 standsFor_ten_pow (Value.standsFor_int 1) (Value.standsFor_int 10)
  rw [saturate_of_ge (by norm_num)] at hsample
  have hliteral : Lexer.BeginsBeyond true false (Nat.toDigits 10 (2 ^ 63)) []
      ('9' :: "223372036854775808".toList) :=
    { expected_of_negative := nofun
      isDigits := ⟨Nat.toDigits_ne_nil, fun _ => isDigit_of_mem_toDigits⟩
      follows := ⟨nofun, nofun⟩
      text_eq := by decide +kernel
      not_fitsWord := by rw [digitsValue_toDigits]; decide }
  obtain ⟨x, hlexeme, hnearest, -⟩ :=
    hliterals Grammar.standard.lexicon true false '9' _ _ [] hliteral
  rw [digitsValue_toDigits] at hnearest
  exact ⟨(hreads _ _ toInt?_ten_pow).not.mpr (not_not.mpr beyond_ten_pow), hsample, x, hlexeme,
    by exact_mod_cast hnearest⟩

/-- The start is a multiple of ten, and the word that it is read as ends in seven. -/
theorem bucketSample_misreads :
    (Value.float 1e19).toInt? = some Int64.maxValue ∧
    Value.StandsFor (.float 1e19) (10 ^ 19) ∧
    ¬Value.StandsFor (.float 1e19) Int64.maxValue.toInt ∧
    ¬DrawsExactly (.string "2") (.float 1e19) (.int 1) (.int 10) ∧
    ¬Refuses (.string "2") (.float 1e19) (.int 1) (.int 10) ∧
    bucketSample (.string "2") [.float 1e19, .int 1, .int 10] = .ok (.bool true) ∧
    ∀ start : Int64, start.toInt ≡ 10 ^ 19 [ZMOD 10] →
      drawn (.string "2") start 1 10 = .ok (.bool false) := by
  have hlast : Sampling.bucketSample (.string "2") Int64.maxValue 1 10 = .ok true :=
    Sampling.eq_ok_of_toOption (by decide +kernel)
  have hfirst : Sampling.bucketSample (.string "2") 0 1 10 = .ok false :=
    Sampling.eq_ok_of_toOption (by decide +kernel)
  have hsample : bucketSample (.string "2") [.float 1e19, .int 1, .int 10] = .ok (.bool true) :=
    (bucketSample_eq_drawn toInt?_ten_pow rfl rfl).trans (by rw [drawn, hlast]; rfl)
  refine ⟨toInt?_ten_pow, standsFor_ten_pow, ?_, ?_, ?_, hsample, ?_⟩
  · exact fun h => absurd (h.unique standsFor_ten_pow) (by decide)
  · rw [drawsExactly_iff]
    exact fun h => h.2 (.inl beyond_ten_pow)
  · rintro ⟨fault, h⟩
    rw [hsample] at h
    cases h
  · intro start hstart
    have hmultiple : (10 ^ 19 : ℤ) ≡ 0 [ZMOD 10] := Int.modEq_zero_iff_dvd.mpr (by norm_num)
    have hzero : start.toInt ≡ (0 : Int64).toInt [ZMOD (10 : Int64).toInt] := by
      rw [Int64.toInt_zero, show (10 : Int64).toInt = 10 by decide]
      exact hstart.trans hmultiple
    rw [drawn_congr hzero, drawn, hfirst]
    rfl

end Transforms
end Cohort
