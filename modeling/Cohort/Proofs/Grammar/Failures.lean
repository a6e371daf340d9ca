import Cohort.Proofs.Grammar.Conservative
import Cohort.Proofs.Parser.Built
import Cohort.Proofs.Sampling.Faults
import Cohort.Proofs.Token.Faults
import Cohort.Proofs.Value.Division
import Mathlib

/-!
What the standard grammar fails with. Every function of it has its own few ways to fail, and an
evaluation fails in one of these, for want of a transform, or because the text is no expression.
-/
namespace Cohort

namespace Grammar
variable {g : Grammar} {p : EvalError → Prop}

/-- What the functions of a grammar fail with of their own accord has a property. -/
def FailsWith (p : EvalError → Prop) (g : Grammar) : Prop := ∀ fault, g.Raises fault → p fault

theorem failsWith_empty (p : EvalError → Prop) : empty.FailsWith p := by
  rintro fault (⟨h, -⟩ | ⟨h, -⟩ | ⟨h, -⟩ | ⟨h, -⟩) <;> cases h

namespace FailsWith

theorem insert_binary (hg : g.FailsWith p) (symbol : String) {op : BinaryOp}
    (heager : ∀ apply, op.rule = .eager apply → ∀ left right fault,
      apply left right = .error fault → p fault)
    (hshort : ∀ apply, op.rule = .shortCircuit apply → ∀ left right fault,
      apply left right = .error fault → right () ≠ .error fault → p fault) :
    FailsWith p { g with binary := g.binary.insert symbol op } := by
  intro fault hraises
  cases hraises with
  | unary registered fails => exact hg fault (.unary registered fails)
  | transform registered fails => exact hg fault (.transform registered fails)
  | eager registered fails =>
    rw [Table.get?_insert] at registered
    split at registered
    next =>
      cases registered
      exact heager _ rfl _ _ fault fails
    next => exact hg fault (.eager registered fails)
  | shortCircuit registered fails own =>
    rw [Table.get?_insert] at registered
    split at registered
    next =>
      cases registered
      exact hshort _ rfl _ _ fault fails own
    next => exact hg fault (.shortCircuit registered fails own)

theorem addBinary (hg : g.FailsWith p) (symbol : String) (precedence : Int32)
    {apply : Value → Value → Outcome}
    (h : ∀ left right fault, apply left right = .error fault → p fault) :
    (g.addBinary symbol precedence apply).FailsWith p :=
  hg.insert_binary symbol (fun _ hrule => by cases hrule; exact h) fun _ hrule => by cases hrule

theorem addShortCircuit (hg : g.FailsWith p) (symbol : String) (precedence : Int32)
    {apply : Value → (Unit → Outcome) → Outcome}
    (h : ∀ left right fault, apply left right = .error fault → right () ≠ .error fault → p fault) :
    (g.addShortCircuit symbol precedence apply).FailsWith p :=
  hg.insert_binary symbol (fun _ hrule => by cases hrule) fun _ hrule => by cases hrule; exact h

theorem addUnary (hg : g.FailsWith p) (symbol : String) {apply : UnaryOp}
    (h : ∀ operand fault, apply operand = .error fault → p fault) :
    (g.addUnary symbol apply).FailsWith p := by
  intro fault hraises
  cases hraises with
  | unary registered fails =>
    rw [Grammar.addUnary, Table.get?_insert] at registered
    split at registered
    next =>
      cases registered
      exact h _ fault fails
    next => exact hg fault (.unary registered fails)
  | eager registered fails => exact hg fault (.eager registered fails)
  | shortCircuit registered fails own => exact hg fault (.shortCircuit registered fails own)
  | transform registered fails => exact hg fault (.transform registered fails)

theorem addTransform (hg : g.FailsWith p) (name : String) {apply : Transform}
    (h : ∀ subject arguments fault, apply subject arguments = .error fault → p fault) :
    (g.addTransform name apply).FailsWith p := by
  intro fault hraises
  cases hraises with
  | transform registered fails =>
    rw [Grammar.addTransform, Table.get?_insert] at registered
    split at registered
    next =>
      cases registered
      exact h _ _ fault fails
    next => exact hg fault (.transform registered fails)
  | unary registered fails => exact hg fault (.unary registered fails)
  | eager registered fails => exact hg fault (.eager registered fails)
  | shortCircuit registered fails own => exact hg fault (.shortCircuit registered fails own)

end FailsWith

end Grammar

inductive EvalError.Standard : EvalError → Prop where
  | typeError (fault : TypeFault) : Standard (.typeError fault)
  | invalidArguments (transform requirement : String) :
    Standard (.invalidArguments transform requirement)
  | divisionByZero : Standard .divisionByZero
  | invalidDate (fault : DateFault) : Standard (.invalidDate fault)
  | invalidRegex : Standard .invalidRegex
  | fractionOutOfRange (fraction : Float) : Standard (.range (.fractionOutOfRange fraction))
  | invalidBucketTotal (total : Int64) : Standard (.range (.invalidBucketTotal total))

namespace Operators
variable {left right : Value} {lazy : Unit → Outcome} {fault : EvalError}

/-- The logical operators hand on a failure of their right operand and have none of their own. -/
theorem eq_error_of_and (h : Operators.and left lazy = .error fault) : lazy () = .error fault := by
  unfold Operators.and at h
  split at h
  · exact h
  · cases h

theorem eq_error_of_or (h : Operators.or left lazy = .error fault) : lazy () = .error fault := by
  unfold Operators.or at h
  split at h
  · cases h
  · exact h

theorem standard_of_intersect (h : intersect left right = .error fault) : fault.Standard := by
  unfold intersect at h
  split at h <;> cases h
  exact .typeError _

theorem standard_of_arithmetic {op : Arithmetic} (h : op.apply left right = .error fault) :
    fault.Standard := by
  unfold Arithmetic.apply at h
  split at h
  · split at h <;> cases h
  · cases h
  · split at h <;> cases h
    exact .typeError _

theorem standard_of_add (h : add left right = .error fault) : fault.Standard := by
  unfold add at h
  split at h
  · cases h
  · exact standard_of_arithmetic h

theorem standard_of_divides {symbol : String} {outcome : Outcome}
    (hdivides : Divides symbol left right outcome) (h : outcome = .error fault) :
    fault.Standard := by
  cases hdivides with
  | mismatch =>
    cases h
    exact .typeError _
  | zero | lost =>
    cases h
    exact .divisionByZero
  | value => cases h

theorem standard_of_power (h : power left right = .error fault) : fault.Standard := by
  unfold power at h
  extract_lets onFloats at h
  have hfloats (h : onFloats = .error fault) : fault.Standard := by
    unfold onFloats at h
    split at h <;> cases h
    exact .typeError _
  split at h
  · split at h
    · split at h
      · cases h
      · exact hfloats h
    · exact hfloats h
  · exact hfloats h

end Operators

namespace Transforms
variable {subject : Value} {arguments : List Value} {fault : EvalError}

theorem standard_of_date (h : date subject arguments = .error fault) : fault.Standard := by
  unfold date at h
  split at h
  · cases h
  · split at h <;> cases h
    exact .invalidDate _
  · split at h <;> cases h
    exact .invalidDate _
  · cases h
    exact .invalidDate _

/-- A sample that cannot be drawn is reported as the failure of the sampling. -/
theorem standard_of_sample {sampled : Except RangeError Bool}
    (hsampled : ∀ reason, sampled = .error reason → (EvalError.range reason).Standard)
    (h : (sampled.map Value.bool).mapError .range = .error fault) : fault.Standard := by
  cases sampled with
  | error reason =>
    cases h
    exact hsampled reason rfl
  | ok => cases h

theorem standard_of_stableSample (h : stableSample subject arguments = .error fault) :
    fault.Standard := by
  unfold stableSample at h
  split at h
  · split at h
    · refine standard_of_sample (fun reason hreason => ?_) h
      obtain ⟨rfl, -⟩ := Sampling.belowRate_eq_error_iff.mp hreason
      exact .fractionOutOfRange _
    · cases h
      exact .invalidArguments _ _
  · cases h
    exact .invalidArguments _ _

theorem standard_of_bucketArgument {name : String} {argument : Value}
    (h : bucketArgument name argument = .error fault) : fault.Standard := by
  unfold bucketArgument at h
  split at h <;> cases h
  exact .invalidArguments _ _

theorem standard_of_bucketSample (h : bucketSample subject arguments = .error fault) :
    fault.Standard := by
  unfold bucketSample at h
  split at h
  · obtain h | ⟨start, -, h⟩ := Expr.bind_eq_error h
    · exact standard_of_bucketArgument h
    obtain h | ⟨count, -, h⟩ := Expr.bind_eq_error h
    · exact standard_of_bucketArgument h
    obtain h | ⟨total, -, h⟩ := Expr.bind_eq_error h
    · exact standard_of_bucketArgument h
    refine standard_of_sample (fun reason hreason => ?_) h
    obtain ⟨rfl, -⟩ := Sampling.inBuckets_eq_error_iff.mp hreason
    exact .invalidBucketTotal _
  · cases h
    exact .invalidArguments _ _

theorem keys_ne_error : keys subject arguments ≠ .error fault := by
  unfold keys
  split <;> simp

theorem length_ne_error : length subject arguments ≠ .error fault := by
  unfold length
  split <;> simp

theorem standard_of_mapToProperty (h : mapToProperty subject arguments = .error fault) :
    fault.Standard := by
  unfold mapToProperty at h
  split at h
  · split at h <;> cases h
    exact .typeError _
  · cases h
    exact .invalidArguments _ _

theorem standard_of_matchPattern {text source flags : String}
    (h : matchPattern text source flags = .error fault) : fault.Standard := by
  unfold matchPattern at h
  dsimp only at h
  split at h
  · cases h
    exact .invalidRegex
  · split at h <;> split at h <;> cases h

theorem standard_of_regExpMatch (h : regExpMatch subject arguments = .error fault) :
    fault.Standard := by
  unfold regExpMatch at h
  extract_lets search at h
  have hsearch {source flags : String} (h : search source flags = .error fault) :
      fault.Standard := by
    unfold search at h
    split at h
    · exact standard_of_matchPattern h
    · cases h
  split at h
  · exact hsearch h
  · exact hsearch h
  · cases h
    exact .invalidArguments _ _

end Transforms

namespace Grammar

open Operators Transforms in
theorem failsWith_standard : standard.FailsWith EvalError.Standard :=
  failsWith_empty EvalError.Standard
  |>.addShortCircuit "&&" _ (fun _ _ _ h own => absurd (eq_error_of_and h) own)
  |>.addShortCircuit "||" _ (fun _ _ _ h own => absurd (eq_error_of_or h) own)
  |>.addBinary "==" _ (fun _ _ _ h => by cases h)
  |>.addBinary "!=" _ (fun _ _ _ h => by cases h)
  |>.addBinary "<" _ (fun _ _ _ h => by cases h)
  |>.addBinary "<=" _ (fun _ _ _ h => by cases h)
  |>.addBinary ">" _ (fun _ _ _ h => by cases h)
  |>.addBinary ">=" _ (fun _ _ _ h => by cases h)
  |>.addBinary "in" _ (fun _ _ _ h => by cases h)
  |>.addBinary "intersect" _ (fun _ _ _ h => standard_of_intersect h)
  |>.addBinary "+" _ (fun _ _ _ h => standard_of_add h)
  |>.addBinary "-" _ (fun _ _ _ h => standard_of_arithmetic h)
  |>.addBinary "*" _ (fun _ _ _ h => standard_of_arithmetic h)
  |>.addBinary "/" _ (fun _ _ _ h => standard_of_divides (divides_divide _ _) h)
  |>.addBinary "//" _ (fun _ _ _ h => standard_of_divides (divides_floorDivide _ _) h)
  |>.addBinary "%" _ (fun _ _ _ h => standard_of_divides (divides_modulo _ _) h)
  |>.addBinary "^" _ (fun _ _ _ h => standard_of_power h)
  |>.addUnary "!" (fun _ _ h => by cases h)
  |>.addTransform "date" (fun _ _ _ h => standard_of_date h)
  |>.addTransform "stableSample" (fun _ _ _ h => standard_of_stableSample h)
  |>.addTransform "bucketSample" (fun _ _ _ h => standard_of_bucketSample h)
  |>.addTransform "keys" (fun _ _ _ h => absurd h keys_ne_error)
  |>.addTransform "length" (fun _ _ _ h => absurd h length_ne_error)
  |>.addTransform "mapToProperty" (fun _ _ _ h => standard_of_mapToProperty h)
  |>.addTransform "regExpMatch" (fun _ _ _ h => standard_of_regExpMatch h)

end Grammar

/-- A failure that the evaluation of a text with the standard grammar may end in. -/
inductive Error.Standard : Error → Prop where
  | malformed {fault : SyntaxError} (h : ∀ digits offset, fault ≠ .invalidNumber digits offset) :
    Standard (.malformed fault)
  | unknownTransform {name : String} (h : Grammar.standard.transforms.get? name = none) :
    Standard (.eval (.unknownTransform name))
  | typeError (fault : TypeFault) : Standard (.eval (.typeError fault))
  | invalidArguments (transform requirement : String) :
    Standard (.eval (.invalidArguments transform requirement))
  | divisionByZero : Standard (.eval .divisionByZero)
  | invalidDate (fault : DateFault) : Standard (.eval (.invalidDate fault))
  | invalidRegex : Standard (.eval .invalidRegex)
  | fractionOutOfRange (fraction : Float) : Standard (.range (.fractionOutOfRange fraction))
  | invalidBucketTotal (total : Int64) : Standard (.range (.invalidBucketTotal total))

/-- A failure of a function is reported as one of sampling or as one of the evaluation. -/
theorem EvalError.Standard.toError {fault : EvalError} (h : fault.Standard) :
    fault.toError.Standard := by
  cases h with
  | typeError fault => exact .typeError fault
  | invalidArguments transform requirement => exact .invalidArguments transform requirement
  | divisionByZero => exact .divisionByZero
  | invalidDate fault => exact .invalidDate fault
  | invalidRegex => exact .invalidRegex
  | fractionOutOfRange fraction => exact .fractionOutOfRange fraction
  | invalidBucketTotal total => exact .invalidBucketTotal total

theorem EvalError.toError_ne_malformed (fault : EvalError) (x : SyntaxError) :
    fault.toError ≠ .malformed x := by
  cases fault <;> simp [EvalError.toError]

theorem Parser.Fault.toSyntaxError_ne_invalidNumber (fault : Parser.Fault) (digits : String)
    (offset : ℕ) : fault.toSyntaxError ≠ .invalidNumber digits offset := by
  unfold Parser.Fault.toSyntaxError
  dsimp only
  split
  · split <;> simp
  · simp
  · simp

namespace Grammar
open Operators (divides_divide)
variable {g : Grammar} {text digits : String} {x : SyntaxError} {offset : ℕ}

theorem tokenize_ne_invalidNumber : g.tokenize text ≠ .error (.invalidNumber digits offset) := by
  intro h
  obtain ⟨tokens, hhalts⟩ := Lexer.exists_halts_of_scanFrom h
  obtain ⟨front, c, rest, expected, fault, -, -, hfault, hx, -⟩ :=
    hhalts.exists_front g.empty_not_mem_signs
  obtain ⟨rfl, -⟩ | ⟨rfl, -⟩ := Lexer.lexeme_eq_error_iff.mp hfault <;> cases hx

theorem parse_ne_invalidNumber : g.parse text ≠ .error (.invalidNumber digits offset) := by
  intro h
  obtain h | ⟨tokens, -, h⟩ := Expr.bind_eq_error h
  · exact tokenize_ne_invalidNumber h
  · obtain ⟨fault, -, hfault⟩ := Parser.parseWithin_eq_error.mp h
    exact fault.toSyntaxError_ne_invalidNumber digits offset hfault

theorem evaluate_of_parse_eq_error (h : g.parse text = .error x) (context : Value) :
    g.evaluate text context = .error (.malformed x) := by
  rw [evaluate, h]
  rfl

theorem evaluate_of_parse_eq_ok {tree : Expr} (h : g.parse text = .ok tree) (context : Value) :
    g.evaluate text context = g.evalExpr tree context := by
  rw [evaluate, h]
  rfl

theorem wellFormed_of_parse {tree : Expr} (h : g.parse text = .ok tree) : tree.WellFormed g := by
  obtain ⟨tokens, -, htree⟩ := exists_of_parse_eq_ok h
  have hbuilt := Parser.everywhere_built_of_parseTokens (p := fun _ => True) htree trivial
    fun _ _ => trivial
  exact hbuilt.imp fun _ hnode => hnode.fits

theorem standard_of_evalExpr {tree : Expr} {context : Value} {error : Error}
    (htree : tree.WellFormed standard) (h : standard.evalExpr tree context = .error error) :
    error.Standard := by
  unfold evalExpr at h
  cases hfault : Expr.eval standard ⟨context, none⟩ tree with
  | ok value =>
    rw [hfault] at h
    cases h
  | error fault =>
    rw [hfault] at h
    cases h
    obtain hraises | ⟨name, hmissing, rfl⟩ := htree.explained hfault
    · exact (failsWith_standard fault hraises).toError
    · exact .unknownTransform hmissing

theorem standard_of_evaluate {context : Value} {error : Error}
    (h : standard.evaluate text context = .error error) : error.Standard := by
  cases hparse : standard.parse text with
  | error x =>
    cases (evaluate_of_parse_eq_error hparse context).symm.trans h
    exact .malformed fun digits offset heq => parse_ne_invalidNumber (heq ▸ hparse)
  | ok tree =>
    rw [evaluate_of_parse_eq_ok hparse] at h
    exact standard_of_evalExpr (wellFormed_of_parse hparse) h

theorem evaluate_eq_malformed_iff (context : Value) :
    g.evaluate text context = .error (.malformed x) ↔ g.parse text = .error x := by
  cases hparse : g.parse text with
  | error y => simp [evaluate_of_parse_eq_error hparse]
  | ok tree =>
    rw [evaluate_of_parse_eq_ok hparse, evalExpr]
    cases Expr.eval g ⟨context, none⟩ tree with
    | error fault => simp [Except.mapError, EvalError.toError_ne_malformed]
    | ok value => simp [Except.mapError]

/-- The evaluation of a text with the standard grammar reports it as malformed just when it cannot
be parsed, and with the same error for every context. Otherwise it has a value, or it fails in one
of the ways of the standard operators and transforms or for want of a transform: never for want of
an operator, with a failure that a host makes up, or with one of sampling that is reported as one of
the evaluation. -/
theorem evaluate_standard (text : String) (context : Value) :
    (∀ x, standard.evaluate text context = .error (.malformed x) ↔
      standard.parse text = .error x) ∧
    ∀ x, standard.evaluate text context = .error x → x.Standard ∧
      (∀ fault, x ≠ .eval (.range fault)) ∧ (∀ message, x ≠ .eval (.custom message)) ∧
      (∀ symbol, x ≠ .eval (.unknownOperator symbol)) ∧
      (∀ hash, x ≠ .range (.invalidHashLength hash)) ∧
      ∀ digits offset, x ≠ .malformed (.invalidNumber digits offset) := by
  refine ⟨fun x => evaluate_eq_malformed_iff context, fun x h => ?_⟩
  have hstandard : x.Standard := standard_of_evaluate h
  refine ⟨hstandard, ?_, ?_, ?_, ?_, ?_⟩
  · rintro fault rfl
    cases hstandard
  · rintro message rfl
    cases hstandard
  · rintro symbol rfl
    cases hstandard
  · rintro hash rfl
    cases hstandard
  · rintro digits offset rfl
    cases hstandard with
    | malformed h => exact h digits offset rfl

/-- A string that is not closed, and a division by zero in a text that is parsed. -/
theorem evaluate_standard_string :
    let unclosed : Error := .malformed (.unterminatedString 0)
    let divided : Error := .eval .divisionByZero
    (standard.evaluate "'" Value.null = .error unclosed ∧
      standard.parse "'" = .error (.unterminatedString 0) ∧ unclosed.Standard) ∧
    standard.evaluate "1/0" Value.null = .error divided ∧
      (∀ x, standard.parse "1/0" ≠ .error x) ∧ divided.Standard := by
  intro unclosed divided
  have hunclosed : standard.parse "'" = .error (.unterminatedString 0) := by
    rw [parse, tokenize, Lexer.scanFrom]
    rfl
  have hmalformed : standard.evaluate "'" Value.null = .error unclosed :=
    evaluate_of_parse_eq_error hunclosed Value.null
  have htokens : standard.tokenize "1/0"
      = .ok [⟨.int 1, 0⟩, ⟨.operator "/", 1⟩, ⟨.int 0, 2⟩, ⟨.eof, 3⟩] := by
    cbv
  have hparse : standard.parse "1/0" = .ok (.binary "/" (.literal (.int 1)) (.literal (.int 0))) :=
    (parse_of_ok htokens).trans rfl
  have hrefuses : standard.Refuses "/" (.int 1) (.int 0) .divisionByZero :=
    (refuses_iff rfl).mpr <| (divides_divide _ _).eq_divisionByZero_iff.mpr <|
      .inl ⟨Value.isNumber_int 1, Value.isZero_int_iff.mpr rfl⟩
  have hdivided : standard.evaluate "1/0" Value.null = .error divided := by
    rw [evaluate_of_parse_eq_ok hparse, evalExpr,
      hrefuses _ (.literal _) (.literal _) (by rw [Expr.eval]) (by rw [Expr.eval])]
    rfl
  obtain ⟨hmalformed_iff, hstandard⟩ := evaluate_standard "'" Value.null
  obtain ⟨hparses, hstandard'⟩ := evaluate_standard "1/0" Value.null
  refine ⟨⟨hmalformed, (hmalformed_iff _).mp hmalformed, (hstandard _ hmalformed).1⟩,
    hdivided, fun x hx => ?_, (hstandard' _ hdivided).1⟩
  have hfault := Except.error.inj (hdivided.symm.trans ((hparses x).mpr hx))
  exact EvalError.toError_ne_malformed .divisionByZero x hfault

end Grammar

end Cohort
