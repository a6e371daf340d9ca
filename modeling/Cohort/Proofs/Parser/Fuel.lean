import Cohort.Proofs.Parser.Completeness
import Mathlib

/-!
The fuel that the parser starts with is enough for every token list, whether it spells an
expression or not. What is read gets shorter all the time: a token is gone over at least once in
eight calls.
-/
namespace Cohort.Parser

/-- A result that leaves at least `gone` fewer than `count` tokens, or a failure that is not one of
fuel. -/
def Frugal {α : Type} (count gone : ℕ) : Except Fault (α × State) → Prop
  | .ok (_, s) => s.tokens.length + gone ≤ count
  | .error fault => fault.cause ≠ .outOfFuel

namespace Frugal
variable {α β : Type} {x : Reader α} {f : α → Reader β} {s : State} {count count' gone gone' : ℕ}

theorem error {cause : Cause} (h : cause ≠ .outOfFuel) :
    Frugal count gone (.error ⟨cause, s.tokens⟩ : Except Fault (α × State)) := h

theorem bind (hx : Frugal count gone (x s))
    (hf : ∀ a s', s'.tokens.length + gone ≤ count → Frugal count' gone' (f a s')) :
    Frugal count' gone' ((x >>= f) s) := by
  cases h : x s with
  | error fault =>
    rw [bind_of_error h]
    rw [h] at hx
    exact hx
  | ok result =>
    obtain ⟨a, s'⟩ := result
    rw [bind_of_ok h]
    rw [h] at hx
    exact hf a s' hx

theorem of_map {g : α → β} (h : Frugal count gone ((do return g (← x) : Reader β) s)) :
    Frugal count gone (x s) := by
  cases hx : x s with
  | error fault => rwa [bind_of_error hx] at h
  | ok result => rwa [bind_of_ok (show x s = .ok (result.1, result.2) from hx)] at h

theorem mono {result : Except Fault (α × State)} (h : Frugal count gone result)
    (hle : count + gone' ≤ count' + gone) : Frugal count' gone' result := by
  cases result with
  | error fault => exact h
  | ok result =>
    simp only [Frugal] at h ⊢
    omega

end Frugal

section Steps
variable {limits : Limits} {s : State} {mark close : Mark} {name? : TokenKind → Option String}
  {expected : Expected} {height : ℕ}

lemma frugal_enter : Frugal s.tokens.length 0 (enter limits s) := by
  rw [enter_apply]
  split_ifs
  · exact le_rfl
  · exact .error (by simp)

lemma frugal_setHeight : Frugal s.tokens.length 0 (setHeight limits height s) := by
  rw [setHeight_apply]
  split_ifs
  · exact le_rfl
  · exact .error (by simp)

lemma frugal_expectMark : Frugal s.tokens.length 1 (expectMark mark s) := by
  rw [expectMark_apply]
  split_ifs with h
  · obtain ⟨o, rest, htokens⟩ := startsWith_eq_true_iff.mp h
    simp [Frugal, htokens]
  · exact .error (by simp)

lemma frugal_separate : Frugal s.tokens.length 0 (separate close s) := by
  rw [separate_apply]
  split_ifs
  · exact le_rfl
  · exact frugal_expectMark.mono (by omega)

lemma frugal_expectName (ne : name? .eof = none) :
    Frugal s.tokens.length 1 (expectName name? expected s) := by
  cases h : expectName name? expected s with
  | ok result =>
    obtain ⟨name, s'⟩ := result
    obtain ⟨kind, o, rest, htokens, -, rfl⟩ := (expectName_eq_ok ne).mp h
    simp [Frugal, htokens]
  | error fault =>
    unfold expectName at h
    rw [get_bind] at h
    cases hname : name? (current s.tokens).kind <;> rw [hname] at h <;> cases h
    exact .error (by simp)

end Steps

def Suffices (g : Grammar) (limits : Limits) (fuel : ℕ) : Prop :=
  ∀ (form : Form) (height : ℕ) (s : State), form.fuel s.tokens.length ≤ fuel →
    Frugal s.tokens.length form.shortest (form.reader g limits fuel height s)

section Forms
variable {g : Grammar} {limits : Limits} {fuel height : ℕ} {s : State}

lemma frugal_list {close : Mark} (ih : Suffices g limits fuel)
    (h : 8 * s.tokens.length + 9 ≤ fuel) :
    Frugal s.tokens.length 1 (list g limits close fuel height s) :=
  .of_map (ih (.list close) height s h)

lemma frugal_fields (ih : Suffices g limits fuel) (h : 8 * s.tokens.length + 9 ≤ fuel) :
    Frugal s.tokens.length 1 (fields g limits fuel height s) :=
  .of_map (ih .fields height s h)

lemma frugal_expression (ih : Suffices g limits fuel) (h : 8 * s.tokens.length + 8 ≤ fuel + 1) :
    Frugal s.tokens.length 1 (expression g limits (fuel + 1) s) := by
  rw [expression]
  refine frugal_enter.bind fun _ s₁ h₁ => ?_
  refine (ih .conditional 0 s₁ (by simp only [Form.fuel]; omega)).bind fun tree s₂ h₂ => ?_
  simp only [Form.shortest] at h₂
  exact show s₂.tokens.length + 1 ≤ s.tokens.length by omega

lemma frugal_conditional (ih : Suffices g limits fuel) (h : 8 * s.tokens.length + 7 ≤ fuel + 1) :
    Frugal s.tokens.length 1 (conditional g limits (fuel + 1) s) := by
  rw [conditional]
  refine (ih (.binary _) 0 s (by simp only [Form.fuel]; omega)).bind fun test s₁ h₁ => ?_
  simp only [Form.shortest] at h₁
  rw [check_bind]
  split_ifs with hquestion
  · obtain ⟨o, rest, htokens⟩ := startsWith_eq_true_iff.mp hquestion
    rw [get_bind, advance_bind]
    simp only [htokens, List.length_cons, List.tail_cons] at h₁ ⊢
    refine (ih .expression 0 _ (by simp only [Form.fuel, State.tokens_move]; omega)).bind
      fun consequent s₂ h₂ => ?_
    simp only [Form.shortest, State.tokens_move] at h₂
    rw [get_bind]
    refine frugal_expectMark.bind fun _ s₃ h₃ => ?_
    refine (ih .expression 0 s₃ (by simp only [Form.fuel]; omega)).bind fun alternate s₄ h₄ => ?_
    simp only [Form.shortest] at h₄
    rw [get_bind]
    refine frugal_setHeight.bind fun _ s₅ h₅ => ?_
    exact show s₅.tokens.length + 1 ≤ s.tokens.length by omega
  · exact h₁

lemma frugal_binary {least : Int32} (ih : Suffices g limits fuel)
    (h : 8 * s.tokens.length + 6 ≤ fuel + 1) :
    Frugal s.tokens.length 1 (binary g limits least (fuel + 1) s) := by
  rw [binary]
  refine (ih .unary 0 s (by simp only [Form.fuel]; omega)).bind fun left s₁ h₁ => ?_
  simp only [Form.shortest] at h₁
  rw [get_bind]
  refine (ih (.binaryTail least left) _ s₁ (by simp only [Form.fuel]; omega)).mono ?_
  simp only [Form.shortest]
  omega

lemma frugal_binaryTail {least : Int32} {left : Expr} (ih : Suffices g limits fuel)
    (h : 8 * s.tokens.length + 1 ≤ fuel + 1) :
    Frugal s.tokens.length 0 (binaryTail g limits least (fuel + 1) left height s) := by
  rw [binaryTail, get_bind]
  cases hat : binaryAt g s.tokens with
  | none => exact le_rfl
  | some operator =>
    obtain ⟨symbol, precedence⟩ := operator
    obtain ⟨o, rest, htokens, -⟩ := binaryAt_eq_some_iff.mp hat
    dsimp only
    split_ifs
    · exact le_rfl
    · rw [advance_bind]
      simp only [htokens, List.length_cons, List.tail_cons] at h ⊢
      refine (ih (.binary _) 0 _ (by simp only [Form.fuel, State.tokens_move]; omega)).bind
        fun right s₁ h₁ => ?_
      simp only [Form.shortest, State.tokens_move] at h₁
      rw [get_bind]
      refine frugal_setHeight.bind fun _ s₂ h₂ => ?_
      refine (ih (.binaryTail least _) _ s₂ (by simp only [Form.fuel]; omega)).mono ?_
      simp only [Form.shortest]
      omega

lemma frugal_unary (ih : Suffices g limits fuel) (h : 8 * s.tokens.length + 5 ≤ fuel + 1) :
    Frugal s.tokens.length 1 (unary g limits (fuel + 1) s) := by
  rw [unary, get_bind]
  cases hat : unaryAt g s.tokens with
  | none => exact ih .suffixed 0 s (by simp only [Form.fuel]; omega)
  | some symbol =>
    obtain ⟨o, rest, htokens, -⟩ := unaryAt_eq_some_iff.mp hat
    dsimp only
    rw [advance_bind]
    simp only [htokens, List.length_cons, List.tail_cons] at h ⊢
    refine frugal_enter.bind fun _ s₁ h₁ => ?_
    simp only [State.tokens_move] at h₁
    refine (ih .unary 0 s₁ (by simp only [Form.fuel]; omega)).bind fun operand s₂ h₂ => ?_
    simp only [Form.shortest] at h₂
    rw [leave_bind, get_bind]
    refine frugal_setHeight.bind fun _ s₃ h₃ => ?_
    change s₃.tokens.length + 0 ≤ s₂.tokens.length at h₃
    exact show s₃.tokens.length + 1 ≤ rest.length + 1 by omega

lemma frugal_suffixed (ih : Suffices g limits fuel) (h : 8 * s.tokens.length + 4 ≤ fuel + 1) :
    Frugal s.tokens.length 1 (suffixed g limits (fuel + 1) s) := by
  rw [suffixed]
  refine (ih .primary 0 s (by simp only [Form.fuel]; omega)).bind fun subject s₁ h₁ => ?_
  simp only [Form.shortest] at h₁
  rw [get_bind]
  refine (ih (.suffixes subject) _ s₁ (by simp only [Form.fuel]; omega)).mono ?_
  simp only [Form.shortest]
  omega

/-- A suffix that has been read leaves fewer tokens for the suffixes after it. -/
lemma frugal_set_suffixes {subject : Expr} {count : ℕ} (ih : Suffices g limits fuel)
    (h : 8 * count ≤ fuel) (hs : s.tokens.length + 1 ≤ count) :
    Frugal count 0 ((setHeight limits height >>= fun _ =>
      suffixes g limits fuel subject height) s) := by
  refine frugal_setHeight.bind fun _ s₁ h₁ => ?_
  refine (ih (.suffixes subject) height s₁ (by simp only [Form.fuel]; omega)).mono ?_
  simp only [Form.shortest]
  omega

lemma frugal_suffixes {subject : Expr} (ih : Suffices g limits fuel)
    (h : 8 * s.tokens.length + 1 ≤ fuel + 1) :
    Frugal s.tokens.length 0 (suffixes g limits (fuel + 1) subject height s) := by
  cases hat : suffixAt s.tokens with
  | false =>
    rw [suffixes_of_stop hat]
    exact le_rfl
  | true =>
    simp only [suffixAt, Bool.or_eq_true, startsWith_eq_true_iff] at hat
    obtain (⟨o, rest, htokens⟩ | ⟨o, rest, htokens⟩) | ⟨o, rest, htokens⟩ := hat
    · rw [suffixes_of_dot htokens]
      simp only [htokens, List.length_cons] at h ⊢
      refine (frugal_expectName rfl).bind fun name s₁ h₁ => ?_
      simp only [State.tokens_move] at h₁
      exact frugal_set_suffixes ih (by omega) (by omega)
    · rw [suffixes_of_bracket htokens]
      simp only [htokens, List.length_cons] at h ⊢
      refine (ih .expression 0 _ (by simp only [Form.fuel, State.tokens_move]; omega)).bind
        fun inner s₁ h₁ => ?_
      simp only [Form.shortest, State.tokens_move] at h₁
      rw [get_bind]
      refine frugal_expectMark.bind fun _ s₂ h₂ => ?_
      exact frugal_set_suffixes ih (by omega) (by omega)
    · rw [suffixes_of_pipe htokens]
      simp only [htokens, List.length_cons] at h ⊢
      refine (frugal_expectName rfl).bind fun name s₁ h₁ => ?_
      simp only [State.tokens_move] at h₁
      rw [check_bind]
      split_ifs with hparen
      · obtain ⟨o', rest', htokens'⟩ := startsWith_eq_true_iff.mp hparen
        rw [advance_bind]
        simp only [htokens', List.length_cons, List.tail_cons] at h₁ ⊢
        refine (frugal_list ih (by rw [State.tokens_move]; omega)).bind fun arguments s₂ h₂ => ?_
        simp only [State.tokens_move] at h₂
        rw [get_bind]
        exact frugal_set_suffixes ih (by omega) (by omega)
      · exact frugal_set_suffixes ih (by omega) (by omega)

lemma frugal_primary (ih : Suffices g limits fuel) (h : 8 * s.tokens.length + 3 ≤ fuel + 1) :
    Frugal s.tokens.length 1 (primary g limits (fuel + 1) s) := by
  cases hatom : atom? (current s.tokens).kind with
  | some leaf =>
    obtain ⟨o, rest, htokens⟩ := exists_of_kind s.tokens rfl
      (fun heq => by rw [heq] at hatom; cases hatom)
    rw [primary_of_atom htokens hatom, htokens]
    exact le_rfl
  | none =>
    cases hdot : startsWith .dot s.tokens with
    | true =>
      obtain ⟨o, rest, htokens⟩ := startsWith_eq_true_iff.mp hdot
      rw [primary_of_dot htokens, htokens]
      refine (frugal_expectName rfl).bind fun name s₁ h₁ => ?_
      exact show s₁.tokens.length + 1 ≤ rest.length + 1 from (Nat.le_succ _).trans' h₁
    | false =>
    cases hparen : startsWith .leftParen s.tokens with
    | true =>
      obtain ⟨o, rest, htokens⟩ := startsWith_eq_true_iff.mp hparen
      rw [primary_of_paren htokens]
      simp only [htokens, List.length_cons] at h ⊢
      refine (ih .expression 0 _ (by simp only [Form.fuel, State.tokens_move]; omega)).bind
        fun tree s₁ h₁ => ?_
      simp only [Form.shortest, State.tokens_move] at h₁
      refine frugal_expectMark.bind fun _ s₂ h₂ => ?_
      exact show s₂.tokens.length + 1 ≤ rest.length + 1 by omega
    | false =>
    cases hbracket : startsWith .leftBracket s.tokens with
    | true =>
      obtain ⟨o, rest, htokens⟩ := startsWith_eq_true_iff.mp hbracket
      rw [primary_of_bracket htokens]
      simp only [htokens, List.length_cons] at h ⊢
      refine (frugal_list ih (by rw [State.tokens_move]; omega)).bind fun items s₁ h₁ => ?_
      simp only [State.tokens_move] at h₁
      rw [get_bind]
      refine frugal_setHeight.bind fun _ s₂ h₂ => ?_
      exact show s₂.tokens.length + 1 ≤ rest.length + 1 by omega
    | false =>
    cases hbrace : startsWith .leftBrace s.tokens with
    | true =>
      obtain ⟨o, rest, htokens⟩ := startsWith_eq_true_iff.mp hbrace
      rw [primary_of_brace htokens]
      simp only [htokens, List.length_cons] at h ⊢
      refine (frugal_fields ih (by rw [State.tokens_move]; omega)).bind fun entries s₁ h₁ => ?_
      simp only [State.tokens_move] at h₁
      exact show s₁.tokens.length + 1 ≤ rest.length + 1 by omega
    | false =>
      rw [primary_of_none hdot hparen hbracket hbrace hatom]
      exact .error (by simp)

lemma frugal_list_succ {close : Mark} (ih : Suffices g limits fuel)
    (h : 8 * s.tokens.length + 9 ≤ fuel + 1) :
    Frugal s.tokens.length 1 (list g limits close (fuel + 1) height s) := by
  cases hclose : startsWith close s.tokens with
  | true =>
    obtain ⟨o, rest, htokens⟩ := startsWith_eq_true_iff.mp hclose
    rw [list_of_close htokens, htokens]
    exact le_rfl
  | false =>
    rw [list_of_more hclose]
    refine (ih .expression 0 s (by simp only [Form.fuel]; omega)).bind fun item s₁ h₁ => ?_
    simp only [Form.shortest] at h₁
    rw [get_bind]
    refine frugal_separate.bind fun _ s₂ h₂ => ?_
    refine (frugal_list ih (by omega)).bind fun items s₃ h₃ => ?_
    exact show s₃.tokens.length + 1 ≤ s.tokens.length by omega

lemma frugal_fields_succ (ih : Suffices g limits fuel) (h : 8 * s.tokens.length + 9 ≤ fuel + 1) :
    Frugal s.tokens.length 1 (fields g limits (fuel + 1) height s) := by
  cases hclose : startsWith .rightBrace s.tokens with
  | true =>
    obtain ⟨o, rest, htokens⟩ := startsWith_eq_true_iff.mp hclose
    rw [fields_of_close htokens, htokens]
    refine frugal_setHeight.bind fun _ s₁ h₁ => ?_
    exact show s₁.tokens.length + 1 ≤ rest.length + 1 from Nat.succ_le_succ h₁
  | false =>
    rw [fields_of_more hclose]
    refine (frugal_expectName rfl).bind fun key s₁ h₁ => ?_
    refine frugal_expectMark.bind fun _ s₂ h₂ => ?_
    refine (ih .expression 0 s₂ (by simp only [Form.fuel]; omega)).bind fun value s₃ h₃ => ?_
    simp only [Form.shortest] at h₃
    rw [get_bind]
    refine frugal_separate.bind fun _ s₄ h₄ => ?_
    refine (frugal_fields ih (by omega)).bind fun entries s₅ h₅ => ?_
    exact show s₅.tokens.length + 1 ≤ s.tokens.length by omega

end Forms

/-- Enough fuel is enough for all forms. -/
theorem suffices_fuel (g : Grammar) (limits : Limits) (fuel : ℕ) : Suffices g limits fuel := by
  induction fuel with
  | zero =>
    intro form height s h
    obtain ⟨less, hless⟩ := Form.exists_eq_succ_of_fuel h
    cases hless
  | succ fuel ih =>
    intro form height s h
    cases form with
    | expression => exact frugal_expression ih h
    | conditional => exact frugal_conditional ih h
    | binary => exact frugal_binary ih h
    | binaryTail => exact frugal_binaryTail ih h
    | unary => exact frugal_unary ih h
    | suffixed => exact frugal_suffixed ih h
    | suffixes => exact frugal_suffixes ih h
    | primary => exact frugal_primary ih h
    | list => exact (frugal_list_succ ih h).bind fun _ _ hle => hle
    | fields => exact (frugal_fields_succ ih h).bind fun _ _ hle => hle

/-- A whole token list is read with the fuel that is enough for an expression. -/
theorem frugal_whole (g : Grammar) (limits : Limits) {fuel : ℕ} (s : State)
    (h : 8 * s.tokens.length + 8 ≤ fuel) : Frugal s.tokens.length 0 (whole g limits fuel s) := by
  refine (suffices_fuel g limits fuel .expression 0 s h).bind fun tree s₁ h₁ => ?_
  rw [get_bind]
  split_ifs
  · have htail : s₁.tokens.tail.length ≤ s₁.tokens.length := s₁.tokens.tail_sublist.length_le
    simp only [Form.shortest] at h₁
    exact show s₁.tokens.tail.length + 0 ≤ s.tokens.length by omega
  · exact .error (by simp)

end Cohort.Parser
