import Cohort.Proofs.Parser.Spelling
import Mathlib

/-!
The parser never goes past an end marker. It goes over a token only after it has looked at it and
found it to be of another kind. So whether it fails or not, the tokens that it has not come to yet
are those it was given less some in front, and no end marker is among these.
-/
namespace Cohort.Parser

/-- What remains of some tokens when a few in front are gone, none of them an end marker. -/
def Consumed (before after : List Token) : Prop :=
  ∃ consumed, before = consumed ++ after ∧ ∀ token ∈ consumed, token.kind.isEof = false

def remaining {α : Type} : Except Fault (α × State) → List Token
  | .ok (_, s) => s.tokens
  | .error fault => fault.tokens

/-- A reader goes over no end marker. -/
def Careful {α : Type} (x : Reader α) : Prop := ∀ s, Consumed s.tokens (remaining (x s))

section Consumed
variable {before middle after : List Token}

theorem Consumed.refl (tokens : List Token) : Consumed tokens tokens := ⟨[], rfl, by simp⟩

theorem Consumed.trans (h : Consumed before middle) (h' : Consumed middle after) :
    Consumed before after := by
  obtain ⟨consumed, rfl, hkinds⟩ := h
  obtain ⟨consumed', rfl, hkinds'⟩ := h'
  refine ⟨consumed ++ consumed', by simp, fun token htoken => ?_⟩
  obtain hmem | hmem := List.mem_append.mp htoken
  · exact hkinds token hmem
  · exact hkinds' token hmem

theorem Consumed.tail (h : (current before).kind.isEof = false) : Consumed before before.tail := by
  cases before with
  | nil => cases h
  | cons token rest => exact ⟨[token], rfl, by simpa [current] using h⟩

/-- The tokens before the first end marker are those consumed and those before it that remain. -/
theorem Consumed.exists_beforeEof (h : Consumed before after) :
    ∃ consumed, before = consumed ++ after ∧ beforeEof before = consumed ++ beforeEof after := by
  obtain ⟨consumed, rfl, hkinds⟩ := h
  exact ⟨consumed, rfl, List.takeWhile_append_of_pos (by simpa using hkinds)⟩

theorem isEof_of_startsWith {mark : Mark} {tokens : List Token}
    (h : startsWith mark tokens = true) : (current tokens).kind.isEof = false := by
  obtain ⟨o, rest, rfl⟩ := startsWith_eq_true_iff.mp h
  rfl

end Consumed

section Sequence
variable {α β : Type} {x : Reader α} {f : α → Reader β} {s : State}

/-- What the second of two steps leaves, compared with what the first one leaves. -/
theorem remaining_bind {r : List Token → List Token → Prop} (hrefl : ∀ tokens, r tokens tokens)
    (h : ∀ a s, r s.tokens (remaining (f a s))) :
    r (remaining (x s)) (remaining ((x >>= f) s)) := by
  cases hx : x s with
  | error fault =>
    rw [bind_of_error hx]
    exact hrefl _
  | ok result =>
    obtain ⟨a, s'⟩ := result
    rw [bind_of_ok hx]
    exact h a s'

namespace Careful

theorem pure (a : α) : Careful (Pure.pure a) := fun s => .refl s.tokens

theorem fail (cause : Cause) : Careful (Parser.fail cause : Reader α) := fun s => .refl s.tokens

theorem bind (h : Careful x) (hf : ∀ a, Careful (f a)) : Careful (x >>= f) :=
  fun s => (h s).trans (remaining_bind Consumed.refl hf)

theorem of_map {g : α → β} (h : Careful (do return g (← x))) : Careful x := by
  intro s
  have hs := h s
  cases hx : x s with
  | error fault => rwa [bind_of_error hx] at hs
  | ok result => rwa [bind_of_ok (show x s = .ok (result.1, result.2) from hx)] at hs

theorem look {f : State → Reader β} (hf : ∀ s, Careful (f s)) : Careful (get >>= f) :=
  fun s => hf s s

/-- A token that is no end marker may be gone over. -/
theorem advance {f : Unit → Reader β} (hf : Careful (f ()))
    (h : (current s.tokens).kind.isEof = false) :
    Consumed s.tokens (remaining ((Parser.advance >>= f) s)) :=
  (Consumed.tail h).trans (hf (s.move s.tokens.tail))

/-- After a mark has been found, it is known that no end marker comes next. -/
theorem check {mark : Mark} {f : Bool → Reader β}
    (htrue : ∀ s, (current s.tokens).kind.isEof = false →
      Consumed s.tokens (remaining (f true s)))
    (hfalse : Careful (f false)) : Careful (Parser.check mark >>= f) := by
  intro s
  rw [check_bind]
  cases h : startsWith mark s.tokens with
  | true => exact htrue s (isEof_of_startsWith h)
  | false => exact hfalse s

/-- A mark is gone over when it is there, and something else is read when it is not. -/
theorem ifMark {mark : Mark} {y : Unit → Reader α} {z : Reader α} (hy : Careful (y ()))
    (hz : Careful z) :
    Careful (Parser.check mark >>= fun found =>
      if found = true then Parser.advance >>= y else z) :=
  check (fun _ h => hy.advance h) hz

end Careful

end Sequence

section Steps
variable {limits : Limits} {mark close : Mark} {name? : TokenKind → Option String}
  {expected : Expected} {height : ℕ}

theorem careful_expectMark : Careful (expectMark mark) := by
  intro s
  rw [expectMark_apply]
  split_ifs with h
  · exact .tail (isEof_of_startsWith h)
  · exact .refl _

theorem careful_separate : Careful (separate close) :=
  .check (fun s _ => .refl s.tokens) careful_expectMark

theorem careful_expectName (ne : name? .eof = none) : Careful (expectName name? expected) := by
  intro s
  unfold expectName
  rw [get_bind]
  cases hname : name? (current s.tokens).kind with
  | none => exact .refl _
  | some name =>
    refine (Careful.pure name).advance ?_
    cases hkind : (current s.tokens).kind with
    | eof =>
      rw [hkind, ne] at hname
      cases hname
    | _ => rfl

theorem careful_enter : Careful (enter limits) := by
  intro s
  rw [enter_apply]
  split_ifs <;> exact .refl _

theorem careful_leave : Careful leave := fun s => .refl s.tokens

theorem careful_putHeight : Careful (putHeight height) := fun s => .refl s.tokens

theorem careful_setHeight : Careful (setHeight limits height) := by
  intro s
  rw [setHeight_apply]
  split_ifs <;> exact .refl _

end Steps

def AllCareful (g : Grammar) (limits : Limits) (fuel : ℕ) : Prop :=
  ∀ (form : Form) (height : ℕ), Careful (form.reader g limits fuel height)

section Forms
variable {g : Grammar} {limits : Limits} {fuel height : ℕ} {subject left : Expr} {least : Int32}
  {close : Mark}

lemma careful_list (ih : AllCareful g limits fuel) :
    Careful (list g limits close fuel height) :=
  .of_map (ih (.list close) height)

lemma careful_fields (ih : AllCareful g limits fuel) :
    Careful (fields g limits fuel height) :=
  .of_map (ih .fields height)

lemma careful_expression (ih : AllCareful g limits fuel) :
    Careful (expression g limits (fuel + 1)) := by
  rw [expression]
  refine careful_enter.bind fun _ => (ih .conditional 0).bind fun tree => ?_
  exact careful_leave.bind fun _ => .pure tree

lemma careful_conditional (ih : AllCareful g limits fuel) :
    Careful (conditional g limits (fuel + 1)) := by
  rw [conditional]
  refine (ih (.binary _) 0).bind fun test => .check (fun s h => ?_) (.pure test)
  rw [if_pos rfl, get_bind]
  refine Careful.advance ?_ h
  refine (ih .expression 0).bind fun consequent => .look fun t => ?_
  refine careful_expectMark.bind fun _ => (ih .expression 0).bind fun alternate => .look fun u => ?_
  exact careful_setHeight.bind fun _ => .pure _

lemma careful_binary (ih : AllCareful g limits fuel) :
    Careful (binary g limits least (fuel + 1)) := by
  rw [binary]
  exact (ih .unary 0).bind fun left => .look fun s => ih (.binaryTail least left) s.height

lemma careful_binaryTail (ih : AllCareful g limits fuel) :
    Careful (binaryTail g limits least (fuel + 1) left height) := by
  intro s
  rw [binaryTail, get_bind]
  cases hat : binaryAt g s.tokens with
  | none => exact .refl _
  | some operator =>
    obtain ⟨symbol, precedence⟩ := operator
    obtain ⟨o, rest, htokens, -⟩ := binaryAt_eq_some_iff.mp hat
    dsimp only
    split_ifs
    · exact .refl _
    · refine Careful.advance ?_ (by rw [htokens]; rfl)
      refine (ih (.binary _) 0).bind fun right => .look fun t => ?_
      exact careful_setHeight.bind fun _ => ih (.binaryTail least _) _

lemma careful_unary (ih : AllCareful g limits fuel) :
    Careful (unary g limits (fuel + 1)) := by
  intro s
  rw [unary, get_bind]
  cases hat : unaryAt g s.tokens with
  | none => exact ih .suffixed 0 s
  | some symbol =>
    obtain ⟨o, rest, htokens, -⟩ := unaryAt_eq_some_iff.mp hat
    refine Careful.advance ?_ (by rw [htokens]; rfl)
    refine careful_enter.bind fun _ => (ih .unary 0).bind fun operand => ?_
    refine careful_leave.bind fun _ => .look fun t => ?_
    exact careful_setHeight.bind fun _ => .pure _

lemma careful_suffixed (ih : AllCareful g limits fuel) :
    Careful (suffixed g limits (fuel + 1)) := by
  rw [suffixed]
  exact (ih .primary 0).bind fun subject => .look fun s => ih (.suffixes subject) s.height

lemma careful_set_suffixes (ih : AllCareful g limits fuel) :
    Careful (setHeight limits height >>= fun _ => suffixes g limits fuel subject height) :=
  careful_setHeight.bind fun _ => ih (.suffixes subject) height

lemma careful_suffixes (ih : AllCareful g limits fuel) :
    Careful (suffixes g limits (fuel + 1) subject height) := by
  rw [suffixes]
  refine .ifMark ?dot (.ifMark ?bracket (.ifMark ?pipe ?stop))
  case dot => exact (careful_expectName rfl).bind fun name => careful_set_suffixes ih
  case bracket =>
    refine (ih .expression 0).bind fun inner => .look fun s => ?_
    exact careful_expectMark.bind fun _ => careful_set_suffixes ih
  case pipe =>
    refine (careful_expectName rfl).bind fun name => .ifMark ?_ (careful_set_suffixes ih)
    exact (careful_list ih).bind fun arguments => .look fun s => careful_set_suffixes ih
  case stop => exact careful_putHeight.bind fun _ => .pure subject

lemma careful_primary (ih : AllCareful g limits fuel) :
    Careful (primary g limits (fuel + 1)) := by
  rw [primary]
  refine careful_putHeight.bind fun _ =>
    .ifMark ?dot (.ifMark ?paren (.ifMark ?bracket (.ifMark ?brace ?atom)))
  case dot => exact (careful_expectName rfl).bind fun name => .pure _
  case paren =>
    refine (ih .expression 0).bind fun tree => ?_
    exact careful_expectMark.bind fun _ => .pure tree
  case bracket =>
    refine (careful_list ih).bind fun items => .look fun s => ?_
    exact careful_setHeight.bind fun _ => .pure _
  case brace => exact (careful_fields ih).bind fun entries => .pure _
  case atom =>
    intro s
    rw [get_bind]
    cases hatom : atom? (current s.tokens).kind with
    | none => exact .refl _
    | some tree =>
      refine (Careful.pure tree).advance ?_
      cases hkind : (current s.tokens).kind with
      | eof =>
        rw [hkind] at hatom
        cases hatom
      | _ => rfl

lemma careful_list_succ (ih : AllCareful g limits fuel) :
    Careful (list g limits close (fuel + 1) height) := by
  rw [list]
  refine .ifMark (careful_putHeight.bind fun _ => .pure []) ?_
  refine (ih .expression 0).bind fun item => .look fun s => ?_
  exact careful_separate.bind fun _ => (careful_list ih).bind fun items => .pure _

lemma careful_fields_succ (ih : AllCareful g limits fuel) :
    Careful (fields g limits (fuel + 1) height) := by
  rw [fields]
  refine .ifMark (careful_setHeight.bind fun _ => .pure []) ?_
  refine (careful_expectName rfl).bind fun key => careful_expectMark.bind fun _ => ?_
  refine (ih .expression 0).bind fun value => .look fun s => ?_
  exact careful_separate.bind fun _ => (careful_fields ih).bind fun entries => .pure _

end Forms

theorem allCareful (g : Grammar) (limits : Limits) (fuel : ℕ) : AllCareful g limits fuel := by
  induction fuel with
  | zero =>
    intro form height
    cases form with
    | list => exact (Careful.fail .outOfFuel).bind fun _ => .pure _
    | fields => exact (Careful.fail .outOfFuel).bind fun _ => .pure _
    | _ => exact .fail .outOfFuel
  | succ fuel ih =>
    intro form height
    cases form with
    | expression => exact careful_expression ih
    | conditional => exact careful_conditional ih
    | binary => exact careful_binary ih
    | binaryTail => exact careful_binaryTail ih
    | unary => exact careful_unary ih
    | suffixed => exact careful_suffixed ih
    | suffixes => exact careful_suffixes ih
    | primary => exact careful_primary ih
    | list => exact (careful_list_succ ih).bind fun _ => .pure _
    | fields => exact (careful_fields_succ ih).bind fun _ => .pure _

theorem consumed_of_run_eq_error {g : Grammar} {limits : Limits} {tokens : List Token}
    {fault : Fault} (h : run g limits tokens = .error fault) :
    Consumed (closed tokens) fault.tokens := by
  rw [run, whole] at h
  have hexpression := allCareful g limits (fuelFor tokens) .expression 0 (start tokens)
  obtain herror | ⟨tree, s, hok, herror⟩ := bind_eq_error.mp h
  · rw [Form.reader, herror] at hexpression
    exact hexpression
  · rw [Form.reader, hok] at hexpression
    rw [get_bind] at herror
    split_ifs at herror
    · cases herror
    · cases herror
      exact hexpression

end Cohort.Parser
