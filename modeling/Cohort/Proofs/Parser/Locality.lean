import Cohort.Proofs.Parser.Reads
import Mathlib

/-!
A phrase is what it is wherever it stands. Of the tokens after it, only the first one has a say in
where it ends, and for an operand only in so far as it could begin a suffix.
-/
namespace Cohort.Parser

/-- Whether a binary operator or a question mark after a phrase of a form would belong to it. -/
def Form.joins : Form → Bool
  | .expression | .conditional | .binary _ | .binaryTail _ _ => true
  | _ => false

/-- Two continuations that end a phrase of a form in the same way. -/
structure Alike (g : Grammar) (form : Form) (after after' : List Token) : Prop where
  suffix : suffixAt after = suffixAt after'
  call : startsWith .leftParen after = startsWith .leftParen after'
  operator : form.joins = true → binaryAt g after = binaryAt g after'
  question : form.joins = true → startsWith .question after = startsWith .question after'

section Alike
variable {g : Grammar} {form other : Form} {after after' : List Token}

theorem startsWith_cons (mark : Mark) (token : Token) :
    startsWith mark (token :: after) = startsWith mark (token :: after') := by
  obtain ⟨kind, o⟩ := token
  cases kind <;> rfl

theorem binaryAt_cons (token : Token) :
    binaryAt g (token :: after) = binaryAt g (token :: after') := by
  obtain ⟨kind, o⟩ := token
  cases kind <;> rfl

theorem unaryAt_cons (token : Token) :
    unaryAt g (token :: after) = unaryAt g (token :: after') := by
  obtain ⟨kind, o⟩ := token
  cases kind <;> rfl

theorem startsWith_append {consumed : List Token} (mark : Mark) (h : 0 < consumed.length) :
    startsWith mark (consumed ++ after) = startsWith mark (consumed ++ after') := by
  obtain ⟨token, rest, rfl⟩ := List.exists_cons_of_length_pos h
  exact startsWith_cons mark token

theorem unaryAt_append {consumed : List Token} (h : 0 < consumed.length) :
    unaryAt g (consumed ++ after) = unaryAt g (consumed ++ after') := by
  obtain ⟨token, rest, rfl⟩ := List.exists_cons_of_length_pos h
  exact unaryAt_cons token

namespace Alike

/-- Continuations that begin with the same token are alike for all forms. -/
theorem cons (token : Token) : Alike g form (token :: after) (token :: after') where
  suffix := by
    rw [suffixAt, startsWith_cons .dot, startsWith_cons .leftBracket, startsWith_cons .pipe]
    rfl
  call := startsWith_cons .leftParen token
  operator _ := binaryAt_cons token
  question _ := startsWith_cons .question token

theorem append (h : Alike g form after after') (consumed : List Token) :
    Alike g form (consumed ++ after) (consumed ++ after') := by
  cases consumed with
  | nil => exact h
  | cons token consumed => exact cons token

/-- A part at the end of a phrase ends no earlier than the phrase. -/
theorem part (h : Alike g form after after') (hjoins : other.joins = true → form.joins = true) :
    Alike g other after after' :=
  ⟨h.suffix, h.call, fun hother => h.operator (hjoins hother),
    fun hother => h.question (hjoins hother)⟩

/-- Of what follows an operand, operators and question marks are none of its own. -/
theorem inner (h : Alike g form after after') (hother : other.joins = false) :
    Alike g other after after' :=
  h.part fun htrue => absurd (hother.symm.trans htrue) Bool.false_ne_true

theorem continues_iff (h : Alike g form after after') (hjoins : form.joins = true)
    (least : Int32) : Continues g least after ↔ Continues g least after' := by
  rw [Continues, Continues, h.operator hjoins]

end Alike

end Alike

/-- A phrase of a form takes up some tokens whatever alike comes after them. -/
def Movable (g : Grammar) (form : Form) (before after : List Token) (tree : Expr) (n : ℕ) : Prop :=
  ∃ consumed, before = consumed ++ after ∧ form.shortest ≤ consumed.length ∧
    ∀ after', Alike g form after after' → Reads g form (consumed ++ after') after' tree n

namespace Movable
variable {g : Grammar} {form first second : Form} {before mid mid' after : List Token}
  {tree tree' whole test consequent alternate : Expr} {n n' k n₁ n₂ n₃ : ℕ} {token : Token}
  {o o' : ℕ}

lemma front (front : List Token) (h : Movable g first mid after tree n)
    (hjoins : first.joins = false) (hshort : form.shortest ≤ front.length)
    (hread : ∀ {b after'}, Reads g first b after' tree n →
      Reads g form (front ++ b) after' whole k) :
    Movable g form (front ++ mid) after whole k := by
  obtain ⟨c, rfl, -, h⟩ := h
  refine ⟨front ++ c, by simp, ?_, fun after' halike => ?_⟩
  · rw [List.length_append]
    omega
  · rw [List.append_assoc]
    exact hread (h after' (halike.inner hjoins))

lemma enclosed (front : List Token) (h : Movable g .expression mid (token :: after) tree n)
    (hshort : form.shortest ≤ 1)
    (hread : ∀ {c after'}, (∀ mark, startsWith mark (c ++ token :: after') = startsWith mark mid) →
      Reads g .expression (c ++ token :: after') (token :: after') tree n →
      Reads g form (front ++ (c ++ token :: after')) after' whole k) :
    Movable g form (front ++ mid) after whole k := by
  obtain ⟨c, rfl, hc, h⟩ := h
  refine ⟨front ++ (c ++ [token]), by simp, ?_, fun after' _ => ?_⟩
  · simp only [List.length_append, List.length_singleton]
    omega
  · simp only [List.append_assoc, List.singleton_append]
    exact hread (fun mark => startsWith_append mark hc) (h _ (.cons token))

lemma followed (front : List Token) (h : Movable g first mid mid' tree n)
    (h' : Movable g second mid' after tree' n') (hfirst : first.joins = true → form.joins = true)
    (hsecond : second.joins = true → form.joins = true)
    (hshort : form.shortest ≤ front.length + first.shortest)
    (hread : ∀ {b b' after'}, Reads g first b b' tree n → Reads g second b' after' tree' n' →
      Reads g form (front ++ b) after' whole k) :
    Movable g form (front ++ mid) after whole k := by
  obtain ⟨c', rfl, -, h'⟩ := h'
  obtain ⟨c, rfl, hc, h⟩ := h
  refine ⟨front ++ (c ++ c'), by simp, ?_, fun after' halike => ?_⟩
  · simp only [List.length_append]
    omega
  · simp only [List.append_assoc]
    exact hread (h _ ((halike.append c').part hfirst)) (h' after' (halike.part hsecond))

lemma separated (front : List Token) (h : Movable g .expression mid (token :: mid') tree n)
    (h' : Movable g second mid' after tree' n') (hsecond : second.joins = false)
    (hshort : form.shortest ≤ 1)
    (hread : ∀ {c b' after'}, (∀ mark, startsWith mark (c ++ token :: b') = startsWith mark mid) →
      Reads g .expression (c ++ token :: b') (token :: b') tree n →
      Reads g second b' after' tree' n' → Reads g form (front ++ (c ++ token :: b')) after' whole k) :
    Movable g form (front ++ mid) after whole k := by
  obtain ⟨c', rfl, -, h'⟩ := h'
  obtain ⟨c, rfl, hc, h⟩ := h
  refine ⟨front ++ (c ++ token :: c'), by simp, ?_, fun after' halike => ?_⟩
  · simp only [List.length_append, List.length_cons]
    omega
  · simp only [List.append_assoc, List.cons_append]
    exact hread (fun mark => startsWith_append mark hc) (h _ (.cons token))
      (h' after' (halike.inner hsecond))

lemma conditional
    (h₁ : Movable g (.binary Int32.minValue) before (⟨.mark .question, o⟩ :: mid) test n₁)
    (h₂ : Movable g .expression mid (⟨.mark .colon, o'⟩ :: mid') consequent n₂)
    (h₃ : Movable g .expression mid' after alternate n₃) :
    Movable g .conditional before after (.conditional test consequent alternate)
      (max (max n₁ n₂) n₃) := by
  obtain ⟨c₁, rfl, hc₁, h₁⟩ := h₁
  obtain ⟨c₂, rfl, -, h₂⟩ := h₂
  obtain ⟨c₃, rfl, -, h₃⟩ := h₃
  refine ⟨c₁ ++ ⟨.mark .question, o⟩ :: (c₂ ++ ⟨.mark .colon, o'⟩ :: c₃), by simp, ?_,
    fun after' halike => ?_⟩
  · simp only [Form.shortest, List.length_append, List.length_cons]
    omega
  · simp only [List.append_assoc, List.cons_append]
    exact .conditional (h₁ _ (.cons _)) (h₂ _ (.cons _)) (h₃ after' (halike.part fun _ => rfl))

end Movable

/-- A phrase may be moved to stand before tokens that end it in the same way. -/
theorem Reads.movable {g : Grammar} {form : Form} {before after : List Token} {tree : Expr} {n : ℕ}
    (h : Reads g form before after tree n) : Movable g form before after tree n := by
  induction h with
  | expression _ ih =>
    obtain ⟨c, rfl, hc, ih⟩ := ih
    exact ⟨c, rfl, hc, fun after' h => .expression (ih after' (h.part fun _ => rfl))⟩
  | test _ stop ih =>
    obtain ⟨c, rfl, hc, ih⟩ := ih
    exact ⟨c, rfl, hc, fun after' h =>
      .test (ih after' (h.part fun _ => rfl)) ((h.question rfl).symm.trans stop)⟩
  | conditional _ _ _ ih₁ ih₂ ih₃ => exact .conditional ih₁ ih₂ ih₃
  | binary _ _ ih ih' => exact .followed [] ih ih' nofun (fun _ => rfl) le_rfl .binary
  | binaryStop stop =>
    exact ⟨[], rfl, le_rfl, fun after' h => .binaryStop (mt (h.continues_iff rfl _).mpr stop)⟩
  | binaryStep registered tight _ _ ih ih' =>
    exact .followed [_] ih ih' (fun _ => rfl) (fun _ => rfl) (Nat.zero_le _)
      (.binaryStep registered tight)
  | unary registered _ ih => exact .front [_] ih rfl le_rfl (.unary registered)
  | operand bare _ ih =>
    obtain ⟨c, rfl, hc, ih⟩ := ih
    exact ⟨c, rfl, hc, fun after' h =>
      .operand ((unaryAt_append hc).trans bare) (ih after' (h.inner rfl))⟩
  | suffixed _ _ ih ih' => exact .followed [] ih ih' nofun nofun le_rfl .suffixed
  | suffixStop stop =>
    exact ⟨[], rfl, le_rfl, fun after' h => .suffixStop (h.suffix.symm.trans stop)⟩
  | member _ ih => exact .front [_, _] ih rfl (Nat.zero_le _) .member
  | bracket _ _ ih ih' => exact .separated [_] ih ih' rfl (Nat.zero_le _) fun _ => .bracket
  | @transform _ o name o' _ _ _ _ stop _ ih =>
    obtain ⟨c, rfl, -, ih⟩ := ih
    exact ⟨⟨.mark .pipe, o⟩ :: ⟨.identifier name, o'⟩ :: c, rfl, Nat.zero_le _, fun after' h =>
      .transform ((h.append c).call.symm.trans stop) (ih after' (h.inner rfl))⟩
  | call _ _ ih ih' => exact .followed [_, _, _] ih ih' nofun nofun (Nat.zero_le _) .call
  | @atom kind o _ _ h => exact ⟨[⟨kind, o⟩], rfl, le_rfl, fun _ _ => .atom h⟩
  | @relative o name o' _ =>
    exact ⟨[⟨.mark .dot, o⟩, ⟨.identifier name, o'⟩], rfl, by simp [Form.shortest],
      fun _ _ => .relative⟩
  | group _ ih => exact .enclosed [_] ih le_rfl fun _ => .group
  | array _ ih => exact .front [_] ih rfl le_rfl .array
  | object _ ih => exact .front [_] ih rfl le_rfl .object
  | @listEnd close o _ => exact ⟨[⟨.mark close, o⟩], rfl, le_rfl, fun _ _ => .listEnd⟩
  | listLast more _ ih =>
    exact .enclosed [] ih le_rfl fun hbegins => .listLast ((hbegins _).trans more)
  | listItem more other _ _ ih ih' =>
    exact .separated [] ih ih' rfl le_rfl fun hbegins => .listItem ((hbegins _).trans more) other
  | @fieldsEnd o _ => exact ⟨[⟨.mark .rightBrace, o⟩], rfl, le_rfl, fun _ _ => .fieldsEnd⟩
  | fieldsLast named _ ih => exact .enclosed [_, _] ih le_rfl fun _ => .fieldsLast named
  | fieldsItem named _ _ ih ih' =>
    exact .separated [_, _] ih ih' rfl le_rfl fun _ => .fieldsItem named

end Cohort.Parser
