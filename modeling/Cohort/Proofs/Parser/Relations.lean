import Cohort.Expr.Parser
import Mathlib

/-!
Two parsers side by side. They may have different grammars and limits and may stand at different
tokens. A relation between what they do that holds of their single steps and goes through sequences
of steps holds of the two parsers as a whole.
-/
namespace Cohort.Parser

/-- Two states are the same to a reader that looks no further than the current token: it is of the
same kind in both, one of those in `fine`, and the same height is on record. -/
structure Sees (fine : TokenKind → Prop) (s s' : State) : Prop where
  height : s.height = s'.height
  kind : (current s.tokens).kind = (current s'.tokens).kind
  fine : fine (current s.tokens).kind

/-- A relation between the readers of two parsers that their steps keep to. The grammars need to
agree on the operators that are among the kinds in `fine` only, as no other ones are seen. -/
structure Respects (fine : TokenKind → Prop) (g g' : Grammar) (limits limits' : Limits)
    (rel : (α : Type) → Reader α → Reader α → Prop) : Prop where
  precedence (symbol : String) :
    fine (.operator symbol) → g.precedence? symbol = g'.precedence? symbol
  isUnary (symbol : String) : fine (.operator symbol) → g.isUnary symbol = g'.isUnary symbol
  pure {α : Type} (a : α) : rel α (pure a) (pure a)
  fail {α : Type} {cause : Cause} : cause ≠ .tooDeep → rel α (fail cause) (fail cause)
  bind {α β : Type} {x x' : Reader α} {f f' : α → Reader β} :
    rel α x x' → (∀ a, rel β (f a) (f' a)) → rel β (x >>= f) (x' >>= f')
  look {β : Type} {f f' : State → Reader β} :
    (∀ s s', Sees fine s s' → rel β (f s) (f' s')) → rel β (get >>= f) (get >>= f')
  advance : rel Unit advance advance
  enter : rel Unit (enter limits) (enter limits')
  leave : rel Unit leave leave
  putHeight (height : ℕ) : rel Unit (putHeight height) (putHeight height)
  setHeight (height : ℕ) : rel Unit (setHeight limits height) (setHeight limits' height)

variable {fine : TokenKind → Prop} {g g' : Grammar} {limits limits' : Limits}
  {rel : (α : Type) → Reader α → Reader α → Prop}

theorem startsWith_eq_match (mark : Mark) (tokens : List Token) :
    startsWith mark tokens = match (current tokens).kind with
      | .mark mark' => decide (mark' = mark)
      | _ => false := by
  rcases tokens with _ | ⟨⟨kind, o⟩, rest⟩
  · rfl
  · cases kind <;> rfl

theorem binaryAt_eq_match (g : Grammar) (tokens : List Token) :
    binaryAt g tokens = match (current tokens).kind with
      | .operator symbol => (g.precedence? symbol).map (symbol, ·)
      | _ => none := by
  rcases tokens with _ | ⟨⟨kind, o⟩, rest⟩
  · rfl
  · cases kind <;> rfl

theorem unaryAt_eq_match (g : Grammar) (tokens : List Token) :
    unaryAt g tokens = match (current tokens).kind with
      | .operator symbol => if g.isUnary symbol then some symbol else none
      | _ => none := by
  rcases tokens with _ | ⟨⟨kind, o⟩, rest⟩
  · rfl
  · cases kind <;> rfl

namespace Respects
variable {mark close : Mark} {name? : TokenKind → Option String} {what : Expected}
  {s s' : State}

theorem binaryAt_eq (h : Respects fine g g' limits limits' rel) (hs : Sees fine s s') :
    binaryAt g s.tokens = binaryAt g' s'.tokens := by
  have hfine := hs.fine
  rw [binaryAt_eq_match, binaryAt_eq_match, ← hs.kind]
  cases hkind : (current s.tokens).kind with
  | operator symbol =>
    rw [hkind] at hfine
    simp only [h.precedence symbol hfine]
  | _ => rfl

theorem unaryAt_eq (h : Respects fine g g' limits limits' rel) (hs : Sees fine s s') :
    unaryAt g s.tokens = unaryAt g' s'.tokens := by
  have hfine := hs.fine
  rw [unaryAt_eq_match, unaryAt_eq_match, ← hs.kind]
  cases hkind : (current s.tokens).kind with
  | operator symbol =>
    rw [hkind] at hfine
    simp only [h.isUnary symbol hfine]
  | _ => rfl

theorem ite (_ : Respects fine g g' limits limits' rel) {α : Type} {c : Prop} [Decidable c]
    {x x' y y' : Reader α} (hx : rel α x x') (hy : rel α y y') :
    rel α (if c then x else y) (if c then x' else y') := by
  split_ifs
  · exact hx
  · exact hy

theorem expected (h : Respects fine g g' limits limits' rel) {α : Type} :
    rel α (Parser.fail (.expected what)) (Parser.fail (.expected what)) :=
  h.fail (by simp)

theorem check (h : Respects fine g g' limits limits' rel) :
    rel Bool (check mark) (check mark) := by
  refine h.look fun s s' hs => ?_
  rw [startsWith_eq_match, startsWith_eq_match, hs.kind]
  exact h.pure _

theorem expectMark (h : Respects fine g g' limits limits' rel) :
    rel Unit (expectMark mark) (expectMark mark) :=
  h.bind h.check fun _ => h.ite h.advance (h.expected)

theorem separate (h : Respects fine g g' limits limits' rel) :
    rel Unit (separate close) (separate close) :=
  h.bind h.check fun _ => h.ite (h.pure ()) h.expectMark

theorem expectName (h : Respects fine g g' limits limits' rel) :
    rel String (expectName name? what) (expectName name? what) := by
  refine h.look fun s s' hs => ?_
  rw [hs.kind]
  cases name? (current s'.tokens).kind with
  | none => exact h.expected
  | some name => exact h.bind h.advance fun _ => h.pure name

end Respects

structure Related (g g' : Grammar) (limits limits' : Limits)
    (rel : (α : Type) → Reader α → Reader α → Prop) (fuel fuel' : ℕ) : Prop where
  expression : rel Expr (expression g limits fuel) (expression g' limits' fuel')
  conditional : rel Expr (conditional g limits fuel) (conditional g' limits' fuel')
  binary (least : Int32) : rel Expr (binary g limits least fuel) (binary g' limits' least fuel')
  binaryTail (least : Int32) (left : Expr) (height : ℕ) :
    rel Expr (binaryTail g limits least fuel left height)
      (binaryTail g' limits' least fuel' left height)
  unary : rel Expr (unary g limits fuel) (unary g' limits' fuel')
  suffixed : rel Expr (suffixed g limits fuel) (suffixed g' limits' fuel')
  suffixes (subject : Expr) (height : ℕ) :
    rel Expr (suffixes g limits fuel subject height) (suffixes g' limits' fuel' subject height)
  primary : rel Expr (primary g limits fuel) (primary g' limits' fuel')
  list (close : Mark) (height : ℕ) :
    rel (List Expr) (list g limits close fuel height) (list g' limits' close fuel' height)
  fields (height : ℕ) :
    rel (List (String × Expr)) (fields g limits fuel height) (fields g' limits' fuel' height)

section Phrases
variable {fuel fuel' height : ℕ} {least : Int32} {left subject : Expr} {close : Mark}

lemma related_expression (h : Respects fine g g' limits limits' rel)
    (ih : Related g g' limits limits' rel fuel fuel') :
    rel Expr (expression g limits (fuel + 1)) (expression g' limits' (fuel' + 1)) := by
  rw [expression, expression]
  refine h.bind h.enter fun _ => h.bind ih.conditional fun tree => ?_
  exact h.bind h.leave fun _ => h.pure tree

lemma related_conditional (h : Respects fine g g' limits limits' rel)
    (ih : Related g g' limits limits' rel fuel fuel') :
    rel Expr (conditional g limits (fuel + 1)) (conditional g' limits' (fuel' + 1)) := by
  rw [conditional, conditional]
  refine h.bind (ih.binary _) fun test => h.bind h.check fun _ => h.ite ?_ (h.pure test)
  refine h.look fun s s' hs => ?_
  rw [hs.height]
  refine h.bind h.advance fun _ => h.bind ih.expression fun consequent => ?_
  refine h.look fun t t' ht => ?_
  rw [ht.height]
  refine h.bind h.expectMark fun _ => h.bind ih.expression fun alternate => ?_
  refine h.look fun u u' hu => ?_
  rw [hu.height]
  exact h.bind (h.setHeight _) fun _ => h.pure _

lemma related_binary (h : Respects fine g g' limits limits' rel)
    (ih : Related g g' limits limits' rel fuel fuel') :
    rel Expr (binary g limits least (fuel + 1)) (binary g' limits' least (fuel' + 1)) := by
  rw [binary, binary]
  refine h.bind ih.unary fun left => h.look fun s s' hs => ?_
  rw [hs.height]
  exact ih.binaryTail least left _

lemma related_binaryTail (h : Respects fine g g' limits limits' rel)
    (ih : Related g g' limits limits' rel fuel fuel') :
    rel Expr (binaryTail g limits least (fuel + 1) left height)
      (binaryTail g' limits' least (fuel' + 1) left height) := by
  rw [binaryTail, binaryTail]
  refine h.look fun s s' hs => ?_
  rw [h.binaryAt_eq hs]
  cases binaryAt g' s'.tokens with
  | none => exact h.pure left
  | some operator =>
    refine h.ite (h.pure left) (h.bind h.advance fun _ => ?_)
    refine h.bind (ih.binary _) fun right => h.look fun t t' ht => ?_
    rw [ht.height]
    exact h.bind (h.setHeight _) fun _ => ih.binaryTail least _ _

lemma related_unary (h : Respects fine g g' limits limits' rel)
    (ih : Related g g' limits limits' rel fuel fuel') :
    rel Expr (unary g limits (fuel + 1)) (unary g' limits' (fuel' + 1)) := by
  rw [unary, unary]
  refine h.look fun s s' hs => ?_
  rw [h.unaryAt_eq hs]
  cases unaryAt g' s'.tokens with
  | none => exact ih.suffixed
  | some symbol =>
    refine h.bind h.advance fun _ => h.bind h.enter fun _ => ?_
    refine h.bind ih.unary fun operand => h.bind h.leave fun _ => h.look fun t t' ht => ?_
    rw [ht.height]
    exact h.bind (h.setHeight _) fun _ => h.pure _

lemma related_suffixed (h : Respects fine g g' limits limits' rel)
    (ih : Related g g' limits limits' rel fuel fuel') :
    rel Expr (suffixed g limits (fuel + 1)) (suffixed g' limits' (fuel' + 1)) := by
  rw [suffixed, suffixed]
  refine h.bind ih.primary fun subject => h.look fun s s' hs => ?_
  rw [hs.height]
  exact ih.suffixes subject _

/-- The height of a suffix is recorded, and then more suffixes are read. -/
lemma related_set_suffixes (h : Respects fine g g' limits limits' rel)
    (ih : Related g g' limits limits' rel fuel fuel') :
    rel Expr (setHeight limits height >>= fun _ => suffixes g limits fuel subject height)
      (setHeight limits' height >>= fun _ => suffixes g' limits' fuel' subject height) :=
  h.bind (h.setHeight height) fun _ => ih.suffixes subject height

lemma related_suffixes (h : Respects fine g g' limits limits' rel)
    (ih : Related g g' limits limits' rel fuel fuel') :
    rel Expr (suffixes g limits (fuel + 1) subject height)
      (suffixes g' limits' (fuel' + 1) subject height) := by
  rw [suffixes, suffixes]
  refine h.bind h.check fun _ => h.ite ?dot (h.bind h.check fun _ => h.ite ?bracket
    (h.bind h.check fun _ => h.ite ?pipe ?stop))
  case dot =>
    refine h.bind h.advance fun _ => h.bind h.expectName fun name => ?_
    exact related_set_suffixes h ih
  case bracket =>
    refine h.bind h.advance fun _ => h.bind ih.expression fun inner => h.look fun s s' hs => ?_
    rw [hs.height]
    exact h.bind h.expectMark fun _ => related_set_suffixes h ih
  case pipe =>
    refine h.bind h.advance fun _ => h.bind h.expectName fun name => ?_
    refine h.bind h.check fun _ => h.ite ?_ (related_set_suffixes h ih)
    refine h.bind h.advance fun _ => h.bind (ih.list _ _) fun arguments => ?_
    refine h.look fun s s' hs => ?_
    rw [hs.height]
    exact related_set_suffixes h ih
  case stop => exact h.bind (h.putHeight height) fun _ => h.pure subject

lemma related_primary (h : Respects fine g g' limits limits' rel)
    (ih : Related g g' limits limits' rel fuel fuel') :
    rel Expr (primary g limits (fuel + 1)) (primary g' limits' (fuel' + 1)) := by
  rw [primary, primary]
  refine h.bind (h.putHeight 1) fun _ => h.bind h.check fun _ => h.ite ?dot
    (h.bind h.check fun _ => h.ite ?paren (h.bind h.check fun _ => h.ite ?bracket
      (h.bind h.check fun _ => h.ite ?brace ?atom)))
  case dot => exact h.bind h.advance fun _ => h.bind h.expectName fun name => h.pure _
  case paren =>
    refine h.bind h.advance fun _ => h.bind ih.expression fun tree => ?_
    exact h.bind h.expectMark fun _ => h.pure tree
  case bracket =>
    refine h.bind h.advance fun _ => h.bind (ih.list _ _) fun items => h.look fun s s' hs => ?_
    rw [hs.height]
    exact h.bind (h.setHeight _) fun _ => h.pure _
  case brace => exact h.bind h.advance fun _ => h.bind (ih.fields _) fun entries => h.pure _
  case atom =>
    refine h.look fun s s' hs => ?_
    rw [hs.kind]
    cases atom? (current s'.tokens).kind with
    | none => exact h.expected
    | some tree => exact h.bind h.advance fun _ => h.pure tree

lemma related_list (h : Respects fine g g' limits limits' rel)
    (ih : Related g g' limits limits' rel fuel fuel') :
    rel (List Expr) (list g limits close (fuel + 1) height)
      (list g' limits' close (fuel' + 1) height) := by
  rw [list, list]
  refine h.bind h.check fun _ => h.ite ?_ ?_
  · exact h.bind h.advance fun _ => h.bind (h.putHeight height) fun _ => h.pure []
  · refine h.bind ih.expression fun item => h.look fun s s' hs => ?_
    rw [hs.height]
    refine h.bind h.separate fun _ => h.bind (ih.list close _) fun items => ?_
    exact h.pure (item :: items)

lemma related_fields (h : Respects fine g g' limits limits' rel)
    (ih : Related g g' limits limits' rel fuel fuel') :
    rel (List (String × Expr)) (fields g limits (fuel + 1) height)
      (fields g' limits' (fuel' + 1) height) := by
  rw [fields, fields]
  refine h.bind h.check fun _ => h.ite ?_ ?_
  · exact h.bind h.advance fun _ => h.bind (h.setHeight _) fun _ => h.pure []
  · refine h.bind h.expectName fun key => h.bind h.expectMark fun _ => ?_
    refine h.bind ih.expression fun value => h.look fun s s' hs => ?_
    rw [hs.height]
    refine h.bind h.separate fun _ => h.bind (ih.fields _) fun entries => ?_
    exact h.pure ((key, value) :: entries)

theorem Respects.related_succ (h : Respects fine g g' limits limits' rel)
    (ih : Related g g' limits limits' rel fuel fuel') :
    Related g g' limits limits' rel (fuel + 1) (fuel' + 1) where
  expression := related_expression h ih
  conditional := related_conditional h ih
  binary _ := related_binary h ih
  binaryTail _ _ _ := related_binaryTail h ih
  unary := related_unary h ih
  suffixed := related_suffixed h ih
  suffixes _ _ := related_suffixes h ih
  primary := related_primary h ih
  list _ _ := related_list h ih
  fields _ := related_fields h ih

/-- Whole token lists are read alike where phrases are. -/
theorem Respects.related_whole (h : Respects fine g g' limits limits' rel)
    (ih : Related g g' limits limits' rel fuel fuel') :
    rel Expr (Parser.whole g limits fuel) (Parser.whole g' limits' fuel') := by
  refine h.bind ih.expression fun tree => h.look fun s s' hs => ?_
  rw [hs.kind]
  exact h.ite (h.bind h.advance fun _ => h.pure tree) (h.expected)

end Phrases

/-- A relation that the steps of two parsers keep to holds between the readers of all phrases. -/
theorem Respects.related (h : Respects fine g g' limits limits' rel) (fuel : ℕ) :
    Related g g' limits limits' rel fuel fuel := by
  induction fuel with
  | zero => constructor <;> intros <;> exact h.fail (by simp)
  | succ fuel ih => exact h.related_succ ih

/-- The second parser may have more fuel, if a reader without fuel is related to all readers. -/
theorem Respects.related_of_le (h : Respects fine g g' limits limits' rel)
    (hzero : ∀ {α : Type} (x : Reader α), rel α (Parser.fail .outOfFuel) x) {fuel fuel' : ℕ}
    (hle : fuel ≤ fuel') : Related g g' limits limits' rel fuel fuel' := by
  induction fuel generalizing fuel' with
  | zero => constructor <;> intros <;> exact hzero _
  | succ fuel ih =>
    cases fuel' with
    | zero => exact absurd hle (Nat.not_succ_le_zero fuel)
    | succ fuel' => exact h.related_succ (ih (Nat.le_of_succ_le_succ hle))

theorem Respects.whole (h : Respects fine g g' limits limits' rel) (fuel : ℕ) :
    rel Expr (whole g limits fuel) (whole g' limits' fuel) :=
  h.related_whole (h.related fuel)

end Cohort.Parser
