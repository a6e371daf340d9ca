import Cohort.Proofs.Parser.Steps
import Mathlib

/-!
Whatever tokens spell within the limits, the parser reads, given enough fuel. The rules of spelling
are gone through one by one: what the parser does for the parts of a phrase, it does for the phrase.
-/
namespace Cohort.Parser

/-- Enough fuel to read a form from some number of tokens. -/
def Form.fuel (count : ℕ) : Form → ℕ
  | .binaryTail _ _ | .suffixes _ => 8 * count + 1
  | .primary => 8 * count + 3
  | .suffixed => 8 * count + 4
  | .unary => 8 * count + 5
  | .binary _ => 8 * count + 6
  | .conditional => 8 * count + 7
  | .expression => 8 * count + 8
  | .list _ | .fields => 8 * count + 9

theorem Form.exists_eq_succ_of_fuel {form : Form} {count fuel : ℕ} (h : form.fuel count ≤ fuel) :
    ∃ less, fuel = less + 1 := by
  refine Nat.exists_eq_succ_of_ne_zero ?_
  rintro rfl
  cases form <;> simp [Form.fuel] at h

/-- With enough fuel, the reader of a form finds the phrase where it is and within the limits. -/
def Completes (g : Grammar) (limits : Limits) (form : Form) (before after : List Token)
    (tree : Expr) (n : ℕ) : Prop :=
  ∀ (fuel height : ℕ) (s : State), s.tokens = before → Ready limits s →
    form.Starts limits height s → limits.allowsNesting (s.depth + n) = true →
    limits.allowsHeight (form.heightAfter height tree) = true →
    form.fuel before.length ≤ fuel →
    form.reader g limits fuel height s
      = .ok (tree, s.after after n (form.heightAfter height tree))

namespace Completes
section Run
variable {g : Grammar} {limits : Limits} {form : Form} {before after : List Token} {tree : Expr}
  {n most top : ℕ}

/-- What is read within given bounds is read within greater ones. -/
lemma run (h : Completes g limits form before after tree n) (fuel height : ℕ) (s : State)
    (htokens : s.tokens = before) (hs : Ready limits s) (hstart : form.Starts limits height s)
    (hnesting : limits.allowsNesting (s.depth + most) = true) (hmost : n ≤ most)
    (hheight : limits.allowsHeight top = true) (htop : form.heightAfter height tree ≤ top)
    (hfuel : form.fuel before.length ≤ fuel) :
    form.reader g limits fuel height s
      = .ok (tree, s.after after n (form.heightAfter height tree)) :=
  h fuel height s htokens hs hstart (allowsNesting_mono hnesting (by omega))
    (allowsHeight_mono hheight htop) hfuel

lemma run_expression (h : Completes g limits .expression before after tree n) {fuel : ℕ}
    {s : State} (htokens : s.tokens = before) (hs : Ready limits s)
    (hnesting : limits.allowsNesting (s.depth + most) = true) (hmost : n ≤ most)
    (hheight : limits.allowsHeight top = true) (htop : tree.height ≤ top)
    (hfuel : 8 * before.length + 8 ≤ fuel) :
    Parser.expression g limits fuel s = .ok (tree, s.after after n tree.height) :=
  h.run fuel 0 s htokens hs trivial hnesting hmost hheight htop hfuel

end Run

variable {g : Grammar} {limits : Limits} {before mid mid' after : List Token} {n n₁ n₂ n₃ m : ℕ}
  {tree left right test consequent alternate subject inner : Expr} {least precedence : Int32}
  {o o' o'' : ℕ} {symbol name : String}

lemma expression (ih : Completes g limits .conditional before after tree n) :
    Completes g limits .expression before after tree (n + 1) := by
  intro fuel height s htokens _ _ hnesting hheight hfuel
  obtain ⟨fuel, rfl⟩ := Form.exists_eq_succ_of_fuel hfuel
  simp only [Form.fuel] at hfuel
  have hopen : limits.allowsNesting (s.depth + 1) = true := allowsNesting_mono hnesting (by omega)
  have hrun : conditional g limits fuel s.opened = .ok (tree, s.opened.after after n tree.height) :=
    ih fuel 0 s.opened htokens (.opened hopen) trivial
      (allowsNesting_mono hnesting (by simp; omega)) hheight (by simp only [Form.fuel]; omega)
  rw [Form.reader, Parser.expression, bind_of_ok (enter_eq_ok.mpr ⟨hopen, rfl⟩), bind_of_ok hrun,
    leave_bind, State.closed_after_opened]
  rfl

lemma bare (ih : Completes g limits (.binary Int32.minValue) before after tree n)
    (stop : startsWith .question after = false) :
    Completes g limits .conditional before after tree n := by
  intro fuel height s htokens hs _ hnesting hheight hfuel
  obtain ⟨fuel, rfl⟩ := Form.exists_eq_succ_of_fuel hfuel
  simp only [Form.fuel] at hfuel
  have hrun : binary g limits Int32.minValue fuel s = .ok (tree, s.after after n tree.height) :=
    ih fuel 0 s htokens hs trivial hnesting hheight (by simp only [Form.fuel]; omega)
  rw [Form.reader, Parser.conditional, bind_of_ok hrun, check_bind, State.tokens_after, stop]
  rfl

lemma conditional
    (h₁ : Reads g (.binary Int32.minValue) before (⟨.mark .question, o⟩ :: mid) test n₁)
    (h₂ : Reads g .expression mid (⟨.mark .colon, o'⟩ :: mid') consequent n₂)
    (ih₁ : Completes g limits (.binary Int32.minValue) before (⟨.mark .question, o⟩ :: mid) test n₁)
    (ih₂ : Completes g limits .expression mid (⟨.mark .colon, o'⟩ :: mid') consequent n₂)
    (ih₃ : Completes g limits .expression mid' after alternate n₃) :
    Completes g limits .conditional before after (.conditional test consequent alternate)
      (max (max n₁ n₂) n₃) := by
  intro fuel height s htokens hs _ hnesting hheight hfuel
  obtain ⟨fuel, rfl⟩ := Form.exists_eq_succ_of_fuel hfuel
  have hlength₁ := h₁.length_le
  have hlength₂ := h₂.length_le
  simp only [Form.fuel, Form.shortest, List.length_cons] at hfuel hlength₁ hlength₂
  simp only [Form.heightAfter, Expr.height] at hheight
  have hrun₁ : Parser.binary g limits Int32.minValue fuel s
      = .ok (test, s.after (⟨.mark .question, o⟩ :: mid) n₁ test.height) :=
    ih₁.run fuel 0 s htokens hs trivial
      hnesting (by omega) hheight (by simp only [Form.heightAfter]; omega)
      (by simp only [Form.fuel]; omega)
  have hrun₂ : Parser.expression g limits fuel (s.after mid n₁ test.height)
      = .ok (consequent, (s.after mid n₁ test.height).after (⟨.mark .colon, o'⟩ :: mid') n₂
          consequent.height) :=
    ih₂.run_expression rfl (hs.after _ _ _) hnesting (by omega) hheight (by omega) (by omega)
  have hrun₃ : Parser.expression g limits fuel (s.after mid' (max n₁ n₂) consequent.height)
      = .ok (alternate, (s.after mid' (max n₁ n₂) consequent.height).after after n₃
          alternate.height) :=
    ih₃.run_expression rfl (hs.after _ _ _) hnesting (by omega) hheight (by omega) (by omega)
  rw [Form.reader, Parser.conditional, bind_of_ok hrun₁, check_bind, State.tokens_after,
    startsWith_self, if_pos rfl, get_bind, advance_bind, State.tokens_after, List.tail_cons,
    State.move_after, bind_of_ok hrun₂, get_bind, State.after_after,
    bind_of_ok (expectMark_eq_ok.mpr ⟨_, _, rfl, rfl⟩), State.move_after, bind_of_ok hrun₃,
    get_bind, State.after_after]
  simp only [State.height_after]
  rw [bind_of_ok (setHeight_eq_ok.mpr ⟨hheight, rfl⟩)]
  rfl

lemma binary (h : Reads g .unary before mid left n)
    (h' : Reads g (.binaryTail least left) mid after tree m)
    (ih : Completes g limits .unary before mid left n)
    (ih' : Completes g limits (.binaryTail least left) mid after tree m) :
    Completes g limits (.binary least) before after tree (max n m) := by
  intro fuel height s htokens hs _ hnesting hheight hfuel
  obtain ⟨fuel, rfl⟩ := Form.exists_eq_succ_of_fuel hfuel
  have hlength := h.length_le
  have hbuilt : limits.allowsHeight left.height = true :=
    allowsHeight_mono hheight h'.begun_le_height
  simp only [Form.fuel, Form.shortest] at hfuel hlength
  have hrun : Parser.unary g limits fuel s = .ok (left, s.after mid n left.height) :=
    ih.run fuel 0 s htokens hs trivial
      hnesting (by omega) hbuilt le_rfl (by simp only [Form.fuel]; omega)
  have hrun' : Parser.binaryTail g limits least fuel left left.height (s.after mid n left.height)
      = .ok (tree, (s.after mid n left.height).after after m tree.height) :=
    ih'.run fuel _ _ rfl (hs.after _ _ _) ⟨rfl, rfl, hbuilt⟩
      hnesting (by omega) hheight le_rfl (by simp only [Form.fuel]; omega)
  rw [Form.reader, Parser.binary, bind_of_ok hrun, get_bind, State.height_after, hrun',
    State.after_after]
  rfl

lemma binaryStop (stop : ¬ Continues g least after) :
    Completes g limits (.binaryTail least left) after after left 0 := by
  intro fuel height s htokens hs hstart _ _ hfuel
  obtain ⟨fuel, rfl⟩ := Form.exists_eq_succ_of_fuel hfuel
  obtain ⟨rfl, hrecorded, -⟩ := hstart
  subst htokens
  have hend : s.after s.tokens 0 left.height = s := by
    rw [hs.after_zero, ← hrecorded]
    rfl
  change (Form.binaryTail least left).reader g limits (fuel + 1) left.height s
    = .ok (left, s.after s.tokens 0 left.height)
  rw [hend, Form.reader, Parser.binaryTail, get_bind]
  cases hat : binaryAt g s.tokens with
  | none => rfl
  | some operator =>
    obtain ⟨symbol, precedence⟩ := operator
    have hloose : precedence < least := by
      by_contra hcon
      exact stop ⟨symbol, precedence, hat, Int32.not_lt.mp hcon⟩
    simp only [if_pos hloose]
    rfl

lemma binaryStep (registered : g.precedence? symbol = some precedence) (tight : least ≤ precedence)
    (h : Reads g (.binary (tighter precedence)) mid mid' right n)
    (h' : Reads g (.binaryTail least (.binary symbol left right)) mid' after tree m)
    (ih : Completes g limits (.binary (tighter precedence)) mid mid' right n)
    (ih' : Completes g limits (.binaryTail least (.binary symbol left right)) mid' after tree m) :
    Completes g limits (.binaryTail least left) (⟨.operator symbol, o⟩ :: mid) after tree
      (max n m) := by
  intro fuel height s htokens hs hstart hnesting hheight hfuel
  obtain ⟨fuel, rfl⟩ := Form.exists_eq_succ_of_fuel hfuel
  obtain ⟨rfl, hrecorded, -⟩ := hstart
  have hlength := h.length_le
  have hbuilt : limits.allowsHeight (max left.height right.height + 1) = true :=
    allowsHeight_mono hheight h'.begun_le_height
  simp only [Form.fuel, Form.shortest, List.length_cons] at hfuel hlength
  have hat : binaryAt g s.tokens = some (symbol, precedence) :=
    binaryAt_eq_some_iff.mpr ⟨o, mid, htokens, registered⟩
  have hrun : Parser.binary g limits (tighter precedence) fuel (s.move mid)
      = .ok (right, (s.move mid).after mid' n right.height) :=
    ih.run fuel 0 _ rfl (hs.move _) trivial
      hnesting (by omega) hbuilt (by simp only [Form.heightAfter]; omega)
      (by simp only [Form.fuel]; omega)
  have hrun' : Parser.binaryTail g limits least fuel (.binary symbol left right)
      (max left.height right.height + 1) (s.after mid' n (max left.height right.height + 1))
      = .ok (tree, (s.after mid' n (max left.height right.height + 1)).after after m
          tree.height) :=
    ih'.run fuel _ _ rfl (hs.after _ _ _) ⟨rfl, rfl, hbuilt⟩
      hnesting (by omega) hheight le_rfl (by simp only [Form.fuel]; omega)
  rw [Form.reader, Parser.binaryTail, get_bind, hat]
  simp only [if_neg (Int32.not_lt.mpr tight)]
  rw [advance_bind, htokens, List.tail_cons, bind_of_ok hrun, get_bind]
  simp only [State.after_move, State.height_after]
  rw [bind_of_ok (setHeight_eq_ok.mpr ⟨hbuilt, rfl⟩), State.rise_after, hrun', State.after_after]
  rfl

lemma unary (registered : g.isUnary symbol = true)
    (ih : Completes g limits .unary mid after tree n) :
    Completes g limits .unary (⟨.operator symbol, o⟩ :: mid) after (.unary symbol tree)
      (n + 1) := by
  intro fuel height s htokens hs _ hnesting hheight hfuel
  obtain ⟨fuel, rfl⟩ := Form.exists_eq_succ_of_fuel hfuel
  simp only [Form.fuel, List.length_cons] at hfuel
  simp only [Form.heightAfter, Expr.height] at hheight
  have hat : unaryAt g s.tokens = some symbol :=
    unaryAt_eq_some_iff.mpr ⟨o, mid, htokens, registered⟩
  have hopen : limits.allowsNesting (s.depth + 1) = true := allowsNesting_mono hnesting (by omega)
  have henter : enter limits (s.move mid) = .ok ((), (s.move mid).opened) :=
    enter_eq_ok.mpr ⟨hopen, rfl⟩
  have hrun : Parser.unary g limits fuel (s.move mid).opened
      = .ok (tree, (s.move mid).opened.after after n tree.height) :=
    ih fuel 0 _ rfl (.opened hopen) trivial (allowsNesting_mono hnesting (by simp; omega))
      (allowsHeight_mono hheight (Nat.le_succ _)) (by simp only [Form.fuel]; omega)
  rw [Form.reader, Parser.unary, get_bind, hat]
  dsimp only
  rw [advance_bind, htokens, List.tail_cons, bind_of_ok henter, bind_of_ok hrun, leave_bind,
    State.closed_after_opened, State.after_move, get_bind, State.height_after,
    bind_of_ok (setHeight_eq_ok.mpr ⟨hheight, rfl⟩)]
  rfl

lemma operand (bare : unaryAt g before = none)
    (ih : Completes g limits .suffixed before after tree n) :
    Completes g limits .unary before after tree n := by
  intro fuel height s htokens hs _ hnesting hheight hfuel
  obtain ⟨fuel, rfl⟩ := Form.exists_eq_succ_of_fuel hfuel
  simp only [Form.fuel] at hfuel
  rw [Form.reader, Parser.unary, get_bind, htokens, bare]
  exact ih fuel 0 s htokens hs trivial hnesting hheight (by simp only [Form.fuel]; omega)

lemma suffixed (h : Reads g .primary before mid subject n)
    (h' : Reads g (.suffixes subject) mid after tree m)
    (ih : Completes g limits .primary before mid subject n)
    (ih' : Completes g limits (.suffixes subject) mid after tree m) :
    Completes g limits .suffixed before after tree (max n m) := by
  intro fuel height s htokens hs _ hnesting hheight hfuel
  obtain ⟨fuel, rfl⟩ := Form.exists_eq_succ_of_fuel hfuel
  have hlength := h.length_le
  have hbuilt : limits.allowsHeight subject.height = true :=
    allowsHeight_mono hheight h'.begun_le_height
  simp only [Form.fuel, Form.shortest] at hfuel hlength
  have hrun : Parser.primary g limits fuel s = .ok (subject, s.after mid n subject.height) :=
    ih.run fuel 0 s htokens hs trivial
      hnesting (by omega) hbuilt le_rfl (by simp only [Form.fuel]; omega)
  have hrun' : Parser.suffixes g limits fuel subject subject.height (s.after mid n subject.height)
      = .ok (tree, (s.after mid n subject.height).after after m tree.height) :=
    ih'.run fuel _ _ rfl (hs.after _ _ _) ⟨rfl, hbuilt⟩
      hnesting (by omega) hheight le_rfl (by simp only [Form.fuel]; omega)
  rw [Form.reader, Parser.suffixed, bind_of_ok hrun, get_bind, State.height_after, hrun',
    State.after_after]
  rfl

lemma suffixStop (stop : suffixAt after = false) :
    Completes g limits (.suffixes subject) after after subject 0 := by
  intro fuel height s htokens hs hstart _ _ hfuel
  obtain ⟨fuel, rfl⟩ := Form.exists_eq_succ_of_fuel hfuel
  obtain ⟨rfl, -⟩ := hstart
  subst htokens
  rw [hs.after_zero]
  exact suffixes_of_stop stop

lemma member
    (h : Reads g (.suffixes (.member subject (.literal (.string name)) false)) mid after tree n)
    (ih : Completes g limits (.suffixes (.member subject (.literal (.string name)) false)) mid after
      tree n) :
    Completes g limits (.suffixes subject) (⟨.mark .dot, o⟩ :: ⟨.identifier name, o'⟩ :: mid) after
      tree n := by
  intro fuel height s htokens hs hstart hnesting hheight hfuel
  obtain ⟨fuel, rfl⟩ := Form.exists_eq_succ_of_fuel hfuel
  obtain ⟨rfl, -⟩ := hstart
  simp only [Form.fuel, List.length_cons] at hfuel
  have hsubject := Expr.height_member_name subject name
  have hbuilt := allowsHeight_mono hheight h.begun_le_height
  have hallowed : limits.allowsHeight (subject.height + 1) = true := hsubject ▸ hbuilt
  have hname : expectName identifier? .identifier (s.move (⟨.identifier name, o'⟩ :: mid))
      = .ok (name, s.move mid) := (expectName_eq_ok rfl).mpr ⟨_, _, _, rfl, rfl, rfl⟩
  have hset : setHeight limits (subject.height + 1) (s.move mid)
      = .ok ((), (s.move mid).rise (subject.height + 1)) := setHeight_eq_ok.mpr ⟨hallowed, rfl⟩
  rw [Form.reader, suffixes_of_dot htokens, bind_of_ok hname, bind_of_ok hset]
  exact ih fuel _ _ rfl ((hs.move _).rise _) ⟨hsubject.symm, hbuilt⟩ hnesting hheight
    (by simp only [Form.fuel]; omega)

lemma bracket
    (h : Reads g .expression mid (⟨.mark .rightBracket, o'⟩ :: mid') inner n)
    (h' : Reads g (.suffixes (Parser.bracket subject inner)) mid' after tree m)
    (ih : Completes g limits .expression mid (⟨.mark .rightBracket, o'⟩ :: mid') inner n)
    (ih' : Completes g limits (.suffixes (Parser.bracket subject inner)) mid' after tree m) :
    Completes g limits (.suffixes subject) (⟨.mark .leftBracket, o⟩ :: mid) after tree
      (max n m) := by
  intro fuel height s htokens hs hstart hnesting hheight hfuel
  obtain ⟨fuel, rfl⟩ := Form.exists_eq_succ_of_fuel hfuel
  obtain ⟨rfl, -⟩ := hstart
  have hlength := h.length_le
  simp only [Form.fuel, Form.shortest, List.length_cons] at hfuel hlength
  have hsubject := height_bracket subject inner
  have hbuilt := allowsHeight_mono hheight h'.begun_le_height
  have hallowed : limits.allowsHeight (max subject.height inner.height + 1) = true :=
    hsubject ▸ hbuilt
  have hrun : Parser.expression g limits fuel (s.move mid) =
      .ok (inner, (s.move mid).after (⟨.mark .rightBracket, o'⟩ :: mid') n inner.height) :=
    ih.run_expression rfl (hs.move _) hnesting (by omega) hallowed (by omega) (by omega)
  have hrun' := ih'.run fuel _ (s.after mid' n (max subject.height inner.height + 1)) rfl
    (hs.after _ _ _) ⟨hsubject.symm, hbuilt⟩
    hnesting (by omega) hheight le_rfl (by simp only [Form.fuel]; omega)
  rw [Form.reader, suffixes_of_bracket htokens, bind_of_ok hrun, get_bind,
    bind_of_ok (expectMark_eq_ok.mpr ⟨_, _, rfl, rfl⟩)]
  simp only [State.after_move, State.height_after, State.move_after]
  rw [bind_of_ok (setHeight_eq_ok.mpr ⟨hallowed, rfl⟩), State.rise_after, ← State.after_after]
  exact hrun'

lemma transform (stop : startsWith .leftParen mid = false)
    (h : Reads g (.suffixes (.transform subject name [])) mid after tree n)
    (ih : Completes g limits (.suffixes (.transform subject name [])) mid after tree n) :
    Completes g limits (.suffixes subject) (⟨.mark .pipe, o⟩ :: ⟨.identifier name, o'⟩ :: mid) after
      tree n := by
  intro fuel height s htokens hs hstart hnesting hheight hfuel
  obtain ⟨fuel, rfl⟩ := Form.exists_eq_succ_of_fuel hfuel
  obtain ⟨rfl, -⟩ := hstart
  simp only [Form.fuel, List.length_cons] at hfuel
  have hsubject := Expr.height_transform_nil subject name
  have hbuilt := allowsHeight_mono hheight h.begun_le_height
  have hallowed : limits.allowsHeight (subject.height + 1) = true := hsubject ▸ hbuilt
  have hname : expectName identifier? .identifier (s.move (⟨.identifier name, o'⟩ :: mid))
      = .ok (name, s.move mid) := (expectName_eq_ok rfl).mpr ⟨_, _, _, rfl, rfl, rfl⟩
  have hset : setHeight limits (subject.height + 1) (s.move mid)
      = .ok ((), (s.move mid).rise (subject.height + 1)) := setHeight_eq_ok.mpr ⟨hallowed, rfl⟩
  rw [Form.reader, suffixes_of_pipe htokens, bind_of_ok hname, check_bind, State.tokens_move, stop,
    if_neg Bool.false_ne_true, bind_of_ok hset]
  exact ih fuel _ _ rfl ((hs.move _).rise _) ⟨hsubject.symm, hbuilt⟩ hnesting hheight
    (by simp only [Form.fuel]; omega)

lemma call {arguments : List Expr}
    (h : Reads g (.list .rightParen) mid mid' (.array arguments) n)
    (h' : Reads g (.suffixes (.transform subject name arguments)) mid' after tree m)
    (ih : Completes g limits (.list .rightParen) mid mid' (.array arguments) n)
    (ih' : Completes g limits (.suffixes (.transform subject name arguments)) mid' after tree m) :
    Completes g limits (.suffixes subject)
      (⟨.mark .pipe, o⟩ :: ⟨.identifier name, o'⟩ :: ⟨.mark .leftParen, o''⟩ :: mid) after tree
      (max n m) := by
  intro fuel height s htokens hs hstart hnesting hheight hfuel
  obtain ⟨fuel, rfl⟩ := Form.exists_eq_succ_of_fuel hfuel
  obtain ⟨rfl, hbegun⟩ := hstart
  have hlength := h.length_le
  simp only [Form.fuel, Form.shortest, List.length_cons] at hfuel hlength
  have hsubject := height_transform_list subject name arguments
  have hbuilt : limits.allowsHeight (Expr.transform subject name arguments).height = true :=
    allowsHeight_mono hheight h'.begun_le_height
  have hallowed := hbuilt
  rw [hsubject] at hallowed
  have hname : expectName identifier? .identifier
      (s.move (⟨.identifier name, o'⟩ :: ⟨.mark .leftParen, o''⟩ :: mid))
      = .ok (name, s.move (⟨.mark .leftParen, o''⟩ :: mid)) :=
    (expectName_eq_ok rfl).mpr ⟨_, _, _, rfl, rfl, rfl⟩
  obtain ⟨_, hrun, heq⟩ := reader_list_eq_ok.mp <|
    ih.run fuel 0 (s.move mid) rfl (hs.move _) (allowsHeight_mono hbegun (Nat.zero_le _))
      hnesting (by omega) hallowed (by omega) (by simp only [Form.fuel]; omega)
  cases heq
  have hrun' := ih'.run fuel _ (s.after mid' n (max subject.height
      ((Form.list .rightParen).heightAfter 0 (.array arguments)) + 1)) rfl (hs.after _ _ _)
    ⟨hsubject.symm, hbuilt⟩ hnesting (by omega) hheight le_rfl (by simp only [Form.fuel]; omega)
  rw [Form.reader, suffixes_of_pipe htokens, bind_of_ok hname, check_bind, State.tokens_move,
    startsWith_self, if_pos rfl, advance_bind, State.tokens_move, List.tail_cons, State.move_move,
    bind_of_ok hrun, get_bind]
  simp only [State.after_move, State.height_after]
  rw [bind_of_ok (setHeight_eq_ok.mpr ⟨hallowed, rfl⟩), State.rise_after, ← State.after_after]
  exact hrun'

lemma atom {kind : TokenKind} (hatom : atom? kind = some tree) :
    Completes g limits .primary (⟨kind, o⟩ :: after) after tree 0 := by
  intro fuel height s htokens hs _ _ _ hfuel
  obtain ⟨fuel, rfl⟩ := Form.exists_eq_succ_of_fuel hfuel
  rw [hs.after_zero]
  change Parser.primary g limits (fuel + 1) s = .ok (tree, (s.move after).rise tree.height)
  rw [primary_of_atom htokens hatom, height_of_atom? hatom]
  rfl

lemma relative :
    Completes g limits .primary (⟨.mark .dot, o⟩ :: ⟨.identifier name, o'⟩ :: after) after
      (.relative name) 0 := by
  intro fuel height s htokens hs _ _ _ hfuel
  obtain ⟨fuel, rfl⟩ := Form.exists_eq_succ_of_fuel hfuel
  have hname : expectName identifier? .identifier
      ((s.rise 1).move (⟨.identifier name, o'⟩ :: after))
      = .ok (name, (s.rise 1).move after) := (expectName_eq_ok rfl).mpr ⟨_, _, _, rfl, rfl, rfl⟩
  rw [hs.after_zero, Form.reader, primary_of_dot htokens, bind_of_ok hname]
  rfl

lemma group
    (ih : Completes g limits .expression mid (⟨.mark .rightParen, o'⟩ :: after) tree n) :
    Completes g limits .primary (⟨.mark .leftParen, o⟩ :: mid) after tree n := by
  intro fuel height s htokens hs _ hnesting hheight hfuel
  obtain ⟨fuel, rfl⟩ := Form.exists_eq_succ_of_fuel hfuel
  simp only [Form.fuel, List.length_cons] at hfuel
  have hrun : Parser.expression g limits fuel ((s.rise 1).move mid)
      = .ok (tree, s.after (⟨.mark .rightParen, o'⟩ :: after) n tree.height) :=
    ih fuel 0 _ rfl ((hs.rise _).move _) trivial hnesting hheight (by simp only [Form.fuel]; omega)
  rw [Form.reader, primary_of_paren htokens, bind_of_ok hrun,
    bind_of_ok (expectMark_eq_ok.mpr ⟨_, _, rfl, rfl⟩)]
  rfl

lemma array {items : List Expr}
    (ih : Completes g limits (.list .rightBracket) mid after (.array items) n) :
    Completes g limits .primary (⟨.mark .leftBracket, o⟩ :: mid) after (.array items) n := by
  intro fuel height s htokens hs _ hnesting hheight hfuel
  obtain ⟨fuel, rfl⟩ := Form.exists_eq_succ_of_fuel hfuel
  simp only [Form.fuel, List.length_cons] at hfuel
  change limits.allowsHeight (Expr.array items).height = true at hheight
  change Parser.primary g limits (fuel + 1) s
    = .ok (.array items, s.after after n (Expr.array items).height)
  rw [height_array_list items .rightBracket] at hheight ⊢
  have hinner := allowsHeight_mono hheight (Nat.le_succ _)
  obtain ⟨_, hrun, heq⟩ := reader_list_eq_ok.mp <|
    ih fuel 0 ((s.rise 1).move mid) rfl ((hs.rise _).move _)
      (allowsHeight_mono hinner (Nat.zero_le _)) hnesting hinner (by simp only [Form.fuel]; omega)
  cases heq
  rw [primary_of_bracket htokens, bind_of_ok hrun, get_bind]
  simp only [State.after_move, State.after_rise, State.height_after]
  rw [bind_of_ok (setHeight_eq_ok.mpr ⟨hheight, rfl⟩)]
  rfl

lemma object {entries : List (String × Expr)}
    (ih : Completes g limits .fields mid after (.object entries) n) :
    Completes g limits .primary (⟨.mark .leftBrace, o⟩ :: mid) after (.object entries) n := by
  intro fuel height s htokens hs _ hnesting hheight hfuel
  obtain ⟨fuel, rfl⟩ := Form.exists_eq_succ_of_fuel hfuel
  simp only [Form.fuel, List.length_cons] at hfuel
  change limits.allowsHeight (Expr.object entries).height = true at hheight
  change Parser.primary g limits (fuel + 1) s
    = .ok (.object entries, s.after after n (Expr.object entries).height)
  rw [height_object_fields] at hheight ⊢
  obtain ⟨_, hrun, heq⟩ := reader_fields_eq_ok.mp <|
    ih fuel 0 ((s.rise 1).move mid) rfl ((hs.rise _).move _)
      (allowsHeight_mono hheight (Nat.zero_le _)) hnesting hheight (by simp only [Form.fuel]; omega)
  cases heq
  rw [primary_of_brace htokens, bind_of_ok hrun]
  rfl

lemma listEnd {close : Mark} :
    Completes g limits (.list close) (⟨.mark close, o⟩ :: after) after (.array []) 0 := by
  intro fuel height s htokens hs _ _ _ hfuel
  obtain ⟨fuel, rfl⟩ := Form.exists_eq_succ_of_fuel hfuel
  rw [reader_list_eq_ok]
  refine ⟨[], ?_, rfl⟩
  rw [list_of_close htokens, hs.after_zero, Form.heightAfter, Expr.tallest, Nat.max_zero]

lemma listLast {close : Mark} {item : Expr} (more : startsWith close before = false)
    (h : Reads g .expression before (⟨.mark close, o⟩ :: after) item n)
    (ih : Completes g limits .expression before (⟨.mark close, o⟩ :: after) item n) :
    Completes g limits (.list close) before after (.array [item]) n := by
  intro fuel height s htokens hs hstart hnesting hheight hfuel
  obtain ⟨fuel, rfl⟩ := Form.exists_eq_succ_of_fuel hfuel
  have hlength := h.length_le
  simp only [Form.fuel, Form.shortest, List.length_cons] at hfuel hlength
  simp only [Form.heightAfter, Expr.tallest, Nat.max_zero] at hheight ⊢
  have hrun : Parser.expression g limits fuel s
      = .ok (item, s.after (⟨.mark close, o⟩ :: after) n item.height) :=
    ih.run_expression htokens hs hnesting le_rfl hheight (by omega) (by omega)
  have hseparate : separate close (s.after (⟨.mark close, o⟩ :: after) n item.height)
      = .ok ((), s.after (⟨.mark close, o⟩ :: after) n item.height) :=
    separate_eq_ok.mpr (.inl ⟨startsWith_self, rfl⟩)
  obtain ⟨fuel, rfl⟩ : ∃ less, fuel = less + 1 := Nat.exists_eq_succ_of_ne_zero (by omega)
  rw [reader_list_eq_ok]
  refine ⟨[item], ?_, rfl⟩
  rw [list_of_more (by rwa [htokens]), bind_of_ok hrun, get_bind, bind_of_ok hseparate,
    bind_of_ok (list_of_close rfl)]
  rfl

lemma listItem {close : Mark} {item : Expr} {items : List Expr}
    (more : startsWith close before = false) (other : close ≠ .comma)
    (h : Reads g .expression before (⟨.mark .comma, o⟩ :: mid) item n)
    (ih : Completes g limits .expression before (⟨.mark .comma, o⟩ :: mid) item n)
    (ih' : Completes g limits (.list close) mid after (.array items) m) :
    Completes g limits (.list close) before after (.array (item :: items)) (max n m) := by
  intro fuel height s htokens hs hstart hnesting hheight hfuel
  obtain ⟨fuel, rfl⟩ := Form.exists_eq_succ_of_fuel hfuel
  have hlength := h.length_le
  simp only [Form.fuel, Form.shortest, List.length_cons] at hfuel hlength
  simp only [Form.heightAfter, Expr.tallest, ← max_assoc] at hheight ⊢
  have hrun : Parser.expression g limits fuel s
      = .ok (item, s.after (⟨.mark .comma, o⟩ :: mid) n item.height) :=
    ih.run_expression htokens hs hnesting (by omega) hheight (by omega) (by omega)
  have hseparate : separate close (s.after (⟨.mark .comma, o⟩ :: mid) n item.height)
      = .ok ((), s.after mid n item.height) :=
    separate_eq_ok.mpr (.inr ⟨by simpa [eq_comm] using other, _, _, rfl, rfl⟩)
  obtain ⟨_, hrun', heq⟩ := reader_list_eq_ok.mp <|
    ih'.run fuel (max height item.height) (s.after mid n item.height) rfl (hs.after _ _ _)
      (allowsHeight_mono hheight (le_max_left _ _))
      hnesting (by omega) hheight le_rfl (by simp only [Form.fuel]; omega)
  cases heq
  rw [reader_list_eq_ok]
  refine ⟨item :: items, ?_, rfl⟩
  rw [list_of_more (by rwa [htokens]), bind_of_ok hrun, get_bind, bind_of_ok hseparate,
    State.height_after, bind_of_ok hrun', State.after_after]
  rfl

lemma fieldsEnd :
    Completes g limits .fields (⟨.mark .rightBrace, o⟩ :: after) after (.object []) 0 := by
  intro fuel height s htokens hs _ _ hheight hfuel
  obtain ⟨fuel, rfl⟩ := Form.exists_eq_succ_of_fuel hfuel
  simp only [Form.heightAfter, Expr.tallestEntry, Nat.max_zero] at hheight ⊢
  rw [reader_fields_eq_ok]
  refine ⟨[], ?_, rfl⟩
  rw [fields_of_close htokens, bind_of_ok (setHeight_eq_ok.mpr ⟨hheight, rfl⟩), hs.after_zero]
  rfl

lemma fieldsLast {kind : TokenKind} {value : Expr} (named : key? kind = some name)
    (h : Reads g .expression mid (⟨.mark .rightBrace, o''⟩ :: after) value n)
    (ih : Completes g limits .expression mid (⟨.mark .rightBrace, o''⟩ :: after) value n) :
    Completes g limits .fields (⟨kind, o⟩ :: ⟨.mark .colon, o'⟩ :: mid) after
      (.object [(name, value)]) n := by
  intro fuel height s htokens hs hstart hnesting hheight hfuel
  obtain ⟨fuel, rfl⟩ := Form.exists_eq_succ_of_fuel hfuel
  have hlength := h.length_le
  simp only [Form.fuel, Form.shortest, List.length_cons] at hfuel hlength
  simp only [Form.heightAfter, Expr.tallestEntry, Nat.max_zero] at hheight ⊢
  have hrun : Parser.expression g limits fuel (s.move mid)
      = .ok (value, s.after (⟨.mark .rightBrace, o''⟩ :: after) n value.height) :=
    ih.run_expression rfl (hs.move _) hnesting le_rfl hheight (by omega) (by omega)
  have hseparate : separate .rightBrace (s.after (⟨.mark .rightBrace, o''⟩ :: after) n value.height)
      = .ok ((), s.after (⟨.mark .rightBrace, o''⟩ :: after) n value.height) :=
    separate_eq_ok.mpr (.inl ⟨startsWith_self, rfl⟩)
  have hend : Parser.fields g limits fuel (max height value.height)
      (s.after (⟨.mark .rightBrace, o''⟩ :: after) n value.height)
      = .ok ([], s.after after n (max height value.height + 1)) := by
    obtain ⟨fuel, rfl⟩ : ∃ less, fuel = less + 1 := Nat.exists_eq_succ_of_ne_zero (by omega)
    rw [fields_of_close rfl, bind_of_ok (setHeight_eq_ok.mpr ⟨hheight, rfl⟩)]
    rfl
  rw [reader_fields_eq_ok]
  refine ⟨[(name, value)], ?_, rfl⟩
  rw [fields_of_entry htokens named, bind_of_ok hrun, get_bind, bind_of_ok hseparate,
    State.height_after, bind_of_ok hend]
  rfl

lemma fieldsItem {kind : TokenKind} {value : Expr} {entries : List (String × Expr)}
    (named : key? kind = some name)
    (h : Reads g .expression mid (⟨.mark .comma, o''⟩ :: mid') value n)
    (ih : Completes g limits .expression mid (⟨.mark .comma, o''⟩ :: mid') value n)
    (ih' : Completes g limits .fields mid' after (.object entries) m) :
    Completes g limits .fields (⟨kind, o⟩ :: ⟨.mark .colon, o'⟩ :: mid) after
      (.object ((name, value) :: entries)) (max n m) := by
  intro fuel height s htokens hs hstart hnesting hheight hfuel
  obtain ⟨fuel, rfl⟩ := Form.exists_eq_succ_of_fuel hfuel
  have hlength := h.length_le
  simp only [Form.fuel, Form.shortest, List.length_cons] at hfuel hlength
  simp only [Form.heightAfter, Expr.tallestEntry, ← max_assoc] at hheight ⊢
  have hrun : Parser.expression g limits fuel (s.move mid)
      = .ok (value, s.after (⟨.mark .comma, o''⟩ :: mid') n value.height) :=
    ih.run_expression rfl (hs.move _) hnesting (by omega) hheight (by omega) (by omega)
  have hseparate : separate .rightBrace (s.after (⟨.mark .comma, o''⟩ :: mid') n value.height)
      = .ok ((), s.after mid' n value.height) :=
    separate_eq_ok.mpr (.inr ⟨rfl, _, _, rfl, rfl⟩)
  obtain ⟨_, hrun', heq⟩ := reader_fields_eq_ok.mp <|
    ih'.run fuel (max height value.height) (s.after mid' n value.height) rfl (hs.after _ _ _)
      (allowsHeight_mono hheight (by omega))
      hnesting (by omega) hheight le_rfl (by simp only [Form.fuel]; omega)
  cases heq
  rw [reader_fields_eq_ok]
  refine ⟨(name, value) :: entries, ?_, rfl⟩
  rw [fields_of_entry htokens named, bind_of_ok hrun, get_bind, bind_of_ok hseparate,
    State.height_after, bind_of_ok hrun', State.after_after]
  rfl

end Completes

/-- Whatever tokens spell is read within limits that allow it. -/
theorem complete {g : Grammar} (limits : Limits) {form : Form} {before after : List Token}
    {tree : Expr} {n : ℕ} (h : Reads g form before after tree n) :
    Completes g limits form before after tree n := by
  induction h with
  | expression _ ih => exact .expression ih
  | test _ stop ih => exact .bare ih stop
  | conditional h₁ h₂ _ ih₁ ih₂ ih₃ => exact .conditional h₁ h₂ ih₁ ih₂ ih₃
  | binary h tail ih ih' => exact .binary h tail ih ih'
  | binaryStop stop => exact .binaryStop stop
  | binaryStep registered tight h tail ih ih' => exact .binaryStep registered tight h tail ih ih'
  | unary registered _ ih => exact .unary registered ih
  | operand bare _ ih => exact .operand bare ih
  | suffixed h tail ih ih' => exact .suffixed h tail ih ih'
  | suffixStop stop => exact .suffixStop stop
  | member tail ih => exact .member tail ih
  | bracket h tail ih ih' => exact .bracket h tail ih ih'
  | transform stop tail ih => exact .transform stop tail ih
  | call h tail ih ih' => exact .call h tail ih ih'
  | atom h => exact .atom h
  | relative => exact .relative
  | group _ ih => exact .group ih
  | array _ ih => exact .array ih
  | object _ ih => exact .object ih
  | listEnd => exact .listEnd
  | listLast more h ih => exact .listLast more h ih
  | listItem more other h _ ih ih' => exact .listItem more other h ih ih'
  | fieldsEnd => exact .fieldsEnd
  | fieldsLast named h ih => exact .fieldsLast named h ih
  | fieldsItem named h _ ih ih' => exact .fieldsItem named h ih ih'

end Cohort.Parser
