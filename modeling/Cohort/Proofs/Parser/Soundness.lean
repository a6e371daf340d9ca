import Cohort.Proofs.Parser.Steps
import Mathlib

/-!
Whatever the parser reads is spelled by the tokens it has gone over, under any limits and with any
fuel. The book it keeps is right: as many levels are open as before, the height is that of the
tree, and neither goes beyond the limits.
-/
namespace Cohort.Parser

/-- What a reader that succeeds comes to. -/
def Succeeds (g : Grammar) (limits : Limits) (form : Form) (s : State) (tree : Expr) (s' : State)
    (height : ℕ) : Prop :=
  ∃ after n, Reads g form s.tokens after tree n ∧ limits.allowsNesting (s.depth + n) = true ∧
    limits.allowsHeight height = true ∧ s' = s.after after n height

def Sound (g : Grammar) (limits : Limits) (fuel : ℕ) : Prop :=
  ∀ (form : Form) (height : ℕ) {s : State} {tree : Expr} {s' : State},
    form.reader g limits fuel height s = .ok (tree, s') → Ready limits s →
    form.Starts limits height s →
    Succeeds g limits form s tree s' (form.heightAfter height tree)

section Forms
variable {g : Grammar} {limits : Limits} {fuel height : ℕ} {s s' : State} {tree : Expr}

lemma succeeds_expression (ih : Sound g limits fuel)
    (h : expression g limits (fuel + 1) s = .ok (tree, s')) :
    Succeeds g limits .expression s tree s' tree.height := by
  rw [expression] at h
  obtain ⟨_, _, henter, h⟩ := bind_eq_ok.mp h
  obtain ⟨hopen, rfl⟩ := enter_eq_ok.mp henter
  obtain ⟨tree, _, hrun, h⟩ := bind_eq_ok.mp h
  obtain ⟨after, n, hreads, hnesting, hheight, rfl⟩ :=
    ih .conditional 0 hrun (.opened hopen) trivial
  rw [leave_bind, State.closed_after_opened] at h
  cases h
  exact ⟨after, n + 1, .expression hreads, allowsNesting_mono hnesting (by simp; omega), hheight,
    rfl⟩

lemma succeeds_conditional (ih : Sound g limits fuel) (hs : Ready limits s)
    (h : conditional g limits (fuel + 1) s = .ok (tree, s')) :
    Succeeds g limits .conditional s tree s' tree.height := by
  rw [conditional] at h
  obtain ⟨test, _, hrun, h⟩ := bind_eq_ok.mp h
  obtain ⟨after, n₁, htest, hnesting₁, hheight, rfl⟩ :=
    ih (.binary Int32.minValue) 0 hrun hs trivial
  rw [check_bind, State.tokens_after] at h
  split_ifs at h with hquestion
  · obtain ⟨o, mid, rfl⟩ := startsWith_eq_true_iff.mp hquestion
    simp only [get_bind, advance_bind, State.tokens_after, List.tail_cons, State.move_after] at h
    obtain ⟨consequent, _, hrun, h⟩ := bind_eq_ok.mp h
    obtain ⟨after, n₂, hconsequent, hnesting₂, -, rfl⟩ :=
      ih .expression 0 hrun (hs.after _ _ _) trivial
    simp only [get_bind, State.after_after] at h
    obtain ⟨_, _, hcolon, h⟩ := bind_eq_ok.mp h
    obtain ⟨o', mid', rfl, rfl⟩ := expectMark_eq_ok.mp hcolon
    obtain ⟨alternate, _, hrun, h⟩ := bind_eq_ok.mp h
    obtain ⟨after, n₃, halternate, hnesting₃, -, rfl⟩ :=
      ih .expression 0 hrun ((hs.after _ _ _).move _) trivial
    simp only [get_bind, State.move_after, State.after_after] at h
    obtain ⟨_, _, hset, h⟩ := bind_eq_ok.mp h
    obtain ⟨hallowed, rfl⟩ := setHeight_eq_ok.mp hset
    cases h
    exact ⟨after, _, .conditional htest hconsequent halternate,
      allowsNesting_add_max (allowsNesting_add_max hnesting₁ hnesting₂) hnesting₃, hallowed, rfl⟩
  · cases h
    exact ⟨after, n₁, .test htest (eq_false_of_ne_true hquestion), hnesting₁, hheight, rfl⟩

lemma succeeds_binary {least : Int32} (ih : Sound g limits fuel) (hs : Ready limits s)
    (h : binary g limits least (fuel + 1) s = .ok (tree, s')) :
    Succeeds g limits (.binary least) s tree s' tree.height := by
  rw [binary] at h
  obtain ⟨left, _, hrun, h⟩ := bind_eq_ok.mp h
  obtain ⟨mid, n, hleft, hnesting, hheight, rfl⟩ := ih .unary 0 hrun hs trivial
  rw [get_bind] at h
  obtain ⟨after, m, htail, hnesting', hheight', rfl⟩ :=
    ih (.binaryTail least left) _ h (hs.after _ _ _) ⟨rfl, rfl, hheight⟩
  rw [State.after_after]
  exact ⟨after, _, .binary hleft htail, allowsNesting_add_max hnesting hnesting', hheight', rfl⟩

lemma succeeds_binaryTail {least : Int32} {left : Expr} (ih : Sound g limits fuel)
    (hs : Ready limits s) (hstart : (Form.binaryTail least left).Starts limits height s)
    (h : binaryTail g limits least (fuel + 1) left height s = .ok (tree, s')) :
    Succeeds g limits (.binaryTail least left) s tree s' tree.height := by
  obtain ⟨rfl, hrecorded, hheight⟩ := hstart
  have hstop (hcont : ¬ Continues g least s.tokens) :
      Succeeds g limits (.binaryTail least left) s left s left.height := by
    refine ⟨s.tokens, 0, .binaryStop hcont, hs.nesting, hheight, ?_⟩
    rw [hs.after_zero, ← hrecorded]
    rfl
  rw [binaryTail, get_bind] at h
  cases hat : binaryAt g s.tokens with
  | none =>
    rw [hat] at h
    cases h
    exact hstop (by rintro ⟨_, _, hsome, -⟩; rw [hat] at hsome; cases hsome)
  | some operator =>
    obtain ⟨symbol, precedence⟩ := operator
    rw [hat] at h
    dsimp only at h
    split_ifs at h with hloose
    · cases h
      refine hstop ?_
      rintro ⟨_, _, hsome, hle⟩
      cases hat.symm.trans hsome
      exact Int32.not_lt.mpr hle hloose
    · obtain ⟨o, mid, htokens, hregistered⟩ := binaryAt_eq_some_iff.mp hat
      rw [advance_bind] at h
      obtain ⟨right, _, hrun, h⟩ := bind_eq_ok.mp h
      obtain ⟨mid', n, hright, hnesting, -, rfl⟩ :=
        ih (.binary (tighter precedence)) 0 hrun (hs.move _) trivial
      simp only [get_bind] at h
      obtain ⟨_, _, hset, h⟩ := bind_eq_ok.mp h
      obtain ⟨hallowed, rfl⟩ := setHeight_eq_ok.mp hset
      obtain ⟨after, m, htail, hnesting', hheight', rfl⟩ :=
        ih (.binaryTail least (.binary symbol left right)) _ h
          (((hs.move _).after _ _ _).rise _) ⟨rfl, rfl, hallowed⟩
      simp only [State.rise_after, State.after_move, State.after_after]
      rw [htokens] at hright
      refine ⟨after, _, ?_, allowsNesting_add_max hnesting hnesting', hheight', rfl⟩
      rw [htokens]
      exact .binaryStep hregistered (Int32.not_lt.mp hloose) hright htail

lemma succeeds_unary (ih : Sound g limits fuel) (hs : Ready limits s)
    (h : unary g limits (fuel + 1) s = .ok (tree, s')) :
    Succeeds g limits .unary s tree s' tree.height := by
  rw [unary, get_bind] at h
  cases hat : unaryAt g s.tokens with
  | none =>
    rw [hat] at h
    obtain ⟨after, n, hreads, hnesting, hheight, rfl⟩ := ih .suffixed 0 h hs trivial
    exact ⟨after, n, .operand hat hreads, hnesting, hheight, rfl⟩
  | some symbol =>
    obtain ⟨o, mid, htokens, hregistered⟩ := unaryAt_eq_some_iff.mp hat
    rw [hat] at h
    dsimp only at h
    rw [advance_bind] at h
    obtain ⟨_, _, henter, h⟩ := bind_eq_ok.mp h
    obtain ⟨hopen, rfl⟩ := enter_eq_ok.mp henter
    obtain ⟨operand, _, hrun, h⟩ := bind_eq_ok.mp h
    obtain ⟨after, n, hreads, hnesting, -, rfl⟩ := ih .unary 0 hrun (.opened hopen) trivial
    simp only [leave_bind, get_bind, State.closed_after_opened, State.after_move] at h
    obtain ⟨_, _, hset, h⟩ := bind_eq_ok.mp h
    obtain ⟨hallowed, rfl⟩ := setHeight_eq_ok.mp hset
    cases h
    simp only [State.tokens_opened, State.tokens_move, htokens, List.tail_cons] at hreads
    refine ⟨after, n + 1, ?_, allowsNesting_mono hnesting (by simp; omega), hallowed, rfl⟩
    rw [htokens]
    exact .unary hregistered hreads

lemma succeeds_suffixed (ih : Sound g limits fuel) (hs : Ready limits s)
    (h : suffixed g limits (fuel + 1) s = .ok (tree, s')) :
    Succeeds g limits .suffixed s tree s' tree.height := by
  rw [suffixed] at h
  obtain ⟨subject, _, hrun, h⟩ := bind_eq_ok.mp h
  obtain ⟨mid, n, hsubject, hnesting, hheight, rfl⟩ := ih .primary 0 hrun hs trivial
  rw [get_bind] at h
  obtain ⟨after, m, htail, hnesting', hheight', rfl⟩ :=
    ih (.suffixes subject) _ h (hs.after _ _ _) ⟨rfl, hheight⟩
  rw [State.after_after]
  exact ⟨after, _, .suffixed hsubject htail, allowsNesting_add_max hnesting hnesting', hheight',
    rfl⟩

lemma succeeds_member {subject : Expr} {o : ℕ} {rest : List Token} (ih : Sound g limits fuel)
    (hs : Ready limits s) (htokens : s.tokens = ⟨.mark .dot, o⟩ :: rest)
    (h : suffixes g limits (fuel + 1) subject subject.height s = .ok (tree, s')) :
    Succeeds g limits (.suffixes subject) s tree s' tree.height := by
  rw [suffixes_of_dot htokens] at h
  obtain ⟨name, _, hname, h⟩ := bind_eq_ok.mp h
  obtain ⟨kind, o', mid, rfl, hkind, rfl⟩ := (expectName_eq_ok rfl).mp hname
  obtain rfl := identifier?_eq_some_iff.mp hkind
  obtain ⟨_, _, hset, h⟩ := bind_eq_ok.mp h
  obtain ⟨hallowed, rfl⟩ := setHeight_eq_ok.mp hset
  have hsubject := Expr.height_member_name subject name
  obtain ⟨after, n, htail, hnesting, hheight, rfl⟩ := ih (.suffixes _) _ h
    (((hs.move _).move _).rise _) ⟨hsubject.symm, by rwa [hsubject]⟩
  refine ⟨after, n, ?_, hnesting, hheight, rfl⟩
  rw [htokens]
  exact .member htail

lemma succeeds_bracket {subject : Expr} {o : ℕ} {rest : List Token} (ih : Sound g limits fuel)
    (hs : Ready limits s) (htokens : s.tokens = ⟨.mark .leftBracket, o⟩ :: rest)
    (h : suffixes g limits (fuel + 1) subject subject.height s = .ok (tree, s')) :
    Succeeds g limits (.suffixes subject) s tree s' tree.height := by
  rw [suffixes_of_bracket htokens] at h
  obtain ⟨inner, _, hrun, h⟩ := bind_eq_ok.mp h
  obtain ⟨_, n, hinner, hnesting, -, rfl⟩ := ih .expression 0 hrun (hs.move _) trivial
  simp only [get_bind] at h
  obtain ⟨_, _, hclose, h⟩ := bind_eq_ok.mp h
  obtain ⟨o', mid, rfl, rfl⟩ := expectMark_eq_ok.mp hclose
  obtain ⟨_, _, hset, h⟩ := bind_eq_ok.mp h
  obtain ⟨hallowed, rfl⟩ := setHeight_eq_ok.mp hset
  have hsubject := height_bracket subject inner
  obtain ⟨after, m, htail, hnesting', hheight, rfl⟩ := ih (.suffixes _) _ h
    ((((hs.move _).after _ _ _).move _).rise _) ⟨hsubject.symm, by rwa [hsubject]⟩
  simp only [State.move_after, State.rise_after, State.after_move, State.after_after]
  refine ⟨after, _, ?_, allowsNesting_add_max hnesting hnesting', hheight, rfl⟩
  rw [htokens]
  exact .bracket hinner htail

lemma succeeds_transform {subject : Expr} {o : ℕ} {rest : List Token} (ih : Sound g limits fuel)
    (hs : Ready limits s) (hallowed : limits.allowsHeight subject.height = true)
    (htokens : s.tokens = ⟨.mark .pipe, o⟩ :: rest)
    (h : suffixes g limits (fuel + 1) subject subject.height s = .ok (tree, s')) :
    Succeeds g limits (.suffixes subject) s tree s' tree.height := by
  rw [suffixes_of_pipe htokens] at h
  obtain ⟨name, _, hname, h⟩ := bind_eq_ok.mp h
  obtain ⟨kind, o', mid, rfl, hkind, rfl⟩ := (expectName_eq_ok rfl).mp hname
  obtain rfl := identifier?_eq_some_iff.mp hkind
  rw [check_bind] at h
  split_ifs at h with hparen
  · obtain ⟨o'', mid, rfl⟩ := startsWith_eq_true_iff.mp hparen
    rw [advance_bind] at h
    obtain ⟨arguments, _, hrun, h⟩ := bind_eq_ok.mp h
    obtain ⟨mid', n, harguments, hnesting, -, rfl⟩ := ih (.list .rightParen) 0
      (reader_list_eq_ok.mpr ⟨_, hrun, rfl⟩) (((hs.move _).move _).move _)
      (allowsHeight_mono hallowed (Nat.zero_le _))
    simp only [get_bind] at h
    obtain ⟨_, _, hset, h⟩ := bind_eq_ok.mp h
    obtain ⟨hallowed, rfl⟩ := setHeight_eq_ok.mp hset
    have hsubject := height_transform_list subject name arguments
    obtain ⟨after, m, htail, hnesting', hheight, rfl⟩ := ih (.suffixes _) _ h
      (((((hs.move _).move _).move _).after _ _ _).rise _)
      ⟨hsubject.symm, by rw [hsubject]; exact hallowed⟩
    simp only [State.rise_after, State.after_move, State.after_after]
    refine ⟨after, _, ?_, allowsNesting_add_max hnesting hnesting', hheight, rfl⟩
    rw [htokens]
    exact .call harguments htail
  · obtain ⟨_, _, hset, h⟩ := bind_eq_ok.mp h
    obtain ⟨hallowed, rfl⟩ := setHeight_eq_ok.mp hset
    have hsubject := Expr.height_transform_nil subject name
    obtain ⟨after, n, htail, hnesting, hheight, rfl⟩ := ih (.suffixes _) _ h
      (((hs.move _).move _).rise _) ⟨hsubject.symm, by rwa [hsubject]⟩
    refine ⟨after, n, ?_, hnesting, hheight, rfl⟩
    rw [htokens]
    exact .transform (eq_false_of_ne_true hparen) htail

lemma succeeds_suffixes {subject : Expr} (ih : Sound g limits fuel) (hs : Ready limits s)
    (hstart : (Form.suffixes subject).Starts limits height s)
    (h : suffixes g limits (fuel + 1) subject height s = .ok (tree, s')) :
    Succeeds g limits (.suffixes subject) s tree s' tree.height := by
  obtain ⟨rfl, hheight⟩ := hstart
  cases hat : suffixAt s.tokens with
  | true =>
    simp only [suffixAt, Bool.or_eq_true, startsWith_eq_true_iff] at hat
    obtain (⟨o, rest, htokens⟩ | ⟨o, rest, htokens⟩) | ⟨o, rest, htokens⟩ := hat
    · exact succeeds_member ih hs htokens h
    · exact succeeds_bracket ih hs htokens h
    · exact succeeds_transform ih hs hheight htokens h
  | false =>
    rw [suffixes_of_stop hat] at h
    cases h
    exact ⟨s.tokens, 0, .suffixStop hat, hs.nesting, hheight, (hs.after_zero _ _).symm⟩

lemma succeeds_group {o : ℕ} {rest : List Token} (ih : Sound g limits fuel)
    (hs : Ready limits s) (htokens : s.tokens = ⟨.mark .leftParen, o⟩ :: rest)
    (h : primary g limits (fuel + 1) s = .ok (tree, s')) :
    Succeeds g limits .primary s tree s' tree.height := by
  rw [primary_of_paren htokens] at h
  obtain ⟨tree, _, hrun, h⟩ := bind_eq_ok.mp h
  obtain ⟨_, n, hreads, hnesting, hheight, rfl⟩ :=
    ih .expression 0 hrun ((hs.rise _).move _) trivial
  obtain ⟨_, _, hclose, h⟩ := bind_eq_ok.mp h
  obtain ⟨o', after, rfl, rfl⟩ := expectMark_eq_ok.mp hclose
  cases h
  refine ⟨after, n, ?_, hnesting, hheight, rfl⟩
  rw [htokens]
  exact .group hreads

lemma succeeds_array {o : ℕ} {rest : List Token} (ih : Sound g limits fuel)
    (hone : limits.allowsHeight 1 = true) (hs : Ready limits s)
    (htokens : s.tokens = ⟨.mark .leftBracket, o⟩ :: rest)
    (h : primary g limits (fuel + 1) s = .ok (tree, s')) :
    Succeeds g limits .primary s tree s' tree.height := by
  rw [primary_of_bracket htokens] at h
  obtain ⟨items, _, hrun, h⟩ := bind_eq_ok.mp h
  obtain ⟨after, n, hreads, hnesting, -, rfl⟩ := ih (.list .rightBracket) 0
    (reader_list_eq_ok.mpr ⟨_, hrun, rfl⟩) ((hs.rise _).move _)
    (allowsHeight_mono hone (Nat.zero_le _))
  simp only [get_bind] at h
  obtain ⟨_, _, hset, h⟩ := bind_eq_ok.mp h
  obtain ⟨hallowed, rfl⟩ := setHeight_eq_ok.mp hset
  cases h
  rw [height_array_list items .rightBracket]
  refine ⟨after, n, ?_, hnesting, hallowed, rfl⟩
  rw [htokens]
  exact .array hreads

lemma succeeds_object {o : ℕ} {rest : List Token} (ih : Sound g limits fuel)
    (hone : limits.allowsHeight 1 = true) (hs : Ready limits s)
    (htokens : s.tokens = ⟨.mark .leftBrace, o⟩ :: rest)
    (h : primary g limits (fuel + 1) s = .ok (tree, s')) :
    Succeeds g limits .primary s tree s' tree.height := by
  rw [primary_of_brace htokens] at h
  obtain ⟨entries, _, hrun, h⟩ := bind_eq_ok.mp h
  obtain ⟨after, n, hreads, hnesting, hheight, rfl⟩ := ih .fields 0
    (reader_fields_eq_ok.mpr ⟨_, hrun, rfl⟩) ((hs.rise _).move _)
    (allowsHeight_mono hone (Nat.zero_le _))
  cases h
  rw [height_object_fields]
  refine ⟨after, n, ?_, hnesting, hheight, rfl⟩
  rw [htokens]
  exact .object hreads

lemma succeeds_relative {o : ℕ} {rest : List Token} (hone : limits.allowsHeight 1 = true)
    (hs : Ready limits s) (htokens : s.tokens = ⟨.mark .dot, o⟩ :: rest)
    (h : primary g limits (fuel + 1) s = .ok (tree, s')) :
    Succeeds g limits .primary s tree s' tree.height := by
  rw [primary_of_dot htokens] at h
  obtain ⟨name, _, hname, h⟩ := bind_eq_ok.mp h
  obtain ⟨kind, o', after, rfl, hkind, rfl⟩ := (expectName_eq_ok rfl).mp hname
  obtain rfl := identifier?_eq_some_iff.mp hkind
  cases h
  refine ⟨after, 0, ?_, hs.nesting, hone, (hs.after_zero _ _).symm⟩
  rw [htokens]
  exact .relative

lemma succeeds_primary (ih : Sound g limits fuel) (hone : limits.allowsHeight 1 = true)
    (hs : Ready limits s) (h : primary g limits (fuel + 1) s = .ok (tree, s')) :
    Succeeds g limits .primary s tree s' tree.height := by
  cases hatom : atom? (current s.tokens).kind with
  | some leaf =>
    obtain ⟨o, after, htokens⟩ := exists_of_kind s.tokens rfl
      (fun heq => by rw [heq] at hatom; cases hatom)
    rw [primary_of_atom htokens hatom] at h
    cases h
    rw [height_of_atom? hatom]
    refine ⟨after, 0, ?_, hs.nesting, hone, (hs.after_zero _ _).symm⟩
    rw [htokens]
    exact .atom hatom
  | none =>
    cases hdot : startsWith .dot s.tokens with
    | true =>
      obtain ⟨o, rest, htokens⟩ := startsWith_eq_true_iff.mp hdot
      exact succeeds_relative hone hs htokens h
    | false =>
    cases hparen : startsWith .leftParen s.tokens with
    | true =>
      obtain ⟨o, rest, htokens⟩ := startsWith_eq_true_iff.mp hparen
      exact succeeds_group ih hs htokens h
    | false =>
    cases hbracket : startsWith .leftBracket s.tokens with
    | true =>
      obtain ⟨o, rest, htokens⟩ := startsWith_eq_true_iff.mp hbracket
      exact succeeds_array ih hone hs htokens h
    | false =>
    cases hbrace : startsWith .leftBrace s.tokens with
    | true =>
      obtain ⟨o, rest, htokens⟩ := startsWith_eq_true_iff.mp hbrace
      exact succeeds_object ih hone hs htokens h
    | false =>
      rw [primary_of_none hdot hparen hbracket hbrace hatom] at h
      cases h

lemma succeeds_list {close : Mark} (ih : Sound g limits fuel) (hs : Ready limits s)
    (hallowed : limits.allowsHeight height = true) {items : List Expr}
    (h : list g limits close (fuel + 1) height s = .ok (items, s')) :
    Succeeds g limits (.list close) s (.array items) s' (max height (Expr.tallest items)) := by
  rw [list, check_bind] at h
  split_ifs at h with hclose
  · obtain ⟨o, after, htokens⟩ := startsWith_eq_true_iff.mp hclose
    rw [advance_bind, putHeight_bind, htokens] at h
    cases h
    rw [Expr.tallest, Nat.max_zero]
    refine ⟨after, 0, ?_, hs.nesting, hallowed, (hs.after_zero _ _).symm⟩
    rw [htokens]
    exact .listEnd
  · obtain ⟨item, _, hrun, h⟩ := bind_eq_ok.mp h
    obtain ⟨mid, n, hitem, hnesting, hheight, rfl⟩ := ih .expression 0 hrun hs trivial
    simp only [get_bind] at h
    obtain ⟨_, _, hseparate, h⟩ := bind_eq_ok.mp h
    obtain ⟨rest, m, hrest, h⟩ := bind_eq_ok.mp h
    cases h
    have hmore := eq_false_of_ne_true hclose
    have hboth := allowsHeight_max hallowed hheight
    rw [Expr.tallest, ← max_assoc]
    rcases separate_eq_ok.mp hseparate with ⟨hlast, rfl⟩ | ⟨hother, o, mid', rfl, rfl⟩
    · obtain ⟨o, after, rfl⟩ := startsWith_eq_true_iff.mp hlast
      obtain ⟨after', m, htail, -, hheight', rfl⟩ := ih (.list close) _
        (reader_list_eq_ok.mpr ⟨_, hrest, rfl⟩) (hs.after _ _ _) hboth
      cases htail with
      | listEnd =>
        rw [State.after_after, Nat.max_zero]
        exact ⟨after, n, .listLast hmore hitem, hnesting, hheight', rfl⟩
      | listLast more | listItem more => simp at more
    · obtain ⟨after, m, htail, hnesting', hheight', rfl⟩ := ih (.list close) _
        (reader_list_eq_ok.mpr ⟨_, hrest, rfl⟩) ((hs.after _ _ _).move _) hboth
      simp only [State.move_after, State.after_after]
      exact ⟨after, _, .listItem hmore (by simpa [eq_comm] using hother) hitem htail,
        allowsNesting_add_max hnesting hnesting', hheight', rfl⟩

lemma succeeds_fields (ih : Sound g limits fuel) (hs : Ready limits s)
    (hallowed : limits.allowsHeight height = true) {entries : List (String × Expr)}
    (h : fields g limits (fuel + 1) height s = .ok (entries, s')) :
    Succeeds g limits .fields s (.object entries) s'
      (max height (Expr.tallestEntry entries) + 1) := by
  rw [fields, check_bind] at h
  split_ifs at h with hclose
  · obtain ⟨o, after, htokens⟩ := startsWith_eq_true_iff.mp hclose
    rw [advance_bind, htokens] at h
    obtain ⟨_, _, hset, h⟩ := bind_eq_ok.mp h
    obtain ⟨hallowed', rfl⟩ := setHeight_eq_ok.mp hset
    cases h
    rw [Expr.tallestEntry, Nat.max_zero]
    refine ⟨after, 0, ?_, hs.nesting, hallowed', (hs.after_zero _ _).symm⟩
    rw [htokens]
    exact .fieldsEnd
  · obtain ⟨key, _, hname, h⟩ := bind_eq_ok.mp h
    obtain ⟨kind, o, rest, htokens, hkind, rfl⟩ := (expectName_eq_ok rfl).mp hname
    obtain ⟨_, _, hcolon, h⟩ := bind_eq_ok.mp h
    obtain ⟨o', mid, rfl, rfl⟩ := expectMark_eq_ok.mp hcolon
    obtain ⟨value, _, hrun, h⟩ := bind_eq_ok.mp h
    obtain ⟨mid', n, hvalue, hnesting, hheight, rfl⟩ :=
      ih .expression 0 hrun ((hs.move _).move _) trivial
    simp only [get_bind] at h
    obtain ⟨_, _, hseparate, h⟩ := bind_eq_ok.mp h
    obtain ⟨rest, m, hrest, h⟩ := bind_eq_ok.mp h
    cases h
    have hboth := allowsHeight_max hallowed hheight
    rw [Expr.tallestEntry, ← max_assoc]
    rcases separate_eq_ok.mp hseparate with ⟨hlast, rfl⟩ | ⟨-, o'', mid', rfl, rfl⟩
    · obtain ⟨o'', after, rfl⟩ := startsWith_eq_true_iff.mp hlast
      obtain ⟨after', m, htail, -, hheight', rfl⟩ := ih .fields _
        (reader_fields_eq_ok.mpr ⟨_, hrest, rfl⟩) (((hs.move _).move _).after _ _ _) hboth
      cases htail with
      | fieldsEnd =>
        simp only [State.after_move, State.after_after, Nat.max_zero]
        refine ⟨after, n, ?_, hnesting, hheight', rfl⟩
        rw [htokens]
        exact .fieldsLast hkind hvalue
      | fieldsLast named | fieldsItem named => simp [key?] at named
    · obtain ⟨after, m, htail, hnesting', hheight', rfl⟩ := ih .fields _
        (reader_fields_eq_ok.mpr ⟨_, hrest, rfl⟩) ((((hs.move _).move _).after _ _ _).move _) hboth
      simp only [State.after_move, State.move_after, State.after_after]
      refine ⟨after, _, ?_, allowsNesting_add_max hnesting hnesting', hheight', rfl⟩
      rw [htokens]
      exact .fieldsItem hkind hvalue htail

end Forms

/-- Readers are right with any fuel. -/
theorem sound (g : Grammar) {limits : Limits} (hone : limits.allowsHeight 1 = true) (fuel : ℕ) :
    Sound g limits fuel := by
  induction fuel with
  | zero =>
    intro form height s tree s' h _ _
    rw [reader_zero] at h
    cases h
  | succ fuel ih =>
    intro form height s tree s' h hs hstart
    cases form with
    | expression => exact succeeds_expression ih h
    | conditional => exact succeeds_conditional ih hs h
    | binary => exact succeeds_binary ih hs h
    | binaryTail => exact succeeds_binaryTail ih hs hstart h
    | unary => exact succeeds_unary ih hs h
    | suffixed => exact succeeds_suffixed ih hs h
    | suffixes => exact succeeds_suffixes ih hs hstart h
    | primary => exact succeeds_primary ih hone hs h
    | list =>
      obtain ⟨items, hrun, rfl⟩ := reader_list_eq_ok.mp h
      exact succeeds_list ih hs hstart hrun
    | fields =>
      obtain ⟨entries, hrun, rfl⟩ := reader_fields_eq_ok.mp h
      exact succeeds_fields ih hs hstart hrun

end Cohort.Parser
