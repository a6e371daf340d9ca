import Cohort.Proofs.Expr.WellFormed
import Cohort.Proofs.Parser.Spelling
import Mathlib

/-!
Trees spelled with parentheses around each operand and each subject. Nothing is left for precedence
to decide, so every part ends where its spelling does, whatever comes after it, and the parser
reads back the tree that was spelled, unless it is nested too deep.
-/
namespace Cohort

namespace Expr

mutual

/-- How many levels are open at once when a tree is read from such a spelling. -/
def levels : Expr → ℕ
  | .literal _ | .identifier _ | .relative _ => 1
  | .member subject _ false => subject.levels + 1
  | .member subject property true => max subject.levels property.levels + 1
  | .array items => levelsOfItems items + 1
  | .object entries => levelsOfEntries entries + 1
  | .unary _ operand => operand.levels + 2
  | .binary _ left right => max left.levels right.levels + 1
  | .conditional test consequent alternate =>
    max (max test.levels (consequent.levels + 1)) (alternate.levels + 1) + 1
  | .filter subject predicate => max subject.levels predicate.levels + 1
  | .transform subject _ arguments => max subject.levels (levelsOfItems arguments) + 1

def levelsOfItems : List Expr → ℕ
  | [] => 0
  | item :: items => max item.levels (levelsOfItems items)

def levelsOfEntries : List (String × Expr) → ℕ
  | [] => 0
  | (_, value) :: entries => max value.levels (levelsOfEntries entries)

end

end Expr

def Mark.closes : Mark → Bool
  | .rightParen | .rightBracket | .rightBrace | .comma | .colon => true
  | _ => false

namespace Parser

/-- A tree ends before these tokens, whatever it is: they begin with nothing that could go on after
an operand. -/
structure Ends (g : Grammar) (after : List Token) : Prop where
  suffix : suffixAt after = false
  call : startsWith .leftParen after = false
  operator : binaryAt g after = none
  question : startsWith .question after = false

section Reading
variable {g : Grammar} {before after : List Token} {tree : Expr} {n : ℕ}

theorem Ends.mark {mark : Mark} (h : mark.closes = true) (o : ℕ) (after : List Token) :
    Ends g (⟨.mark mark, o⟩ :: after) := by
  cases mark <;> cases h <;> exact ⟨rfl, rfl, rfl, rfl⟩

theorem Ends.eof (o : ℕ) (after : List Token) : Ends g (⟨.eof, o⟩ :: after) :=
  ⟨rfl, rfl, rfl, rfl⟩

theorem Ends.stop (h : Ends g after) (least : Int32) : ¬ Continues g least after := by
  rintro ⟨symbol, precedence, heq, -⟩
  cases h.operator.symm.trans heq

/-- An operand that no suffix follows stands by itself. -/
theorem Reads.standing (h : Reads g .primary before after tree n) (bare : unaryAt g before = none)
    (stop : suffixAt after = false) : Reads g .unary before after tree n := by
  have hunary := Reads.operand bare (.suffixed h (.suffixStop stop))
  rwa [Nat.max_zero] at hunary

/-- An operand with no operator after it that could go on is a chain of its own. -/
theorem Reads.alone {least : Int32} (h : Reads g .unary before after tree n)
    (stop : ¬ Continues g least after) : Reads g (.binary least) before after tree n := by
  have hbinary := Reads.binary h (.binaryStop stop)
  rwa [Nat.max_zero] at hbinary

/-- An operand is a whole expression where a tree ends. -/
theorem Reads.whole (h : Reads g .unary before after tree n) (hends : Ends g after) :
    Reads g .expression before after tree (n + 1) :=
  .expression (.test (h.alone (hends.stop _)) hends.question)

end Reading

section Begin
variable {tree : Expr} {s : List Token}

theorem startsWith_of_closes {mark other : Mark} (hmark : mark.closes = true)
    (hother : other.closes = false) (o : ℕ) (after : List Token) :
    startsWith mark (⟨.mark other, o⟩ :: after) = false := by
  have hne : other ≠ mark := by
    rintro rfl
    cases hother.symm.trans hmark
  exact decide_eq_false hne

theorem Spelling.parens_of_operand (h : Spelling .full (.operand tree) s) :
    ∃ o rest, s = ⟨.mark .leftParen, o⟩ :: rest := by
  cases h with
  | bare _ loose => cases loose
  | parens => exact ⟨_, _, rfl⟩

/-- No unary operator stands before an operand in parentheses. -/
theorem Spelling.unaryAt_of_operand (g : Grammar) (h : Spelling .full (.operand tree) s)
    (after : List Token) : unaryAt g (s ++ after) = none := by
  obtain ⟨o, rest, rfl⟩ := h.parens_of_operand
  rfl

/-- A tree begins with no mark that stands behind one. -/
theorem Spelling.startsWith_of_tree (h : Spelling .full (.tree tree) s) {mark : Mark}
    (hmark : mark.closes = true) (after : List Token) : startsWith mark (s ++ after) = false := by
  have hoperand {subject : Expr} {front back : List Token}
      (hs : Spelling .full (.operand subject) front) :
      startsWith mark (front ++ back ++ after) = false := by
    obtain ⟨o, rest, rfl⟩ := hs.parens_of_operand
    exact startsWith_of_closes hmark rfl o _
  cases h with
  | @literal scalar _ _ h => cases scalar <;> cases h <;> rfl
  | identifier | unary => rfl
  | relative | array | object => exact startsWith_of_closes hmark rfl _ _
  | member h | computed h | binary h | conditional h | filter h | transform h | call h =>
    exact hoperand h
  | wrapped _ loose => cases loose

end Begin

def Phrase.WellFormed (g : Grammar) : Phrase → Prop
  | .tree e | .operand e => e.WellFormed g
  | .items es => ∀ e ∈ es, e.WellFormed g
  | .entries es => ∀ entry ∈ es, entry.2.WellFormed g

/-- The parser reads a phrase from some tokens: a tree where it ends, an operand whatever comes
after it, and items and entries with the mark that closes them. -/
def Phrase.ReadFrom (g : Grammar) (s : List Token) : Phrase → Prop
  | .tree e => ∀ after, Ends g after → Reads g .expression (s ++ after) after e e.levels
  | .operand e => ∀ after, Reads g .primary (s ++ after) after e e.levels
  | .items es =>
    ∀ close o after, close.closes = true → close ≠ .comma →
      Reads g (.list close) (s ++ ⟨.mark close, o⟩ :: after) after (.array es)
        (Expr.levelsOfItems es)
  | .entries es =>
    ∀ o after, Reads g .fields (s ++ ⟨.mark .rightBrace, o⟩ :: after) after (.object es)
      (Expr.levelsOfEntries es)

section Nodes
variable {g : Grammar} {tree subject inner : Expr} {s s' : List Token}

/-- A single token, a name after a dot or a collection is a tree without further ado. -/
theorem readFrom_of_primary {n : ℕ} (h : ∀ after, Reads g .primary (s ++ after) after tree n)
    (hlevels : tree.levels = n + 1) (bare : ∀ after, unaryAt g (s ++ after) = none) :
    (Phrase.tree tree).ReadFrom g s := by
  intro after hends
  rw [hlevels]
  exact ((h after).standing (bare after) hends.suffix).whole hends

theorem readFrom_of_suffix {n : ℕ} (h : Spelling .full (.operand subject) s)
    (ih : (Phrase.operand subject).ReadFrom g s)
    (tail : ∀ after, Ends g after → Reads g (.suffixes subject) (s' ++ after) after tree n)
    (hlevels : tree.levels = max subject.levels n + 1) :
    (Phrase.tree tree).ReadFrom g (s ++ s') := by
  intro after hends
  rw [List.append_assoc, hlevels]
  exact (Reads.operand (h.unaryAt_of_operand g _) (.suffixed (ih _) (tail after hends))).whole hends

/-- An operand in parentheses is one before anything that is no suffix. -/
theorem reads_unary (h : Spelling .full (.operand tree) s)
    (ih : (Phrase.operand tree).ReadFrom g s) {after : List Token}
    (stop : suffixAt after = false) : Reads g .unary (s ++ after) after tree tree.levels :=
  (ih after).standing (h.unaryAt_of_operand g after) stop

@[simp] theorem levels_bracket (subject inner : Expr) :
    (bracket subject inner).levels = max subject.levels inner.levels + 1 := by
  unfold bracket
  split_ifs <;> rw [Expr.levels]

theorem readFrom_bracket (h : Spelling .full (.operand subject) s)
    (ih : (Phrase.operand subject).ReadFrom g s) (ih' : (Phrase.tree inner).ReadFrom g s')
    (o o' : ℕ) :
    (Phrase.tree (bracket subject inner)).ReadFrom g
      (s ++ ⟨.mark .leftBracket, o⟩ :: (s' ++ [⟨.mark .rightBracket, o'⟩])) := by
  refine readFrom_of_suffix h ih (fun after hends => ?_) (levels_bracket subject inner)
  simpa using Reads.bracket (ih' _ (.mark rfl o' after)) (.suffixStop hends.suffix)

theorem readFrom_binary {symbol : String} {left right : Expr}
    (registered : g.binary.contains symbol = true) (h : Spelling .full (.operand left) s)
    (h' : Spelling .full (.operand right) s') (ih : (Phrase.operand left).ReadFrom g s)
    (ih' : (Phrase.operand right).ReadFrom g s') (o : ℕ) :
    (Phrase.tree (.binary symbol left right)).ReadFrom g (s ++ ⟨.operator symbol, o⟩ :: s') := by
  intro after hends
  obtain ⟨op, hop⟩ := Option.isSome_iff_exists.mp registered
  have hprecedence : g.precedence? symbol = some op.precedence :=
    Option.map_eq_some_iff.mpr ⟨op, hop, rfl⟩
  have hright := (reads_unary h' ih' hends.suffix).alone (hends.stop (tighter op.precedence))
  have hleft : Reads g .unary (s ++ ⟨.operator symbol, o⟩ :: (s' ++ after)) _ left left.levels :=
    reads_unary h ih rfl
  have hbinary := Reads.binary hleft
    (.binaryStep hprecedence (Int32.minValue_le _) hright (.binaryStop (hends.stop _)))
  simpa [Expr.levels] using Reads.expression (.test hbinary hends.question)

theorem readFrom_conditional {test consequent alternate : Expr} {s'' : List Token}
    (h : Spelling .full (.operand test) s) (h' : Spelling .full (.operand consequent) s')
    (h'' : Spelling .full (.operand alternate) s'') (ih : (Phrase.operand test).ReadFrom g s)
    (ih' : (Phrase.operand consequent).ReadFrom g s')
    (ih'' : (Phrase.operand alternate).ReadFrom g s'') (o o' : ℕ) :
    (Phrase.tree (.conditional test consequent alternate)).ReadFrom g
      (s ++ ⟨.mark .question, o⟩ :: (s' ++ ⟨.mark .colon, o'⟩ :: s'')) := by
  intro after hends
  have hquestion : ¬ Continues g Int32.minValue
      (⟨.mark .question, o⟩ :: (s' ++ ⟨.mark .colon, o'⟩ :: (s'' ++ after))) := by
    rintro ⟨symbol, precedence, heq, -⟩
    cases heq
  have htest := (reads_unary h ih rfl).alone hquestion
  have hcolon : Ends g (⟨.mark .colon, o'⟩ :: (s'' ++ after)) := .mark rfl o' _
  have hconsequent := (reads_unary h' ih' rfl).whole hcolon
  have halternate := (reads_unary h'' ih'' hends.suffix).whole hends
  simpa [Expr.levels] using Reads.expression (.conditional htest hconsequent halternate)

end Nodes

theorem Spelling.readFrom {g : Grammar} {phrase : Phrase} {s : List Token}
    (h : Spelling .full phrase s) (hwell : phrase.WellFormed g) : phrase.ReadFrom g s := by
  induction h with
  | @literal scalar kind o h =>
    refine readFrom_of_primary (fun after => .atom (atom?_of_token? h)) (by rw [Expr.levels]) ?_
    intro after
    cases scalar <;> cases h <;> rfl
  | identifier =>
    exact readFrom_of_primary (fun after => .atom rfl) (by rw [Expr.levels]) fun after => rfl
  | relative =>
    exact readFrom_of_primary (fun after => .relative) (by rw [Expr.levels]) fun after => rfl
  | member h ih =>
    obtain ⟨-, hsubject, -⟩ := Expr.everywhere_member.mp hwell
    refine readFrom_of_suffix h (ih hsubject) (fun after hends => ?_)
      (by rw [Expr.levels, Nat.max_zero])
    exact .member (.suffixStop hends.suffix)
  | @computed subject property _ _ o o' h h' ih ih' =>
    obtain ⟨hfits, hsubject, hproperty⟩ := Expr.everywhere_member.mp hwell
    have hbracket : Parser.bracket subject property = Expr.member subject property true :=
      if_neg (Bool.eq_false_iff.mp hfits)
    exact hbracket ▸ readFrom_bracket h (ih hsubject) (ih' hproperty) o o'
  | @filter subject predicate _ _ o o' h h' ih ih' =>
    obtain ⟨hfits, hsubject, hpredicate⟩ := Expr.everywhere_filter.mp hwell
    have hbracket : Parser.bracket subject predicate = Expr.filter subject predicate := if_pos hfits
    exact hbracket ▸ readFrom_bracket h (ih hsubject) (ih' hpredicate) o o'
  | transform h ih =>
    obtain ⟨-, hsubject, -⟩ := Expr.everywhere_transform.mp hwell
    refine readFrom_of_suffix h (ih hsubject) (fun after hends => ?_)
      (by rw [Expr.levels, Expr.levelsOfItems])
    exact .transform hends.call (.suffixStop hends.suffix)
  | @call _ _ arguments _ _ o o' o₁ o₂ h h' ih ih' =>
    obtain ⟨-, hsubject, harguments⟩ := Expr.everywhere_transform.mp hwell
    refine readFrom_of_suffix h (ih hsubject) (fun after hends => ?_) (by rw [Expr.levels])
    have hlist := ih' harguments .rightParen o₂ after rfl (by simp)
    rw [List.cons_append, List.cons_append, List.cons_append, List.append_assoc,
      ← Nat.max_zero (Expr.levelsOfItems arguments)]
    exact .call hlist (.suffixStop hends.suffix)
  | @array _ _ o o' h ih =>
    refine readFrom_of_primary (fun after => ?_) (by rw [Expr.levels]) fun after => rfl
    have hlist := ih (Expr.everywhere_array.mp hwell).2 .rightBracket o' after rfl (by simp)
    simpa using Reads.array hlist
  | @object _ _ o o' h ih =>
    refine readFrom_of_primary (fun after => ?_) (by rw [Expr.levels]) fun after => rfl
    simpa using Reads.object (ih (Expr.everywhere_object.mp hwell).2 o' after)
  | unary h ih =>
    obtain ⟨hfits, hoperand⟩ := Expr.everywhere_unary.mp hwell
    intro after hends
    rw [Expr.levels]
    exact (Reads.unary hfits (reads_unary h (ih hoperand) hends.suffix)).whole hends
  | binary h h' ih ih' =>
    obtain ⟨hfits, hleft, hright⟩ := Expr.everywhere_binary.mp hwell
    exact readFrom_binary hfits h h' (ih hleft) (ih' hright) _
  | conditional h h' h'' ih ih' ih'' =>
    obtain ⟨-, ht, hc, ha⟩ := Expr.everywhere_conditional.mp hwell
    exact readFrom_conditional h h' h'' (ih ht) (ih' hc) (ih'' ha) _ _
  | bare _ loose | wrapped _ loose => cases loose
  | @parens _ _ o o' _ ih =>
    intro after
    simpa using Reads.group (ih hwell _ (.mark rfl o' after))
  | noItems => exact fun close o after _ _ => .listEnd
  | lastItem h ih =>
    have hitem := hwell _ List.mem_cons_self
    intro close o after hclose _
    rw [Expr.levelsOfItems, Expr.levelsOfItems, Nat.max_zero]
    exact .listLast (h.startsWith_of_tree hclose _)
      (ih hitem _ (.mark hclose o after))
  | @item _ _ _ _ o' h h' ih ih' =>
    obtain ⟨hitem, hitems⟩ := List.forall_mem_cons.mp hwell
    intro close o after hclose hother
    rw [Expr.levelsOfItems, List.append_assoc, List.cons_append]
    exact .listItem (h.startsWith_of_tree hclose _) hother (ih hitem _ (.mark rfl o' _))
      (ih' hitems close o after hclose hother)
  | noEntries => exact fun o after => .fieldsEnd
  | lastEntry named h ih =>
    have hvalue := hwell _ List.mem_cons_self
    intro o after
    rw [Expr.levelsOfEntries, Expr.levelsOfEntries, Nat.max_zero]
    exact .fieldsLast (key?_eq_some_iff.mpr named)
      (ih hvalue _ (.mark rfl o after))
  | @entry _ _ _ _ _ _ _ _ o₁ named h h' ih ih' =>
    obtain ⟨hvalue, hentries⟩ := List.forall_mem_cons.mp hwell
    intro o after
    rw [Expr.levelsOfEntries, List.cons_append, List.cons_append, List.append_assoc,
      List.cons_append]
    exact .fieldsItem (key?_eq_some_iff.mpr named) (ih hvalue _ (.mark rfl o₁ _))
      (ih' hentries o after)

section Existence
variable {grouping : Grouping}

theorem exists_token_of_kind {scalar : Scalar} (h : scalar.kind ≠ .date) :
    ∃ kind, scalar.token? = some kind := by
  cases scalar with
  | date => exact absurd rfl h
  | _ => exact ⟨_, rfl⟩

theorem exists_spelling_items {items : List Expr}
    (h : ∀ item ∈ items, ∃ s, Spelling grouping (.tree item) s) :
    ∃ s, Spelling grouping (.items items) s := by
  induction items with
  | nil => exact ⟨[], .noItems⟩
  | cons item items ih =>
    obtain ⟨⟨s, hs⟩, h⟩ := List.forall_mem_cons.mp h
    obtain ⟨s', hs'⟩ := ih h
    exact ⟨s ++ ⟨.mark .comma, 0⟩ :: s', .item hs hs'⟩

theorem exists_spelling_entries {entries : List (String × Expr)}
    (h : ∀ entry ∈ entries, ∃ s, Spelling grouping (.tree entry.2) s) :
    ∃ s, Spelling grouping (.entries entries) s := by
  induction entries with
  | nil => exact ⟨[], .noEntries⟩
  | cons entry entries ih =>
    obtain ⟨⟨s, hs⟩, h⟩ := List.forall_mem_cons.mp h
    obtain ⟨s', hs'⟩ := ih h
    exact ⟨⟨.string entry.1, 0⟩ :: ⟨.mark .colon, 0⟩ :: (s ++ ⟨.mark .comma, 0⟩ :: s'),
      .entry (.inl rfl) hs hs'⟩

theorem exists_spelling {g : Grammar} {tree : Expr} (h : tree.WellFormed g) :
    ∃ s, Spelling grouping (.tree tree) s := by
  have hparens {e : Expr} (he : ∃ s, Spelling grouping (.tree e) s) :
      ∃ s, Spelling grouping (.operand e) s := by
    obtain ⟨s, hs⟩ := he
    exact ⟨⟨.mark .leftParen, 0⟩ :: (s ++ [⟨.mark .rightParen, 0⟩]), .parens hs⟩
  induction tree with
  | literal value =>
    obtain ⟨scalar, rfl, hkind⟩ := Expr.everywhere_literal.mp h
    obtain ⟨kind, hkind⟩ := exists_token_of_kind hkind
    exact ⟨[⟨kind, 0⟩], .literal hkind⟩
  | identifier name => exact ⟨[⟨.identifier name, 0⟩], .identifier⟩
  | relative name => exact ⟨[⟨.mark .dot, 0⟩, ⟨.identifier name, 0⟩], .relative⟩
  | member subject property computed ihs ihp =>
    obtain ⟨hfits, hs, hp⟩ := Expr.everywhere_member.mp h
    obtain ⟨s, hs⟩ := hparens (ihs hs)
    cases computed with
    | false =>
      obtain ⟨name, rfl⟩ := hfits
      exact ⟨s ++ [⟨.mark .dot, 0⟩, ⟨.identifier name, 0⟩], .member hs⟩
    | true =>
      obtain ⟨s', hs'⟩ := ihp hp
      exact ⟨s ++ ⟨.mark .leftBracket, 0⟩ :: (s' ++ [⟨.mark .rightBracket, 0⟩]), .computed hs hs'⟩
  | array items ih =>
    have hitems := (Expr.everywhere_array.mp h).2
    obtain ⟨s, hs⟩ := exists_spelling_items fun item hmem => ih item hmem (hitems item hmem)
    exact ⟨⟨.mark .leftBracket, 0⟩ :: (s ++ [⟨.mark .rightBracket, 0⟩]), .array hs⟩
  | object entries ih =>
    have hentries := (Expr.everywhere_object.mp h).2
    obtain ⟨s, hs⟩ :=
      exists_spelling_entries fun entry hmem => ih entry hmem (hentries entry hmem)
    exact ⟨⟨.mark .leftBrace, 0⟩ :: (s ++ [⟨.mark .rightBrace, 0⟩]), .object hs⟩
  | unary symbol operand ih =>
    obtain ⟨s, hs⟩ := hparens (ih (Expr.everywhere_unary.mp h).2)
    exact ⟨⟨.operator symbol, 0⟩ :: s, .unary hs⟩
  | binary symbol left right ihl ihr =>
    obtain ⟨-, hl, hr⟩ := Expr.everywhere_binary.mp h
    obtain ⟨s, hs⟩ := hparens (ihl hl)
    obtain ⟨s', hs'⟩ := hparens (ihr hr)
    exact ⟨s ++ ⟨.operator symbol, 0⟩ :: s', .binary hs hs'⟩
  | conditional test consequent alternate iht ihc iha =>
    obtain ⟨-, ht, hc, ha⟩ := Expr.everywhere_conditional.mp h
    obtain ⟨s, hs⟩ := hparens (iht ht)
    obtain ⟨s', hs'⟩ := hparens (ihc hc)
    obtain ⟨s'', hs''⟩ := hparens (iha ha)
    exact ⟨s ++ ⟨.mark .question, 0⟩ :: (s' ++ ⟨.mark .colon, 0⟩ :: s''),
      .conditional hs hs' hs''⟩
  | filter subject predicate ihs ihp =>
    obtain ⟨-, hs, hp⟩ := Expr.everywhere_filter.mp h
    obtain ⟨s, hs⟩ := hparens (ihs hs)
    obtain ⟨s', hs'⟩ := ihp hp
    exact ⟨s ++ ⟨.mark .leftBracket, 0⟩ :: (s' ++ [⟨.mark .rightBracket, 0⟩]), .filter hs hs'⟩
  | transform subject name arguments ihs iha =>
    obtain ⟨-, hs, harguments⟩ := Expr.everywhere_transform.mp h
    obtain ⟨s, hs⟩ := hparens (ihs hs)
    obtain ⟨s', hs'⟩ :=
      exists_spelling_items fun argument hmem => iha argument hmem (harguments argument hmem)
    exact ⟨s ++ ⟨.mark .pipe, 0⟩ :: ⟨.identifier name, 0⟩ :: ⟨.mark .leftParen, 0⟩ ::
      (s' ++ [⟨.mark .rightParen, 0⟩]), .call hs hs'⟩

end Existence

section Whole
variable {g : Grammar} {tree : Expr} {tokens : List Token}

/-- Without limits, what is spelled with all its parentheses is read back. -/
theorem run_of_spelling (h : tree.WellFormed g)
    (hspelling : Spelling .full (.tree tree) (beforeEof tokens)) :
    ∃ rest, run g .unbounded tokens = .ok (tree, ⟨rest, 0, tree.levels, tree.height⟩) := by
  obtain ⟨o, after, hclosed⟩ := exists_closed_eq tokens
  have hreads := hspelling.readFrom h _ (.eof o after)
  rw [← hclosed] at hreads
  exact ⟨after, (run_eq_ok rfl rfl).mpr ⟨_, _, ⟨_, hreads, rfl, rfl⟩, rfl, rfl, rfl⟩⟩

/-- A well-formed tree can be spelled with parentheses around each operand and each subject, and
all its spellings of that kind are parsed as the tree, unless it is more than 256 high or opens more
than 64 levels and so is nested too deep. -/
theorem parseTokens_grouped (h : tree.WellFormed g) :
    (∃ s, Spelling .full (.tree tree) s) ∧
      ∀ tokens, Spelling .full (.tree tree) (beforeEof tokens) →
        parseWithin g .unbounded tokens = .ok tree ∧
          if tree.height ≤ 256 ∧ tree.levels ≤ 64 then g.parseTokens tokens = .ok tree
          else ∃ o, g.parseTokens tokens = .error (.nestingTooDeep o) := by
  refine ⟨exists_spelling h, fun tokens hspelling => ?_⟩
  obtain ⟨rest, hrun⟩ := run_of_spelling h hspelling
  exact ⟨parseWithin_eq_ok.mpr ⟨_, hrun⟩, parseTokens_of_run hrun⟩

theorem parseTokens_grouped_standard :
    let tokens : List Token :=
      [⟨.mark .leftParen, 0⟩, ⟨.operator "!", 1⟩, ⟨.mark .leftParen, 2⟩, ⟨.identifier "a", 3⟩,
        ⟨.mark .rightParen, 4⟩, ⟨.mark .rightParen, 5⟩, ⟨.operator "==", 6⟩, ⟨.mark .leftParen, 8⟩,
        ⟨.mark .leftParen, 9⟩, ⟨.identifier "b", 10⟩, ⟨.mark .rightParen, 11⟩,
        ⟨.mark .leftBracket, 12⟩, ⟨.mark .dot, 13⟩, ⟨.identifier "c", 14⟩,
        ⟨.mark .rightBracket, 15⟩, ⟨.mark .rightParen, 16⟩]
    let tree : Expr := .binary "==" (.unary "!" (.identifier "a"))
      (.filter (.identifier "b") (.relative "c"))
    tree.WellFormed .standard ∧ Spelling .full (.tree tree) tokens ∧
      Grammar.standard.parseTokens tokens = .ok tree := by
  intro tokens tree
  have hwell : tree.WellFormed .standard := by
    simp only [tree, Expr.WellFormed, Expr.everywhere_binary, Expr.everywhere_unary,
      Expr.everywhere_filter, Expr.everywhere_identifier, Expr.everywhere_relative, Expr.Fits,
      Expr.hasRelative, and_true]
    decide
  have hspelling : Spelling .full (.tree tree) tokens :=
    .binary (.parens (.unary (.parens .identifier)))
      (.parens (.filter (.parens .identifier) .relative))
  have hparse := ((parseTokens_grouped hwell).2 tokens hspelling).2
  rw [if_pos ⟨by decide, by decide⟩] at hparse
  exact ⟨hwell, hspelling, hparse⟩

end Whole

end Parser

end Cohort
