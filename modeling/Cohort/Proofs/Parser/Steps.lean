import Cohort.Proofs.Parser.Reads
import Mathlib

/-!
What the steps of the parser do, one lemma for each, and the functions of the parser as the readers
of the forms of phrases.
-/
namespace Cohort.Parser

namespace State
variable (s : State) (tokens tokens' : List Token) (n m height height' : ℕ)

def move : State := { s with tokens }

def rise : State := { s with height }

def opened : State :=
  { s with depth := s.depth + 1, deepest := max s.deepest (s.depth + 1) }

def closed : State := { s with depth := s.depth - 1 }

/-- The state after a phrase that leaves `tokens`, opens `n` levels and has a height. -/
def after : State := ⟨tokens, s.depth, max s.deepest (s.depth + n), height⟩

@[simp] theorem tokens_move : (s.move tokens).tokens = tokens := rfl

@[simp] theorem depth_move : (s.move tokens).depth = s.depth := rfl

@[simp] theorem height_move : (s.move tokens).height = s.height := rfl

@[simp] theorem tokens_rise : (s.rise height).tokens = s.tokens := rfl

@[simp] theorem depth_rise : (s.rise height).depth = s.depth := rfl

@[simp] theorem height_rise : (s.rise height).height = height := rfl

@[simp] theorem tokens_opened : s.opened.tokens = s.tokens := rfl

@[simp] theorem depth_opened : s.opened.depth = s.depth + 1 := rfl

@[simp] theorem tokens_after : (s.after tokens n height).tokens = tokens := rfl

@[simp] theorem depth_after : (s.after tokens n height).depth = s.depth := rfl

@[simp] theorem height_after : (s.after tokens n height).height = height := rfl

@[simp] theorem move_move : (s.move tokens).move tokens' = s.move tokens' := rfl

@[simp] theorem move_after : (s.after tokens n height).move tokens' = s.after tokens' n height :=
  rfl

@[simp] theorem rise_after : (s.after tokens n height).rise height' = s.after tokens n height' :=
  rfl

@[simp] theorem after_move : (s.move tokens).after tokens' n height = s.after tokens' n height :=
  rfl

@[simp] theorem after_rise : (s.rise height).after tokens n height' = s.after tokens n height' :=
  rfl

@[simp] theorem after_after : (s.after tokens n height).after tokens' m height'
    = s.after tokens' (max n m) height' := by
  simp only [State.after, State.mk.injEq, true_and, and_true]
  omega

@[simp] theorem closed_after_opened :
    (s.opened.after tokens n height).closed = s.after tokens (n + 1) height := by
  simp only [State.after, State.closed, State.opened, State.mk.injEq, true_and, and_true]
  omega

end State

section Sequence
variable {α β : Type} {x : Reader α} {f : α → Reader β} {s s' m : State} {a : α} {b : β}
  {fault : Fault}

theorem bind_of_ok (h : x s = .ok (a, m)) : (x >>= f) s = f a m := by
  simp [bind, StateT.bind, h, Except.bind]

theorem bind_of_error (h : x s = .error fault) : (x >>= f) s = .error fault := by
  simp [bind, StateT.bind, h, Except.bind]

theorem bind_eq_ok :
    (x >>= f) s = .ok (b, s') ↔ ∃ a m, x s = .ok (a, m) ∧ f a m = .ok (b, s') := by
  cases h : x s with
  | error fault => simp [bind_of_error h]
  | ok result =>
    obtain ⟨a, m⟩ := result
    simp [bind_of_ok h]

theorem bind_eq_error :
    (x >>= f) s = .error fault ↔
      x s = .error fault ∨ ∃ a m, x s = .ok (a, m) ∧ f a m = .error fault := by
  cases h : x s with
  | error fault => simp [bind_of_error h]
  | ok result =>
    obtain ⟨a, m⟩ := result
    simp [bind_of_ok h]

@[simp] theorem pure_apply : (pure a : Reader α) s = .ok (a, s) := rfl

@[simp] theorem fail_apply (cause : Cause) :
    (fail cause : Reader α) s = .error ⟨cause, s.tokens⟩ := rfl

@[simp] theorem get_bind (f : State → Reader β) : ((get : Reader State) >>= f) s = f s s := rfl

@[simp] theorem check_bind (f : Bool → Reader β) (mark : Mark) :
    (check mark >>= f) s = f (startsWith mark s.tokens) s := rfl

@[simp] theorem advance_bind (f : Unit → Reader β) :
    (advance >>= f) s = f () (s.move s.tokens.tail) := rfl

@[simp] theorem leave_bind (f : Unit → Reader β) : (leave >>= f) s = f () s.closed := rfl

@[simp] theorem putHeight_bind (f : Unit → Reader β) (height : ℕ) :
    (putHeight height >>= f) s = f () (s.rise height) := rfl

end Sequence

section Steps
variable {limits : Limits} {mark close : Mark} {s s' : State} {tokens : List Token}
  {expected : Expected} {name : String} {height : ℕ}

theorem startsWith_eq_true_iff :
    startsWith mark tokens = true ↔ ∃ o rest, tokens = ⟨.mark mark, o⟩ :: rest := by
  constructor
  · intro h
    unfold startsWith at h
    split at h
    · obtain rfl := of_decide_eq_true h
      exact ⟨_, _, rfl⟩
    · cases h
  · rintro ⟨o, rest, rfl⟩
    exact decide_eq_true rfl

@[simp] theorem startsWith_mark {other : Mark} {o : ℕ} :
    startsWith mark (⟨.mark other, o⟩ :: tokens) = decide (other = mark) := rfl

@[simp] theorem startsWith_self {o : ℕ} : startsWith mark (⟨.mark mark, o⟩ :: tokens) = true :=
  decide_eq_true rfl

theorem exists_of_kind (tokens : List Token) {kind : TokenKind}
    (h : (current tokens).kind = kind) (ne : kind ≠ .eof) :
    ∃ o rest, tokens = ⟨kind, o⟩ :: rest := by
  cases tokens with
  | nil => exact absurd h.symm ne
  | cons token rest =>
    subst h
    exact ⟨_, _, rfl⟩

theorem expectMark_apply :
    expectMark mark s = if startsWith mark s.tokens = true then .ok ((), s.move s.tokens.tail)
      else .error ⟨.expected (.mark mark), s.tokens⟩ := by
  unfold expectMark
  rw [check_bind]
  split_ifs <;> rfl

theorem expectMark_eq_ok :
    expectMark mark s = .ok ((), s') ↔
      ∃ o rest, s.tokens = ⟨.mark mark, o⟩ :: rest ∧ s' = s.move rest := by
  rw [expectMark_apply]
  split_ifs with h
  · obtain ⟨o, rest, htokens⟩ := startsWith_eq_true_iff.mp h
    simp [htokens, eq_comm]
  · simp only [false_iff]
    rintro ⟨o, rest, htokens, -⟩
    exact h (startsWith_eq_true_iff.mpr ⟨o, rest, htokens⟩)

theorem enter_apply :
    enter limits s = if limits.allowsNesting (s.depth + 1) = true then .ok ((), s.opened)
      else .error ⟨.tooDeep, s.tokens⟩ := by
  change (if limits.allowsNesting (s.depth + 1) = true then pure ()
    else fail .tooDeep : Reader Unit) s.opened = _
  split_ifs <;> rfl

theorem enter_eq_ok :
    enter limits s = .ok ((), s') ↔
      limits.allowsNesting (s.depth + 1) = true ∧ s' = s.opened := by
  rw [enter_apply]
  split_ifs with h <;> simp [h, eq_comm]

theorem setHeight_apply :
    setHeight limits height s = if limits.allowsHeight height = true then .ok ((), s.rise height)
      else .error ⟨.tooDeep, s.tokens⟩ := by
  unfold setHeight
  split_ifs <;> rfl

theorem setHeight_eq_ok :
    setHeight limits height s = .ok ((), s') ↔
      limits.allowsHeight height = true ∧ s' = s.rise height := by
  rw [setHeight_apply]
  split_ifs with h <;> simp [h, eq_comm]

theorem expectName_eq_ok {name? : TokenKind → Option String} (ne : name? .eof = none) :
    expectName name? expected s = .ok (name, s') ↔
      ∃ kind o rest, s.tokens = ⟨kind, o⟩ :: rest ∧ name? kind = some name ∧
        s' = s.move rest := by
  unfold expectName
  rw [get_bind]
  cases hname : name? (current s.tokens).kind with
  | none =>
    simp only [fail_apply, reduceCtorEq, false_iff]
    rintro ⟨kind, o, rest, htokens, hsome, -⟩
    rw [htokens] at hname
    cases hname.symm.trans hsome
  | some name' =>
    obtain ⟨o, rest, htokens⟩ := exists_of_kind s.tokens rfl
      (fun heq => by rw [heq, ne] at hname; cases hname)
    generalize (current s.tokens).kind = kind at hname htokens
    simp [htokens, hname, eq_comm]

theorem identifier?_eq_some_iff {kind : TokenKind} :
    identifier? kind = some name ↔ kind = .identifier name := by
  cases kind <;> simp [identifier?]

theorem separate_apply :
    separate close s = if startsWith close s.tokens = true then .ok ((), s)
      else expectMark .comma s := by
  unfold separate
  rw [check_bind]
  split_ifs <;> rfl

theorem separate_eq_ok :
    separate close s = .ok ((), s') ↔
      (startsWith close s.tokens = true ∧ s' = s) ∨
      (startsWith close s.tokens = false ∧ ∃ o rest, s.tokens = ⟨.mark .comma, o⟩ :: rest ∧
        s' = s.move rest) := by
  rw [separate_apply]
  split_ifs with h
  · simp [h, eq_comm]
  · rw [expectMark_eq_ok]
    simp [h]

theorem binaryAt_eq_some_iff {g : Grammar} {symbol : String} {precedence : Int32} :
    binaryAt g tokens = some (symbol, precedence) ↔ ∃ o rest,
      tokens = ⟨.operator symbol, o⟩ :: rest ∧ g.precedence? symbol = some precedence := by
  constructor
  · intro h
    unfold binaryAt at h
    split at h
    · obtain ⟨p, hp, heq⟩ := Option.map_eq_some_iff.mp h
      cases heq
      exact ⟨_, _, rfl, hp⟩
    · cases h
  · rintro ⟨o, rest, rfl, h⟩
    rw [binaryAt, h]
    rfl

theorem unaryAt_eq_some_iff {g : Grammar} {symbol : String} :
    unaryAt g tokens = some symbol ↔
      ∃ o rest, tokens = ⟨.operator symbol, o⟩ :: rest ∧ g.isUnary symbol = true := by
  constructor
  · intro h
    unfold unaryAt at h
    split at h
    · split_ifs at h with hunary
      cases h
      exact ⟨_, _, rfl, hunary⟩
    · cases h
  · rintro ⟨o, rest, rfl, h⟩
    rw [unaryAt, if_pos h]

end Steps

section Branches
variable {g : Grammar} {limits : Limits} {fuel height o : ℕ} {subject leaf : Expr} {s : State}
  {rest : List Token} {kind : TokenKind}

theorem suffixes_of_dot (h : s.tokens = ⟨.mark .dot, o⟩ :: rest) :
    suffixes g limits (fuel + 1) subject height s = (do
      let name ← expectName identifier? .identifier
      setHeight limits (height + 1)
      suffixes g limits fuel (.member subject (.literal (.string name)) false) (height + 1))
        (s.move rest) := by
  rw [suffixes]
  simp only [check_bind, advance_bind, h, startsWith_self, if_true, List.tail_cons]

theorem suffixes_of_bracket (h : s.tokens = ⟨.mark .leftBracket, o⟩ :: rest) :
    suffixes g limits (fuel + 1) subject height s = (do
      let inner ← expression g limits fuel
      let height := max height (← get).height + 1
      expectMark .rightBracket
      setHeight limits height
      suffixes g limits fuel (bracket subject inner) height) (s.move rest) := by
  rw [suffixes]
  simp only [check_bind, advance_bind, h, startsWith_mark, reduceCtorEq, decide_true, decide_false,
    Bool.false_eq_true, if_true, if_false, List.tail_cons]

theorem suffixes_of_pipe (h : s.tokens = ⟨.mark .pipe, o⟩ :: rest) :
    suffixes g limits (fuel + 1) subject height s = (do
      let name ← expectName identifier? .identifier
      if ← check .leftParen then
        advance
        let arguments ← list g limits .rightParen fuel 0
        let height := max height (← get).height + 1
        setHeight limits height
        suffixes g limits fuel (.transform subject name arguments) height
      else
        setHeight limits (height + 1)
        suffixes g limits fuel (.transform subject name []) (height + 1)) (s.move rest) := by
  rw [suffixes]
  simp only [check_bind, advance_bind, h, startsWith_mark, reduceCtorEq, decide_true, decide_false,
    Bool.false_eq_true, if_true, if_false, List.tail_cons]

theorem suffixes_of_stop (h : suffixAt s.tokens = false) :
    suffixes g limits (fuel + 1) subject height s = .ok (subject, s.rise height) := by
  simp only [suffixAt, Bool.or_eq_false_iff] at h
  obtain ⟨⟨hdot, hbracket⟩, hpipe⟩ := h
  rw [suffixes]
  simp only [check_bind, putHeight_bind, hdot, hbracket, hpipe, Bool.false_eq_true, if_false]
  rfl

theorem primary_of_dot (h : s.tokens = ⟨.mark .dot, o⟩ :: rest) :
    primary g limits (fuel + 1) s = (do
      return Expr.relative (← expectName identifier? .identifier)) ((s.rise 1).move rest) := by
  rw [primary]
  simp only [putHeight_bind, check_bind, advance_bind, State.tokens_rise, h, startsWith_self,
    if_true, List.tail_cons]

theorem primary_of_paren (h : s.tokens = ⟨.mark .leftParen, o⟩ :: rest) :
    primary g limits (fuel + 1) s = (do
      let tree ← expression g limits fuel
      expectMark .rightParen
      pure tree) ((s.rise 1).move rest) := by
  rw [primary]
  simp only [putHeight_bind, check_bind, advance_bind, State.tokens_rise, h, startsWith_mark,
    reduceCtorEq, decide_true, decide_false, Bool.false_eq_true, if_true, if_false, List.tail_cons]

theorem primary_of_bracket (h : s.tokens = ⟨.mark .leftBracket, o⟩ :: rest) :
    primary g limits (fuel + 1) s = (do
      let items ← list g limits .rightBracket fuel 0
      setHeight limits ((← get).height + 1)
      pure (Expr.array items)) ((s.rise 1).move rest) := by
  rw [primary]
  simp only [putHeight_bind, check_bind, advance_bind, State.tokens_rise, h, startsWith_mark,
    reduceCtorEq, decide_true, decide_false, Bool.false_eq_true, if_true, if_false, List.tail_cons]

theorem primary_of_brace (h : s.tokens = ⟨.mark .leftBrace, o⟩ :: rest) :
    primary g limits (fuel + 1) s = (do
      return Expr.object (← fields g limits fuel 0)) ((s.rise 1).move rest) := by
  rw [primary]
  simp only [putHeight_bind, check_bind, advance_bind, State.tokens_rise, h, startsWith_mark,
    reduceCtorEq, decide_true, decide_false, Bool.false_eq_true, if_true, if_false, List.tail_cons]

theorem primary_of_atom (h : s.tokens = ⟨kind, o⟩ :: rest) (hatom : atom? kind = some leaf) :
    primary g limits (fuel + 1) s = .ok (leaf, (s.rise 1).move rest) := by
  have hmark (mark : Mark) : startsWith mark (⟨kind, o⟩ :: rest) = false := by
    cases kind <;> first | rfl | cases hatom
  rw [primary]
  simp only [putHeight_bind, check_bind, get_bind, State.tokens_rise, h, hmark, Bool.false_eq_true,
    if_false, current, List.headD_cons, hatom, advance_bind, List.tail_cons]
  rfl

theorem primary_of_none (hdot : startsWith .dot s.tokens = false)
    (hparen : startsWith .leftParen s.tokens = false)
    (hbracket : startsWith .leftBracket s.tokens = false)
    (hbrace : startsWith .leftBrace s.tokens = false)
    (hatom : atom? (current s.tokens).kind = none) :
    primary g limits (fuel + 1) s = .error ⟨.expected .operand, s.tokens⟩ := by
  rw [primary]
  simp only [putHeight_bind, check_bind, get_bind, State.tokens_rise, hdot, hparen, hbracket,
    hbrace, Bool.false_eq_true, if_false, hatom]
  rfl

theorem list_of_close {close : Mark} (h : s.tokens = ⟨.mark close, o⟩ :: rest) :
    list g limits close (fuel + 1) height s = .ok ([], (s.move rest).rise height) := by
  rw [list]
  simp only [check_bind, advance_bind, putHeight_bind, h, startsWith_self, if_true, List.tail_cons]
  rfl

theorem list_of_more {close : Mark} (h : startsWith close s.tokens = false) :
    list g limits close (fuel + 1) height s = (do
      let item ← expression g limits fuel
      let height := max height (← get).height
      separate close
      return item :: (← list g limits close fuel height)) s := by
  rw [list, check_bind, h]
  rfl

theorem fields_of_close (h : s.tokens = ⟨.mark .rightBrace, o⟩ :: rest) :
    fields g limits (fuel + 1) height s = (do
      setHeight limits (height + 1)
      pure []) (s.move rest) := by
  rw [fields]
  simp only [check_bind, advance_bind, h, startsWith_self, if_true, List.tail_cons]

theorem fields_of_more (h : startsWith .rightBrace s.tokens = false) :
    fields g limits (fuel + 1) height s = (do
      let key ← expectName key? .objectKey
      expectMark .colon
      let value ← expression g limits fuel
      let height := max height (← get).height
      separate .rightBrace
      return (key, value) :: (← fields g limits fuel height)) s := by
  rw [fields, check_bind, h]
  rfl

theorem fields_of_entry {o' : ℕ} {key : String}
    (h : s.tokens = ⟨kind, o⟩ :: ⟨.mark .colon, o'⟩ :: rest) (named : key? kind = some key) :
    fields g limits (fuel + 1) height s = (do
      let value ← expression g limits fuel
      let height := max height (← get).height
      separate .rightBrace
      return (key, value) :: (← fields g limits fuel height)) (s.move rest) := by
  have hmore : startsWith .rightBrace s.tokens = false := by
    rw [h]
    cases kind <;> first | rfl | cases named
  have hkey : expectName key? .objectKey s = .ok (key, s.move (⟨.mark .colon, o'⟩ :: rest)) :=
    (expectName_eq_ok rfl).mpr ⟨kind, o, _, h, named, rfl⟩
  rw [fields_of_more hmore, bind_of_ok hkey, bind_of_ok (expectMark_eq_ok.mpr ⟨_, _, rfl, rfl⟩),
    State.move_move]

end Branches

namespace Form
variable (g : Grammar) (limits : Limits)

/-- The function of the parser that reads a form. What goes on after something of a height gets
that height. -/
def reader (fuel height : ℕ) : Form → Reader Expr
  | .expression => Parser.expression g limits fuel
  | .conditional => Parser.conditional g limits fuel
  | .binary least => Parser.binary g limits least fuel
  | .binaryTail least left => Parser.binaryTail g limits least fuel left height
  | .unary => Parser.unary g limits fuel
  | .suffixed => Parser.suffixed g limits fuel
  | .suffixes subject => Parser.suffixes g limits fuel subject height
  | .primary => Parser.primary g limits fuel
  | .list close => do return .array (← Parser.list g limits close fuel height)
  | .fields => do return .object (← Parser.fields g limits fuel height)

def heightAfter (height : ℕ) : Form → Expr → ℕ
  | .list _, .array items => max height (Expr.tallest items)
  | .fields, .object entries => max height (Expr.tallestEntry entries) + 1
  | _, tree => tree.height

/-- What a form's reader takes for granted of the height it goes on after. -/
def Starts (height : ℕ) (s : State) : Form → Prop
  | .binaryTail _ left =>
    height = left.height ∧ s.height = left.height ∧ limits.allowsHeight left.height = true
  | .suffixes subject => height = subject.height ∧ limits.allowsHeight subject.height = true
  | .list _ | .fields => limits.allowsHeight height = true
  | _ => True

end Form

theorem height_transform_list (subject : Expr) (name : String) (arguments : List Expr) :
    (Expr.transform subject name arguments).height = max subject.height
      ((Form.list .rightParen).heightAfter 0 (.array arguments)) + 1 := by
  rw [Expr.height, Form.heightAfter, Nat.zero_max]

theorem height_array_list (items : List Expr) (close : Mark) :
    (Expr.array items).height = (Form.list close).heightAfter 0 (.array items) + 1 := by
  rw [Expr.height, Form.heightAfter, Nat.zero_max]

theorem height_object_fields (entries : List (String × Expr)) :
    (Expr.object entries).height = Form.fields.heightAfter 0 (.object entries) := by
  rw [Expr.height, Form.heightAfter, Nat.zero_max]

theorem reader_zero (g : Grammar) (limits : Limits) (height : ℕ) (form : Form) (s : State) :
    form.reader g limits 0 height s = .error ⟨.outOfFuel, s.tokens⟩ := by
  cases form <;> rfl

theorem reader_list_eq_ok {g : Grammar} {limits : Limits} {fuel height : ℕ} {close : Mark}
    {s s' : State} {tree : Expr} :
    (Form.list close).reader g limits fuel height s = .ok (tree, s') ↔
      ∃ items, list g limits close fuel height s = .ok (items, s') ∧ tree = .array items := by
  rw [Form.reader, bind_eq_ok]
  simp [eq_comm]

theorem reader_fields_eq_ok {g : Grammar} {limits : Limits} {fuel height : ℕ} {s s' : State}
    {tree : Expr} :
    Form.fields.reader g limits fuel height s = .ok (tree, s') ↔
      ∃ entries, fields g limits fuel height s = .ok (entries, s') ∧ tree = .object entries := by
  rw [Form.reader, bind_eq_ok]
  simp [eq_comm]

section Limits
variable {limits : Limits} {a b : ℕ}

theorem allowsNesting_mono (h : limits.allowsNesting a = true) (hle : b ≤ a) :
    limits.allowsNesting b = true := by
  rcases limits with ⟨_ | most, _⟩
  · rfl
  · exact decide_eq_true (hle.trans (of_decide_eq_true h))

theorem allowsHeight_mono (h : limits.allowsHeight a = true) (hle : b ≤ a) :
    limits.allowsHeight b = true := by
  rcases limits with ⟨_, _ | most⟩
  · rfl
  · exact decide_eq_true (hle.trans (of_decide_eq_true h))

theorem allowsNesting_add_max {d : ℕ} (h : limits.allowsNesting (d + a) = true)
    (h' : limits.allowsNesting (d + b) = true) : limits.allowsNesting (d + max a b) = true := by
  rcases max_choice a b with hmax | hmax <;> rwa [hmax]

theorem allowsHeight_max (h : limits.allowsHeight a = true) (h' : limits.allowsHeight b = true) :
    limits.allowsHeight (max a b) = true := by
  rcases max_choice a b with hmax | hmax <;> rwa [hmax]

structure Ready (limits : Limits) (s : State) : Prop where
  nesting : limits.allowsNesting s.depth = true
  deepest : s.depth ≤ s.deepest

namespace Ready
variable {s : State}

theorem move (h : Ready limits s) (tokens : List Token) : Ready limits (s.move tokens) :=
  ⟨h.nesting, h.deepest⟩

theorem rise (h : Ready limits s) (height : ℕ) : Ready limits (s.rise height) :=
  ⟨h.nesting, h.deepest⟩

theorem after (h : Ready limits s) (tokens : List Token) (n height : ℕ) :
    Ready limits (s.after tokens n height) :=
  ⟨h.nesting, h.deepest.trans (le_max_left _ _)⟩

theorem opened (h : limits.allowsNesting (s.depth + 1) = true) : Ready limits s.opened :=
  ⟨h, le_max_right _ _⟩

theorem after_zero (h : Ready limits s) (tokens : List Token) (height : ℕ) :
    s.after tokens 0 height = (s.move tokens).rise height := by
  simp only [State.after, add_zero, max_eq_left h.deepest]
  rfl

end Ready

end Limits

end Cohort.Parser
