import Cohort.Proofs.Parser.Consumed
import Cohort.Proofs.Parser.Termination
import Mathlib

/-!
The parser decides on the shortest prefix. Where it fails depends on the tokens up to the current
one and on none behind it, and the first end marker is the last token that it ever comes to.
-/
namespace Cohort.Parser

/-- What two readers come to when they are given the same tokens, with `behind` behind these for
the first one and `behind'` for the second one. They do the same, unless the first one goes past
the token in front of `behind`. -/
inductive Parallel (behind behind' : List Token) {α : Type} :
    Except Fault (α × State) → Except Fault (α × State) → Prop where
  | ok {a : α} {s : State} (tokens : List Token) : Parallel behind behind'
      (.ok (a, s.move (tokens ++ behind))) (.ok (a, s.move (tokens ++ behind')))
  | error {cause : Cause} (tokens : List Token) : Parallel behind behind'
      (.error ⟨cause, tokens ++ behind⟩) (.error ⟨cause, tokens ++ behind'⟩)
  | past {r r' : Except Fault (α × State)} (h : remaining r <:+ behind.tail) :
      Parallel behind behind' r r'

/-- Two readers do the same whatever tokens come before `behind` and `behind'`, and the first one
never goes back. -/
structure Agree (behind behind' : List Token) {α : Type} (x y : Reader α) : Prop where
  forward (s : State) : remaining (x s) <:+ s.tokens
  parallel (s : State) (tokens : List Token) :
    Parallel behind behind' (x (s.move (tokens ++ behind))) (y (s.move (tokens ++ behind')))

section Agree
variable {behind behind' : List Token} {α β : Type} {x y : Reader α} {f f' : α → Reader β}
  {s : State}

theorem Agree.forward_bind (hf : ∀ a, Agree behind behind' (f a) (f' a)) :
    remaining ((x >>= f) s) <:+ remaining (x s) :=
  remaining_bind (r := fun tokens tokens' => tokens' <:+ tokens) List.suffix_refl
    fun a => (hf a).forward

theorem Agree.bind (h : Agree behind behind' x y) (hf : ∀ a, Agree behind behind' (f a) (f' a)) :
    Agree behind behind' (x >>= f) (y >>= f') where
  forward s := (forward_bind hf).trans (h.forward s)
  parallel s tokens := by
    have hresults := h.parallel s tokens
    generalize hx : x _ = r, hy : y _ = r' at hresults
    cases hresults with
    | @ok a m tokens' =>
      rw [bind_of_ok hx, bind_of_ok hy]
      exact (hf a).parallel m tokens'
    | error tokens' =>
      rw [bind_of_error hx, bind_of_error hy]
      exact .error tokens'
    | past hpast =>
      rw [← hx] at hpast
      exact .past ((forward_bind hf).trans hpast)

/-- The current token is of the same kind for both, be it one of those before or the first one
behind these. -/
theorem current_append (h : (current behind).kind = (current behind').kind) (tokens : List Token) :
    (current (tokens ++ behind)).kind = (current (tokens ++ behind')).kind := by
  cases tokens with
  | nil => exact h
  | cons token tokens => rfl

theorem respects_agree (g : Grammar) (limits : Limits)
    (h : (current behind).kind = (current behind').kind) :
    Respects (fun _ => True) g g limits limits fun _ => Agree behind behind' where
  precedence _ _ := rfl
  isUnary _ _ := rfl
  pure _ := ⟨fun s => List.suffix_refl _, fun s tokens => .ok tokens⟩
  fail _ := ⟨fun s => List.suffix_refl _, fun s tokens => .error tokens⟩
  bind h hf := h.bind hf
  look hf :=
    { forward s := (hf s s ⟨rfl, rfl, trivial⟩).forward s
      parallel s tokens :=
        (hf (s.move (tokens ++ behind)) (s.move (tokens ++ behind'))
          ⟨rfl, current_append h tokens, trivial⟩).parallel s tokens }
  advance :=
    { forward s := List.tail_suffix s.tokens
      parallel s tokens := by
        cases tokens with
        | nil => exact .past (List.suffix_refl _)
        | cons token tokens => exact .ok tokens }
  enter :=
    { forward s := by
        rw [enter_apply]
        split_ifs <;> exact List.suffix_refl _
      parallel s tokens := by
        rw [enter_apply, enter_apply, State.depth_move, State.depth_move]
        split_ifs
        · exact .ok (s := s.opened) tokens
        · exact .error tokens }
  leave := ⟨fun s => List.suffix_refl _, fun s tokens => .ok (s := s.closed) tokens⟩
  putHeight height :=
    ⟨fun s => List.suffix_refl _, fun s tokens => .ok (s := s.rise height) tokens⟩
  setHeight height :=
    { forward s := by
        rw [setHeight_apply]
        split_ifs <;> exact List.suffix_refl _
      parallel s tokens := by
        rw [setHeight_apply, setHeight_apply]
        split_ifs
        · exact .ok (s := s.rise height) tokens
        · exact .error tokens }

end Agree

/-- A reader that has not gone past the token in front of `behind` has a twin that does the same. -/
theorem Parallel.twin {behind behind' : List Token} {α : Type} {r r' : Except Fault (α × State)}
    (h : Parallel behind behind' r r') (hlength : behind.length ≤ (remaining r).length)
    (hne : behind ≠ []) :
    (∃ (a : α) (s : State) (tokens : List Token), r = .ok (a, s.move (tokens ++ behind)) ∧
      r' = .ok (a, s.move (tokens ++ behind'))) ∨
    ∃ cause tokens, r = .error ⟨cause, tokens ++ behind⟩ ∧
      r' = .error ⟨cause, tokens ++ behind'⟩ := by
  cases h with
  | ok tokens => exact .inl ⟨_, _, tokens, rfl, rfl⟩
  | error tokens => exact .inr ⟨_, tokens, rfl, rfl⟩
  | past hpast =>
    have hle : (remaining r).length ≤ behind.tail.length := hpast.length_le
    have hpos : 0 < behind.length := List.length_pos_of_ne_nil hne
    rw [List.length_tail] at hle
    omega

/-- Where no end marker is gone over, the first one and what is behind it remains. -/
theorem Consumed.length_le {before behind after : List Token}
    (h : Consumed (before ++ behind) after) (heof : (current behind).kind.isEof = true) :
    behind.length ≤ after.length := by
  obtain ⟨consumed, heq, hkinds⟩ := h
  obtain ⟨more, rfl, rfl⟩ | ⟨more, rfl, rfl⟩ := List.append_eq_append_iff.mp heq
  · cases more with
    | nil => exact le_rfl
    | cons token more =>
      have hkind : token.kind.isEof = false := hkinds token (by simp)
      cases hkind.symm.trans heof
  · simp

section Whole
variable {g : Grammar} {limits : Limits} {tokens tokens' before behind behind' : List Token}
  {rest rest' : List Token} {o o' : ℕ} {cause : Cause}

theorem Agree.start {α : Type} {x y : Reader α} (hagree : Agree behind behind' x y)
    (h : closed tokens = before ++ behind) (h' : closed tokens' = before ++ behind') :
    Parallel behind behind' (x (start tokens)) (y (start tokens')) := by
  have hparallel := hagree.parallel (Parser.start []) before
  rwa [← h, ← h'] at hparallel

theorem run_eq_error_of_behind (h : closed tokens = before ++ behind)
    (h' : closed tokens' = before ++ behind') (hne : behind ≠ [])
    (hkind : (current behind).kind = (current behind').kind)
    (hrun : run g limits tokens = .error ⟨cause, behind⟩) :
    run g limits tokens' = .error ⟨cause, behind'⟩ := by
  obtain ⟨fuel, hle, hle'⟩ : ∃ fuel, fuelFor tokens ≤ fuel ∧ fuelFor tokens' ≤ fuel :=
    ⟨_, le_max_left _ _, le_max_right _ _⟩
  have hparallel := ((respects_agree g limits hkind).whole fuel).start h h'
  rw [whole_eq_run g limits hle, whole_eq_run g limits hle', hrun] at hparallel
  obtain ⟨tree, s, consumed, hok, -⟩ | ⟨cause', consumed, herror, herror'⟩ :=
    hparallel.twin le_rfl hne
  · cases hok
  · obtain ⟨rfl, hconsumed⟩ := Fault.mk.inj (Except.error.inj herror)
    rw [herror', List.append_left_eq_self.mp hconsumed.symm]
    rfl

/-- Two runs over the same tokens with an end marker behind. They read the same tree or fail for the
same reason at the same place, counted in tokens. -/
theorem run_of_eof (g : Grammar) (limits : Limits) (h : closed tokens = before ++ ⟨.eof, o⟩ :: rest)
    (h' : closed tokens' = before ++ ⟨.eof, o'⟩ :: rest') :
    (∃ tree s s', run g limits tokens = .ok (tree, s) ∧ run g limits tokens' = .ok (tree, s')) ∨
    ∃ cause consumed, run g limits tokens = .error ⟨cause, consumed ++ ⟨.eof, o⟩ :: rest⟩ ∧
      run g limits tokens' = .error ⟨cause, consumed ++ ⟨.eof, o'⟩ :: rest'⟩ := by
  obtain ⟨fuel, hle, hle'⟩ : ∃ fuel, fuelFor tokens ≤ fuel ∧ fuelFor tokens' ≤ fuel :=
    ⟨_, le_max_left _ _, le_max_right _ _⟩
  have hkind : (current (⟨.eof, o⟩ :: rest)).kind = (current (⟨.eof, o'⟩ :: rest')).kind := rfl
  have hparallel := ((respects_agree g limits hkind).related fuel).expression.start h h'
  have hcareful : Consumed (closed tokens) (remaining (expression g limits fuel (start tokens))) :=
    allCareful g limits fuel .expression 0 (start tokens)
  rw [h] at hcareful
  rw [← whole_eq_run g limits hle, ← whole_eq_run g limits hle', whole]
  obtain ⟨tree, s, consumed, hok, hok'⟩ | ⟨cause, consumed, herror, herror'⟩ :=
    hparallel.twin (hcareful.length_le rfl) (List.cons_ne_nil _ _)
  · rw [bind_of_ok hok, bind_of_ok hok', get_bind, get_bind, State.tokens_move, State.tokens_move,
      ← current_append hkind consumed]
    split_ifs
    · exact .inl ⟨tree, _, _, rfl, rfl⟩
    · exact .inr ⟨_, consumed, rfl, rfl⟩
  · exact .inr ⟨cause, consumed, bind_of_error herror, bind_of_error herror'⟩

/-- Of the first end marker and what is behind it, nothing but its place can be told from what is
parsed, and that from an error of nesting only. -/
theorem parseWithin_of_eof (g : Grammar) (limits : Limits)
    (h : closed tokens = before ++ ⟨.eof, o⟩ :: rest)
    (h' : closed tokens' = before ++ ⟨.eof, o'⟩ :: rest') :
    parseWithin g limits tokens = parseWithin g limits tokens' ∨
      parseWithin g limits tokens = .error (.nestingTooDeep o) ∧
        parseWithin g limits tokens' = .error (.nestingTooDeep o') := by
  unfold parseWithin
  obtain ⟨tree, s, s', hok, hok'⟩ | ⟨cause, consumed, herror, herror'⟩ := run_of_eof g limits h h'
  · rw [hok, hok']
    exact .inl rfl
  · rw [herror, herror']
    cases consumed with
    | cons token consumed => exact .inl rfl
    | nil =>
      cases cause with
      | expected => exact .inl rfl
      | _ => exact .inr ⟨rfl, rfl⟩

end Whole

/-- A parser fails with an error when it has gone over the first `i` tokens, so that the current one
is the next after these, or the end marker behind all of them. -/
def FailsAt (g : Grammar) (tokens : List Token) (i : ℕ) (x : SyntaxError) : Prop :=
  i ≤ tokens.length ∧ ∃ fault, run g .standard tokens = .error fault ∧
    fault.tokens = (closed tokens).drop i ∧ fault.toSyntaxError = x

section Places
variable {g : Grammar} {tokens tokens' : List Token} {i : ℕ} {x : SyntaxError} {fault : Fault}

/-- An end is unexpected where the current token is an end marker, and a token where it is none. -/
theorem isEof_of_unexpected :
    (∀ expected, fault.toSyntaxError = .unexpectedEof expected →
      (current fault.tokens).kind.isEof = true) ∧
    ∀ kind expected offset, fault.toSyntaxError = .unexpectedToken kind expected offset →
      (current fault.tokens).kind.isEof = false := by
  obtain ⟨cause, left⟩ := fault
  cases cause with
  | expected =>
    dsimp only [Fault.toSyntaxError]
    split_ifs with heof <;> simp [heof]
  | _ => simp [Fault.toSyntaxError]

theorem beforeEof_eq_nil_iff : beforeEof tokens = [] ↔ (current tokens).kind.isEof = true := by
  cases tokens with
  | nil => exact iff_of_true rfl rfl
  | cons token tokens => simp [beforeEof, current]

/-- Two token lists with the same tokens up to one, apart from what is behind it. -/
theorem closed_of_take_eq (hi : i < tokens.length)
    (htake : tokens'.take (i + 1) = tokens.take (i + 1)) :
    i < tokens'.length ∧
      closed tokens' = tokens.take i ++ tokens[i] :: (closed tokens').drop (i + 1) := by
  have hi' : i < tokens'.length := by
    have hlength := congrArg List.length htake
    rw [List.length_take, List.length_take] at hlength
    omega
  refine ⟨hi', ?_⟩
  calc closed tokens' = (closed tokens').take (i + 1) ++ (closed tokens').drop (i + 1) :=
        (List.take_append_drop _ _).symm
    _ = tokens'.take (i + 1) ++ (closed tokens').drop (i + 1) := by
        rw [closed, List.take_append_of_le_length hi']
    _ = tokens.take i ++ tokens[i] :: (closed tokens').drop (i + 1) := by
        rw [htake, List.take_succ_eq_append_getElem hi, List.append_assoc, List.singleton_append]

/-- A run that fails has gone over tokens before the first end marker only. -/
theorem exists_consumed (h : run g .standard tokens = .error fault) :
    ∃ consumed, closed tokens = consumed ++ fault.tokens ∧
      beforeEof tokens = consumed ++ beforeEof fault.tokens := by
  obtain ⟨consumed, heq, hbefore⟩ := (consumed_of_run_eq_error h).exists_beforeEof
  rw [beforeEof_closed] at hbefore
  exact ⟨consumed, heq, hbefore⟩

theorem exists_failsAt (h : g.parseTokens tokens = .error x) : ∃ i, FailsAt g tokens i x := by
  obtain ⟨fault, hrun, heq⟩ := parseWithin_eq_error.mp h
  obtain ⟨consumed, hclosed, hbefore⟩ := exists_consumed hrun
  have hle : (beforeEof tokens).length ≤ tokens.length := (List.takeWhile_sublist _).length_le
  rw [hbefore, List.length_append] at hle
  exact ⟨consumed.length, by omega, fault, hrun, by rw [hclosed, List.drop_left], heq⟩

namespace FailsAt

theorem parseTokens_eq_error (h : FailsAt g tokens i x) : g.parseTokens tokens = .error x := by
  obtain ⟨-, fault, hrun, -, heq⟩ := h
  exact parseWithin_eq_error.mpr ⟨fault, hrun, heq⟩

/-- The tokens before the first end marker are those gone over and those after them. -/
theorem length_beforeEof (h : FailsAt g tokens i x) :
    (beforeEof tokens).length = i + (beforeEof ((closed tokens).drop i)).length := by
  obtain ⟨hi, fault, hrun, htokens, -⟩ := h
  obtain ⟨consumed, hclosed, hbefore⟩ := exists_consumed hrun
  have hlength : consumed.length + fault.tokens.length = tokens.length + 1 := by
    rw [← List.length_append, ← hclosed, closed, List.length_append, List.length_singleton]
  have hleft : fault.tokens.length = tokens.length + 1 - i := by
    rw [htokens, List.length_drop, closed, List.length_append, List.length_singleton]
  rw [hbefore, ← htokens, List.length_append, show consumed.length = i by omega]

/-- An end marker is found to be unexpected when no token before it is left. -/
theorem eq_length_beforeEof {expected : Expected}
    (h : FailsAt g tokens i (.unexpectedEof expected)) : i = (beforeEof tokens).length := by
  have hlength := h.length_beforeEof
  obtain ⟨-, fault, -, htokens, heq⟩ := h
  rw [← htokens, beforeEof_eq_nil_iff.mpr (isEof_of_unexpected.1 _ heq)] at hlength
  exact hlength.symm

/-- A token that is found to be unexpected stands before the first end marker. -/
theorem lt_length_beforeEof {kind : TokenKind} {expected : Expected} {offset : ℕ}
    (h : FailsAt g tokens i (.unexpectedToken kind expected offset)) :
    i < (beforeEof tokens).length := by
  have hlength := h.length_beforeEof
  obtain ⟨-, fault, -, htokens, heq⟩ := h
  have hkind : (current fault.tokens).kind.isEof = false := isEof_of_unexpected.2 _ _ _ heq
  have hne : beforeEof fault.tokens ≠ [] := fun hnil =>
    Bool.false_ne_true (hkind.symm.trans (beforeEof_eq_nil_iff.mp hnil))
  rw [hlength, ← htokens]
  exact Nat.lt_add_of_pos_right (List.length_pos_of_ne_nil hne)

/-- Token lists that agree up to the token where one of them fails fail there in the same way. -/
theorem of_take_eq (h : FailsAt g tokens i x) (hi : i < tokens.length)
    (htake : tokens'.take (i + 1) = tokens.take (i + 1)) : FailsAt g tokens' i x := by
  obtain ⟨-, ⟨cause, left⟩, hrun, rfl, heq⟩ := h
  obtain ⟨-, hclosed⟩ := closed_of_take_eq hi rfl
  obtain ⟨hi', hclosed'⟩ := closed_of_take_eq hi htake
  have hlength : (tokens.take i).length = i := List.length_take_of_le hi.le
  have hdrop : (closed tokens).drop i = tokens[i] :: (closed tokens).drop (i + 1) := by
    conv_lhs => rw [hclosed, List.drop_left' hlength]
  have hdrop' : (closed tokens').drop i = tokens[i] :: (closed tokens').drop (i + 1) := by
    conv_lhs => rw [hclosed', List.drop_left' hlength]
  rw [hdrop] at hrun heq
  refine ⟨hi'.le, _, run_eq_error_of_behind hclosed hclosed' (List.cons_ne_nil _ _) rfl hrun,
    hdrop'.symm, ?_⟩
  exact heq

end FailsAt

end Places

/-- The parser decides on the shortest prefix. Every failure is found at a token or behind all of
them, and a token list that is the same up to that token fails there in the same way. Nothing
behind an end marker matters, and the marker is as good as the end of the list, except that an error
of nesting may be reported at another place. An end is unexpected only when all tokens before the
first end marker have been gone over, and any other token only when it is one of these. -/
theorem shortest_prefix_decides (g : Grammar) :
    (∀ tokens x, g.parseTokens tokens = .error x → ∃ i, FailsAt g tokens i x) ∧
    (∀ tokens i x, FailsAt g tokens i x → i < tokens.length →
      ∀ tokens', tokens'.take (i + 1) = tokens.take (i + 1) →
        FailsAt g tokens' i x ∧ g.parseTokens tokens' = .error x) ∧
    (∀ tokens o rest rest', g.parseTokens (tokens ++ ⟨.eof, o⟩ :: rest)
      = g.parseTokens (tokens ++ ⟨.eof, o⟩ :: rest')) ∧
    (∀ tokens o rest, g.parseTokens (tokens ++ ⟨.eof, o⟩ :: rest) = g.parseTokens tokens ∨
      ∃ o', g.parseTokens (tokens ++ ⟨.eof, o⟩ :: rest) = .error (.nestingTooDeep o) ∧
        g.parseTokens tokens = .error (.nestingTooDeep o')) ∧
    (∀ tokens i expected, FailsAt g tokens i (.unexpectedEof expected) →
      i = (beforeEof tokens).length) ∧
    ∀ tokens i kind expected offset, FailsAt g tokens i (.unexpectedToken kind expected offset) →
      i < (beforeEof tokens).length := by
  have hclosed (tokens : List Token) (o : ℕ) (rest : List Token) :
      ∃ rest', closed (tokens ++ ⟨.eof, o⟩ :: rest) = tokens ++ ⟨.eof, o⟩ :: rest' :=
    ⟨_, List.append_assoc _ _ _⟩
  refine ⟨fun _ _ h => exists_failsAt h, fun tokens i x h hi tokens' htake => ?front,
    fun tokens o rest rest' => ?behind, fun tokens o rest => ?marker,
    fun _ _ _ h => h.eq_length_beforeEof, fun _ _ _ _ _ h => h.lt_length_beforeEof⟩
  case front =>
    have hfails : FailsAt g tokens' i x := h.of_take_eq hi htake
    exact ⟨hfails, hfails.parseTokens_eq_error⟩
  case behind =>
    obtain ⟨after, hafter⟩ := hclosed tokens o rest
    obtain ⟨after', hafter'⟩ := hclosed tokens o rest'
    obtain heq | ⟨herror, herror'⟩ := parseWithin_of_eof g .standard hafter hafter'
    · exact heq
    · exact herror.trans herror'.symm
  case marker =>
    obtain ⟨after, hafter⟩ := hclosed tokens o rest
    exact (parseWithin_of_eof g .standard hafter rfl).imp_right fun h => ⟨_, h⟩

/-- A comma for an operand, and nothing for one. -/
theorem shortest_prefix_decides_standard :
    let broken : List Token := [⟨.mark .leftParen, 0⟩, ⟨.mark .comma, 1⟩, ⟨.int 1, 2⟩]
    let short : List Token := [⟨.mark .leftParen, 0⟩]
    let x : SyntaxError := .unexpectedToken (.mark .comma) .operand 1
    (∃ i, FailsAt .standard broken i x) ∧
      Grammar.standard.parseTokens [⟨.mark .leftParen, 0⟩, ⟨.mark .comma, 1⟩] = .error x ∧
      1 = (beforeEof short).length ∧ 1 < (beforeEof broken).length := by
  intro broken short x
  obtain ⟨hplace, hfront, -, -, heof, htoken⟩ := shortest_prefix_decides .standard
  have hbroken : FailsAt .standard broken 1 x := ⟨by decide, _, rfl, rfl, rfl⟩
  have hshort : FailsAt .standard short 1 (.unexpectedEof .operand) := ⟨le_rfl, _, rfl, rfl, rfl⟩
  exact ⟨hplace broken x rfl, (hfront broken 1 x hbroken (by decide) _ rfl).2,
    heof short 1 _ hshort, htoken broken 1 _ _ _ hbroken⟩

end Cohort.Parser
