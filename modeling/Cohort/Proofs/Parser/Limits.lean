import Cohort.Grammar.Standard
import Cohort.Proofs.Parser.Fuel
import Cohort.Proofs.Parser.Relations
import Cohort.Proofs.Parser.Soundness
import Mathlib

/-!
The parser with limits against the one without. Both go the same way until the first one finds that
a limit has been passed, so that the limits filter what the other one reads: trees that keep to
them come through as they are, and everything else is turned down.
-/
namespace Cohort.Parser

/-- A reader does what another one does or fails for a cause of its own. -/
def Follows {α : Type} (cause : Cause) (x y : Reader α) : Prop :=
  ∀ s, x s = y s ∨ ∃ tokens, x s = .error ⟨cause, tokens⟩

/-- A reader does what another one does or finds that a limit has been passed. The other one knows
of no limit. -/
structure Filters {α : Type} (x y : Reader α) : Prop where
  unlimited (s : State) (tokens : List Token) : y s ≠ .error ⟨.tooDeep, tokens⟩
  follows (s : State) : x s = y s ∨ ∃ tokens, x s = .error ⟨.tooDeep, tokens⟩

section Bind
variable {α β : Type} {cause : Cause} {x y : Reader α} {f f' : α → Reader β}

theorem Follows.bind (h : Follows cause x y) (hf : ∀ a, Follows cause (f a) (f' a)) :
    Follows cause (x >>= f) (y >>= f') := by
  intro s
  obtain heq | ⟨tokens, herror⟩ := h s
  · cases hy : y s with
    | error fault => exact .inl (by rw [bind_of_error (heq.trans hy), bind_of_error hy])
    | ok result =>
      obtain ⟨a, s'⟩ := result
      rw [bind_of_ok (heq.trans hy), bind_of_ok hy]
      exact hf a s'
  · exact .inr ⟨tokens, bind_of_error herror⟩

/-- A reader that never fails has nothing to do with limits. -/
theorem Filters.total (h : ∀ s, ∃ result, x s = .ok result) : Filters x x where
  unlimited s tokens herror := by
    obtain ⟨result, hok⟩ := h s
    cases hok.symm.trans herror
  follows _ := .inl rfl

theorem Filters.bind (h : Filters x y) (hf : ∀ a, Filters (f a) (f' a)) :
    Filters (x >>= f) (y >>= f') where
  unlimited s tokens herror := by
    obtain herror | ⟨a, s', -, herror⟩ := bind_eq_error.mp herror
    · exact h.unlimited s tokens herror
    · exact (hf a).unlimited s' tokens herror
  follows := Follows.bind h.follows fun a => (hf a).follows

end Bind

section Steps
variable {limits : Limits} {height : ℕ}

theorem enter_unbounded (s : State) : enter .unbounded s = .ok ((), s.opened) :=
  enter_eq_ok.mpr ⟨rfl, rfl⟩

theorem setHeight_unbounded (s : State) : setHeight .unbounded height s = .ok ((), s.rise height) :=
  setHeight_eq_ok.mpr ⟨rfl, rfl⟩

lemma filters_fail {α : Type} {cause : Cause} (h : cause ≠ .tooDeep) :
    Filters (fail cause : Reader α) (fail cause) where
  unlimited s tokens herror := by
    cases herror
    exact h rfl
  follows _ := .inl rfl

lemma filters_enter : Filters (enter limits) (enter .unbounded) where
  unlimited s tokens herror := by cases (enter_unbounded s).symm.trans herror
  follows s := by
    rw [enter_unbounded, enter_apply]
    split_ifs
    · exact .inl rfl
    · exact .inr ⟨_, rfl⟩

lemma filters_setHeight : Filters (setHeight limits height) (setHeight .unbounded height) where
  unlimited s tokens herror := by cases (setHeight_unbounded s).symm.trans herror
  follows s := by
    rw [setHeight_unbounded, setHeight_apply]
    split_ifs
    · exact .inl rfl
    · exact .inr ⟨_, rfl⟩

end Steps

/-- What a parser does is filtered by limits step by step. -/
theorem respects_filters (g : Grammar) (limits : Limits) :
    Respects (fun _ => True) g g limits .unbounded fun _ => Filters where
  precedence _ _ := rfl
  isUnary _ _ := rfl
  pure _ := .total fun _ => ⟨_, rfl⟩
  fail h := filters_fail h
  bind h hf := h.bind hf
  look hf := ⟨fun s => (hf s s ⟨rfl, rfl, trivial⟩).unlimited s,
    fun s => (hf s s ⟨rfl, rfl, trivial⟩).follows s⟩
  advance := .total fun _ => ⟨_, rfl⟩
  enter := filters_enter
  leave := .total fun _ => ⟨_, rfl⟩
  putHeight _ := .total fun _ => ⟨_, rfl⟩
  setHeight _ := filters_setHeight

theorem filters_whole (g : Grammar) (limits : Limits) (fuel : ℕ) :
    Filters (whole g limits fuel) (whole g .unbounded fuel) :=
  (respects_filters g limits).whole fuel

theorem allowsNesting_standard {levels : ℕ} :
    Limits.standard.allowsNesting levels = true ↔ levels ≤ 64 := decide_eq_true_iff

theorem allowsHeight_standard {height : ℕ} :
    Limits.standard.allowsHeight height = true ↔ height ≤ 256 := decide_eq_true_iff

section Whole
variable {g : Grammar} {limits : Limits} {tokens : List Token} {tree : Expr} {s : State}

/-- A token list spells a tree, with `n` levels open at once, and the end marker that follows has
others after it. -/
def Spells (g : Grammar) (tokens : List Token) (tree : Expr) (n : ℕ) (rest : List Token) : Prop :=
  ∃ after, Reads g .expression (closed tokens) after tree n ∧ (current after).kind.isEof = true ∧
    rest = after.tail

/-- A run reads what its tokens spell within the limits, and the state it ends in tells how high
and how deep the tree is. -/
theorem run_eq_ok (hone : limits.allowsHeight 1 = true) (hzero : limits.allowsNesting 0 = true) :
    run g limits tokens = .ok (tree, s) ↔
      ∃ n rest, Spells g tokens tree n rest ∧ limits.allowsNesting n = true ∧
        limits.allowsHeight tree.height = true ∧ s = ⟨rest, 0, n, tree.height⟩ := by
  have hstart : Ready limits (start tokens) := ⟨hzero, le_rfl⟩
  have hafter (after : List Token) (n : ℕ) :
      (start tokens).after after n tree.height = ⟨after, 0, n, tree.height⟩ := by
    simp [State.after, start]
  constructor
  · intro h
    rw [run, whole] at h
    obtain ⟨tree', s', hrun, h⟩ := bind_eq_ok.mp h
    obtain ⟨after, n, hreads, hnesting, hheight, rfl⟩ :=
      sound g hone (fuelFor tokens) .expression 0 hrun hstart trivial
    rw [get_bind, State.tokens_after] at h
    split_ifs at h with heof
    · cases h
      refine ⟨n, _, ⟨after, hreads, heof, rfl⟩, by simpa [start] using hnesting, hheight, ?_⟩
      exact congrArg (State.move · after.tail) (hafter after n)
    · cases h
  · rintro ⟨n, rest, ⟨after, hreads, heof, rfl⟩, hnesting, hheight, rfl⟩
    have hrun : expression g limits (fuelFor tokens) (start tokens)
        = .ok (tree, (start tokens).after after n tree.height) :=
      complete limits hreads _ 0 _ rfl hstart trivial (by simpa [start] using hnesting) hheight
        le_rfl
    rw [run, whole, bind_of_ok hrun, get_bind, State.tokens_after, if_pos heof, hafter]
    rfl

theorem parseWithin_eq_ok :
    parseWithin g limits tokens = .ok tree ↔ ∃ s, run g limits tokens = .ok (tree, s) := by
  rw [parseWithin]
  rcases run g limits tokens with fault | ⟨tree', s'⟩ <;> simp

theorem parseWithin_eq_error {x : SyntaxError} :
    parseWithin g limits tokens = .error x ↔
      ∃ fault, run g limits tokens = .error fault ∧ fault.toSyntaxError = x := by
  rw [parseWithin]
  rcases run g limits tokens with fault | ⟨tree', s'⟩ <;> simp

/-- Under limits, a token list is parsed as without them or is found to be nested too deep. -/
theorem parseWithin_filters (g : Grammar) (limits : Limits) (tokens : List Token) :
    parseWithin g limits tokens = parseWithin g .unbounded tokens ∨
      ∃ o, parseWithin g limits tokens = .error (.nestingTooDeep o) := by
  unfold parseWithin
  obtain heq | ⟨left, htooDeep⟩ := (filters_whole g limits (fuelFor tokens)).follows (start tokens)
  · rw [show run g limits tokens = run g .unbounded tokens from heq]
    exact .inl rfl
  · rw [show run g limits tokens = .error ⟨.tooDeep, left⟩ from htooDeep]
    exact .inr ⟨_, rfl⟩

theorem cause_ne_outOfFuel {fault : Fault} (h : run g limits tokens = .error fault) :
    fault.cause ≠ .outOfFuel := by
  have hfrugal : Frugal (closed tokens).length 0 (run g limits tokens) :=
    frugal_whole g limits (start tokens) le_rfl
  rw [h] at hfrugal
  exact hfrugal

theorem toSyntaxError_ne_nestingTooDeep {fault : Fault}
    (h : run g .unbounded tokens = .error fault) (o : ℕ) :
    fault.toSyntaxError ≠ .nestingTooDeep o := by
  obtain ⟨cause, left⟩ := fault
  cases cause with
  | expected expected =>
    dsimp only [Fault.toSyntaxError]
    split_ifs <;> simp
  | tooDeep => exact absurd h ((filters_whole g .unbounded _).unlimited _ left)
  | outOfFuel => exact absurd rfl (cause_ne_outOfFuel h)

/-- Limits let a tree through as it is, or find that it goes beyond them. -/
theorem run_of_unbounded (limits : Limits) (hone : limits.allowsHeight 1 = true)
    (hzero : limits.allowsNesting 0 = true) (h : run g .unbounded tokens = .ok (tree, s)) :
    if limits.allowsHeight tree.height = true ∧ limits.allowsNesting s.deepest = true then
      run g limits tokens = .ok (tree, s)
    else ∃ left, run g limits tokens = .error ⟨.tooDeep, left⟩ := by
  obtain ⟨n, rest, hspells, -, -, rfl⟩ := (run_eq_ok rfl rfl).mp h
  split_ifs with hallowed
  · exact (run_eq_ok hone hzero).mpr ⟨n, rest, hspells, hallowed.2, hallowed.1, rfl⟩
  · obtain heq | htooDeep := (filters_whole g limits (fuelFor tokens)).follows (start tokens)
    · obtain ⟨n', rest', -, hnesting, hheight, heq⟩ := (run_eq_ok hone hzero).mp (heq.trans h)
      cases heq
      exact absurd ⟨hheight, hnesting⟩ hallowed
    · exact htooDeep

theorem parseTokens_of_run (h : run g .unbounded tokens = .ok (tree, s)) :
    if tree.height ≤ 256 ∧ s.deepest ≤ 64 then g.parseTokens tokens = .ok tree
    else ∃ o, g.parseTokens tokens = .error (.nestingTooDeep o) := by
  have hfilter := run_of_unbounded .standard rfl rfl h
  simp only [allowsHeight_standard, allowsNesting_standard] at hfilter
  split_ifs at hfilter ⊢
  · exact parseWithin_eq_ok.mpr ⟨s, hfilter⟩
  · obtain ⟨left, htooDeep⟩ := hfilter
    exact ⟨_, parseWithin_eq_error.mpr ⟨_, htooDeep, rfl⟩⟩

/-- Without limits a token list is read as a tree, and with them it is as long as the tree is at
most 256 high and at most 64 levels were open at once. Beyond that it is nested too deep. -/
def ReadAs (g : Grammar) (tokens : List Token) (tree : Expr) : Prop :=
  ∃ s, run g .unbounded tokens = .ok (tree, s) ∧
    if tree.height ≤ 256 ∧ s.deepest ≤ 64 then g.parseTokens tokens = .ok tree
    else ∃ o, g.parseTokens tokens = .error (.nestingTooDeep o)

theorem readAs_iff : ReadAs g tokens tree ↔ parseWithin g .unbounded tokens = .ok tree := by
  rw [parseWithin_eq_ok]
  constructor
  · rintro ⟨s, hrun, -⟩
    exact ⟨s, hrun⟩
  · rintro ⟨s, hrun⟩
    exact ⟨s, hrun, parseTokens_of_run hrun⟩

theorem ReadAs.parseTokens_eq_ok (h : ReadAs g tokens tree)
    (hrun : run g .unbounded tokens = .ok (tree, s)) (hheight : tree.height ≤ 256)
    (hdeepest : s.deepest ≤ 64) : g.parseTokens tokens = .ok tree := by
  obtain ⟨s', hrun', hlimits⟩ := h
  cases hrun.symm.trans hrun'
  rwa [if_pos ⟨hheight, hdeepest⟩] at hlimits

/-- How high the tree of a run is and how many levels were open at once. -/
theorem exists_run_eq_ok {height deepest : ℕ}
    (h : (run g limits tokens).toOption.map (fun result => (result.1.height, result.2.deepest))
      = some (height, deepest)) :
    ∃ tree s, run g limits tokens = .ok (tree, s) ∧ tree.height = height ∧
      s.deepest = deepest := by
  cases hrun : run g limits tokens with
  | error fault =>
    rw [hrun] at h
    cases h
  | ok result =>
    rw [hrun] at h
    cases h
    exact ⟨result.1, result.2, rfl, rfl, rfl⟩

end Whole

/-- The limits are a filter on what the parser does without them. An error stays what it is, unless
a limit is passed before it. A tree comes through when it is at most 256 high and at most 64 levels
were open at once, and is nested too deep otherwise. -/
theorem parseTokens_filters (g : Grammar) (tokens : List Token) :
    (∀ x, parseWithin g .unbounded tokens = .error x →
      (∀ o, x ≠ .nestingTooDeep o) ∧
        (g.parseTokens tokens = .error x ∨
          ∃ o, g.parseTokens tokens = .error (.nestingTooDeep o))) ∧
    (∀ tree s, run g .unbounded tokens = .ok (tree, s) →
      if tree.height ≤ 256 ∧ s.deepest ≤ 64 then g.parseTokens tokens = .ok tree
      else ∃ o, g.parseTokens tokens = .error (.nestingTooDeep o)) ∧
    ∀ tree, g.parseTokens tokens = .ok tree → tree.height ≤ 256 := by
  unfold Grammar.parseTokens
  refine ⟨fun x h => ?error, fun tree s h => ?tree, fun tree h => ?height⟩
  case error =>
    refine ⟨?_, h ▸ parseWithin_filters g .standard tokens⟩
    obtain ⟨fault, hrun, rfl⟩ := parseWithin_eq_error.mp h
    exact toSyntaxError_ne_nestingTooDeep hrun
  case tree => exact parseTokens_of_run h
  case height =>
    obtain ⟨s, hrun⟩ := parseWithin_eq_ok.mp h
    obtain ⟨n, rest, -, -, hheight, -⟩ := (run_eq_ok rfl rfl).mp hrun
    exact allowsHeight_standard.mp hheight

/-- An error, a tree, an array of 65 groups, of which one at a time is open, and a row of unary
operators that is one too long. -/
theorem parseTokens_filters_standard :
    let broken : List Token := [⟨.mark .leftParen, 0⟩]
    let flat : List Token := [⟨.operator "!", 0⟩, ⟨.identifier "a", 1⟩]
    let item : List Token :=
      [⟨.mark .leftParen, 0⟩, ⟨.identifier "a", 0⟩, ⟨.mark .rightParen, 0⟩, ⟨.mark .comma, 0⟩]
    let siblings : List Token :=
      ⟨.mark .leftBracket, 0⟩ :: (List.replicate 65 item).flatten ++ [⟨.mark .rightBracket, 0⟩]
    let deep : List Token := List.replicate 64 ⟨.operator "!", 0⟩ ++ [⟨.identifier "a", 64⟩]
    Grammar.standard.parseTokens broken = .error (.unexpectedEof .operand) ∧
      Grammar.standard.parseTokens flat = .ok (.unary "!" (.identifier "a")) ∧
      (Expr.unary "!" (.identifier "a")).height ≤ 256 ∧
      (∃ tree, Grammar.standard.parseTokens siblings = .ok tree) ∧
      ∃ o, Grammar.standard.parseTokens deep = .error (.nestingTooDeep o) := by
  intro broken flat item siblings deep
  have hbroken : Grammar.standard.parseTokens broken = .error (.unexpectedEof .operand) := by
    have hfilter := ((parseTokens_filters .standard broken).1 (.unexpectedEof .operand) rfl).2
    refine hfilter.resolve_right ?_
    rintro ⟨o, h⟩
    cases h
  have hflat : Grammar.standard.parseTokens flat = .ok (.unary "!" (.identifier "a")) := by
    have hfilter := (parseTokens_filters .standard flat).2.1 _ ⟨[], 0, 2, 2⟩ rfl
    rwa [if_pos ⟨by decide, by decide⟩] at hfilter
  refine ⟨hbroken, hflat, (parseTokens_filters .standard flat).2.2 _ hflat, ?siblings, ?deep⟩
  case siblings =>
    obtain ⟨tree, s, hrun, hheight, hdeepest⟩ :=
      @exists_run_eq_ok .standard .unbounded siblings 2 3 (by decide +kernel)
    have hfilter := (parseTokens_filters .standard siblings).2.1 tree s hrun
    rw [if_pos (by omega)] at hfilter
    exact ⟨tree, hfilter⟩
  case deep =>
    obtain ⟨tree, s, hrun, hheight, hdeepest⟩ :=
      @exists_run_eq_ok .standard .unbounded deep 65 65 (by decide +kernel)
    have hfilter := (parseTokens_filters .standard deep).2.1 tree s hrun
    rwa [if_neg (by omega)] at hfilter

end Cohort.Parser
