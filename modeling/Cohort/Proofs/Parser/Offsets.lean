import Cohort.Proofs.Parser.Limits
import Cohort.Proofs.Parser.Relations
import Mathlib

/-!
The parser goes by the kinds of tokens and not by their places, which it does no more with than to
report one when it fails. So tokens of the same kinds are parsed as the same tree.
-/
namespace Cohort.Parser

def SameKinds (tokens tokens' : List Token) : Prop := tokens.map (·.kind) = tokens'.map (·.kind)

structure Matching (s s' : State) : Prop where
  tokens : SameKinds s.tokens s'.tokens
  depth : s.depth = s'.depth
  deepest : s.deepest = s'.deepest
  height : s.height = s'.height

/-- The same result, or a failure for the same reason at tokens of the same kinds. -/
inductive MatchingResults {α : Type} :
    Except Fault (α × State) → Except Fault (α × State) → Prop where
  | ok {a s s'} (h : Matching s s') : MatchingResults (.ok (a, s)) (.ok (a, s'))
  | error {cause tokens tokens'} (h : SameKinds tokens tokens') :
    MatchingResults (.error ⟨cause, tokens⟩) (.error ⟨cause, tokens'⟩)

def MatchingReaders {α : Type} (x y : Reader α) : Prop :=
  ∀ s s', Matching s s' → MatchingResults (x s) (y s')

section Matching
variable {α β : Type} {x y : Reader α} {f f' : α → Reader β} {s s' : State}
  {tokens tokens' : List Token}

theorem SameKinds.tail (h : SameKinds tokens tokens') : SameKinds tokens.tail tokens'.tail := by
  rw [SameKinds, List.map_tail, List.map_tail, h]

theorem SameKinds.length_eq (h : SameKinds tokens tokens') : tokens.length = tokens'.length := by
  simpa using congrArg List.length h

theorem SameKinds.current_eq (h : SameKinds tokens tokens') :
    (current tokens).kind = (current tokens').kind := by
  cases tokens <;> cases tokens' <;> simp_all [SameKinds, current]

theorem SameKinds.closed (h : SameKinds tokens tokens') :
    SameKinds (closed tokens) (Parser.closed tokens') := by
  rw [SameKinds, Parser.closed, Parser.closed, List.map_append, List.map_append, h]
  rfl

theorem MatchingReaders.bind (h : MatchingReaders x y) (hf : ∀ a, MatchingReaders (f a) (f' a)) :
    MatchingReaders (x >>= f) (y >>= f') := by
  intro s s' hs
  have hresults := h s s' hs
  generalize hx : x s = r, hy : y s' = r' at hresults
  cases hresults with
  | @ok a m m' hm =>
    rw [bind_of_ok hx, bind_of_ok hy]
    exact hf a m m' hm
  | error htokens =>
    rw [bind_of_error hx, bind_of_error hy]
    exact .error htokens

end Matching

variable (g : Grammar) (limits : Limits)

theorem respects_matchingReaders :
    Respects (fun _ => True) g g limits limits fun _ => MatchingReaders where
  precedence _ _ := rfl
  isUnary _ _ := rfl
  pure _ _ _ h := .ok h
  fail _ _ _ h := .error h.tokens
  bind h hf := h.bind hf
  look hf s s' h := hf s s' ⟨h.height, h.tokens.current_eq, trivial⟩ s s' h
  advance _ _ h := .ok ⟨h.tokens.tail, h.depth, h.deepest, h.height⟩
  enter := by
    intro s s' h
    rw [enter_apply, enter_apply, h.depth]
    split_ifs
    · exact .ok ⟨h.tokens, congrArg (· + 1) h.depth, congrArg₂ (max · <| · + 1) h.deepest h.depth,
        h.height⟩
    · exact .error h.tokens
  leave := by
    intro s s' h
    exact .ok ⟨h.tokens, congrArg (· - 1) h.depth, h.deepest, h.height⟩
  putHeight _ _ _ h := .ok ⟨h.tokens, h.depth, h.deepest, rfl⟩
  setHeight height := by
    intro s s' h
    rw [setHeight_apply, setHeight_apply]
    split_ifs
    · exact .ok ⟨h.tokens, h.depth, h.deepest, rfl⟩
    · exact .error h.tokens

variable {g : Grammar} {limits : Limits} {tokens tokens' : List Token} {tree : Expr}

theorem matchingResults_run (g : Grammar) (limits : Limits) (h : SameKinds tokens tokens') :
    MatchingResults (run g limits tokens) (run g limits tokens') := by
  have hfuel : fuelFor tokens = fuelFor tokens' := by
    rw [fuelFor, fuelFor, h.closed.length_eq]
  rw [run, run, hfuel]
  exact (respects_matchingReaders g limits).whole _ _ _ ⟨h.closed, rfl, rfl, rfl⟩

/-- The tree that tokens spell does not depend on their places. -/
theorem parseWithin_of_sameKinds (h : SameKinds tokens tokens')
    (htree : parseWithin g limits tokens = .ok tree) :
    parseWithin g limits tokens' = .ok tree := by
  have hresults := matchingResults_run g limits h
  generalize hrun : run g limits tokens = r, hrun' : run g limits tokens' = r' at hresults
  rw [parseWithin, hrun] at htree
  rw [parseWithin, hrun']
  cases hresults with
  | ok => exact htree
  | error => cases htree

end Cohort.Parser
