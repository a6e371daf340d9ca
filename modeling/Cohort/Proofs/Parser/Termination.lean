import Cohort.Proofs.Parser.Limits
import Mathlib

/-!
The parser comes to an end. The fuel that a call needs is bounded by the tokens that are left, and
what is read with enough of it is read with any more. So fuel is no part of what the parser does.
-/
namespace Cohort.Parser

/-- With `enough` fuel a reader comes to an end that is not one for want of fuel, and with more
fuel it comes to the same end. -/
structure Terminates (x : ℕ → Reader Expr) (enough : ℕ) (s : State) : Prop where
  fueled (tokens : List Token) : x enough s ≠ .error ⟨.outOfFuel, tokens⟩
  settled (fuel : ℕ) : enough ≤ fuel → x fuel s = x enough s

namespace Terminates
variable {x : ℕ → Reader Expr} {enough enough' count gone : ℕ} {s : State}

theorem of_frugal (h : Frugal count gone (x enough s))
    (hfollows : ∀ fuel, enough ≤ fuel → Follows .outOfFuel (x enough) (x fuel)) :
    Terminates x enough s := by
  have hfueled (tokens : List Token) : x enough s ≠ .error ⟨.outOfFuel, tokens⟩ := by
    intro herror
    rw [herror] at h
    exact h rfl
  refine ⟨hfueled, fun fuel hle => ?_⟩
  obtain heq | ⟨tokens, herror⟩ := hfollows fuel hle s
  · exact heq.symm
  · exact absurd herror (hfueled tokens)

theorem mono (h : Terminates x enough s) (hle : enough ≤ enough') : Terminates x enough' s := by
  have heq : x enough' s = x enough s := h.settled enough' hle
  refine ⟨fun tokens => ?_, fun fuel hfuel => ?_⟩
  · rw [heq]
    exact h.fueled tokens
  · rw [heq]
    exact h.settled fuel (hle.trans hfuel)

end Terminates

section Related
variable {g g' : Grammar} {limits limits' : Limits} {fine : TokenKind → Prop}
  {rel : (α : Type) → Reader α → Reader α → Prop} {fuel fuel' : ℕ}

/-- The readers of all forms are related where those of all phrases are. -/
theorem Respects.related_reader (h : Respects fine g g' limits limits' rel)
    (ih : Related g g' limits limits' rel fuel fuel') (form : Form) (height : ℕ) :
    rel Expr (form.reader g limits fuel height) (form.reader g' limits' fuel' height) := by
  cases form with
  | expression => exact ih.expression
  | conditional => exact ih.conditional
  | binary least => exact ih.binary least
  | binaryTail least left => exact ih.binaryTail least left height
  | unary => exact ih.unary
  | suffixed => exact ih.suffixed
  | suffixes subject => exact ih.suffixes subject height
  | primary => exact ih.primary
  | list close => exact h.bind (ih.list close height) fun items => h.pure (Expr.array items)
  | fields => exact h.bind (ih.fields height) fun entries => h.pure (Expr.object entries)

end Related

section Fuel
variable (g : Grammar) (limits : Limits)

/-- With more fuel a parser does the same, unless it runs out of the little that it has. -/
theorem respects_follows :
    Respects (fun _ => True) g g limits limits fun _ => Follows .outOfFuel where
  precedence _ _ := rfl
  isUnary _ _ := rfl
  pure _ _ := .inl rfl
  fail _ _ := .inl rfl
  bind h hf := h.bind hf
  look hf s := hf s s ⟨rfl, rfl, trivial⟩ s
  advance _ := .inl rfl
  enter _ := .inl rfl
  leave _ := .inl rfl
  putHeight _ _ := .inl rfl
  setHeight _ _ := .inl rfl

theorem related_follows {fuel fuel' : ℕ} (hle : fuel ≤ fuel') :
    Related g g limits limits (fun _ => Follows .outOfFuel) fuel fuel' :=
  (respects_follows g limits).related_of_le (fun _ _ => .inr ⟨_, rfl⟩) hle

theorem terminates_reader (form : Form) (height : ℕ) (s : State) :
    Terminates (fun fuel => form.reader g limits fuel height) (form.fuel s.tokens.length) s :=
  .of_frugal (suffices_fuel g limits _ form height s le_rfl) fun _ hle =>
    (respects_follows g limits).related_reader (related_follows g limits hle) form height

theorem terminates_whole (s : State) :
    Terminates (whole g limits) (8 * s.tokens.length + 8) s :=
  .of_frugal (frugal_whole g limits s le_rfl) fun _ hle =>
    (respects_follows g limits).related_whole (related_follows g limits hle)

/-- More fuel than a run starts with changes nothing. -/
theorem whole_eq_run {tokens : List Token} {fuel : ℕ} (hle : fuelFor tokens ≤ fuel) :
    whole g limits fuel (start tokens) = run g limits tokens :=
  (terminates_whole g limits (start tokens)).settled fuel hle

end Fuel

end Cohort.Parser
