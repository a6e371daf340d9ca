import Cohort.Proofs.Parser.Consumed
import Cohort.Proofs.Parser.Termination
import Mathlib

/-!
The books of the parser balance. A call that reads a tree goes over at least one token and over no
end marker, closes all levels that it opens, and leaves the height of the tree on record. This holds
of a call in any state, whatever has been read before, so that it holds of all calls on the way.
-/
namespace Cohort.Parser

/-- The books balance where a tree is read on the way from one state to another: there is at least
one token between them and no end marker, the same levels are open, and the height on record is
that of the tree. -/
structure Balances (s : State) (tree : Expr) (s' : State) : Prop where
  consumed : ∃ consumed, consumed ≠ [] ∧ s.tokens = consumed ++ s'.tokens ∧
    ∀ token ∈ consumed, token.kind.isEof = false
  depth : s'.depth = s.depth
  height : s'.height = tree.height

def State.marked (s : State) (deepest : ℕ) : State := { s with deepest }

/-- Where the first reader succeeds, the second one does the same, wherever the mark stands that it
starts from. -/
def Repeats {α : Type} (x y : Reader α) : Prop :=
  ∀ s a s', x s = .ok (a, s') → ∀ mark, ∃ mark', y (s.marked mark) = .ok (a, s'.marked mark')

namespace Repeats
variable {α β : Type} {x y : Reader α} {f f' : α → Reader β}

theorem bind (h : Repeats x y) (hf : ∀ a, Repeats (f a) (f' a)) :
    Repeats (x >>= f) (y >>= f') := by
  intro s b s' hrun mark
  obtain ⟨a, m, hx, hfx⟩ := bind_eq_ok.mp hrun
  obtain ⟨mark', hy⟩ := h s a m hx mark
  rw [bind_of_ok hy]
  exact hf a m b s' hfx mark'

/-- A reader that never fails, and does to a state what does not touch the mark. -/
theorem total {a : α} (change : State → State) (h : ∀ s, x s = .ok (a, change s))
    (hmark : ∀ s mark, change (s.marked mark) = (change s).marked mark) : Repeats x x := by
  intro s b s' hrun mark
  rw [h] at hrun
  cases hrun
  exact ⟨mark, by rw [h, hmark]⟩

end Repeats

/-- A success owes nothing to limits, and nothing to the mark, which no step reads. -/
theorem respects_repeats (g : Grammar) (limits : Limits) :
    Respects (fun _ => True) g g limits .unbounded fun _ => Repeats where
  precedence _ _ := rfl
  isUnary _ _ := rfl
  pure _ := .total id (fun _ => rfl) fun _ _ => rfl
  fail _ _ _ _ h := by cases h
  bind h hf := h.bind hf
  look hf s a s' h mark := hf s (s.marked mark) ⟨rfl, rfl, trivial⟩ s a s' h mark
  advance := .total (fun s => s.move s.tokens.tail) (fun _ => rfl) fun _ _ => rfl
  enter := by
    intro s _ s' h mark
    obtain ⟨-, rfl⟩ := enter_eq_ok.mp h
    exact ⟨_, enter_unbounded (s.marked mark)⟩
  leave := .total State.closed (fun _ => rfl) fun _ _ => rfl
  putHeight height := .total (State.rise · height) (fun _ => rfl) fun _ _ => rfl
  setHeight _ := by
    intro s _ s' h mark
    obtain ⟨-, rfl⟩ := setHeight_eq_ok.mp h
    exact ⟨mark, setHeight_unbounded (s.marked mark)⟩

section Phrases
variable {g : Grammar} {limits : Limits} {form : Form} {fuel height count : ℕ} {s s' : State}
  {tree : Expr} {before after : List Token}

theorem Form.starts_marked (mark : ℕ) :
    form.Starts limits height (s.marked mark) ↔ form.Starts limits height s := by
  cases form <;> rfl

/-- What is read in any state is spelled by the tokens that have been gone over. As many levels are
open as before, and the height is that of the tree. -/
theorem reads_of_reader (h : form.reader g limits fuel height s = .ok (tree, s'))
    (hstart : form.Starts .unbounded height s) :
    (∃ n, Reads g form s.tokens s'.tokens tree n) ∧ s'.depth = s.depth ∧
      s'.height = form.heightAfter height tree := by
  have hrepeats := respects_repeats g limits
  obtain ⟨mark, hrun⟩ :=
    hrepeats.related_reader (hrepeats.related fuel) form height s tree s' h s.depth
  have hready : Ready .unbounded (s.marked s.depth) := ⟨rfl, le_rfl⟩
  obtain ⟨after, n, hreads, -, -, heq⟩ :=
    sound g rfl fuel form height hrun hready ((Form.starts_marked s.depth).mpr hstart)
  obtain ⟨rfl, hdepth, -, hheight⟩ := State.mk.inj heq
  exact ⟨⟨n, hreads⟩, hdepth, hheight⟩

/-- Some token has been gone over if there are fewer left. -/
theorem Consumed.exists_ne_nil (h : Consumed before after) (hlt : after.length < before.length) :
    ∃ consumed, consumed ≠ [] ∧ before = consumed ++ after ∧
      ∀ token ∈ consumed, token.kind.isEof = false := by
  obtain ⟨consumed, rfl, hkinds⟩ := h
  refine ⟨consumed, ?_, rfl, hkinds⟩
  rintro rfl
  exact lt_irrefl _ hlt

/-- The forms whose readers make a tree by themselves. Tails go on after one, and lists and fields
are what is inside one. -/
def Form.MakesTree : Form → Prop
  | .binaryTail _ _ | .suffixes _ | .list _ | .fields => False
  | _ => True

namespace Form.MakesTree

theorem starts (h : form.MakesTree) : form.Starts limits height s := by
  cases form with
  | binaryTail | suffixes | list | fields => exact h.elim
  | _ => trivial

theorem heightAfter_eq (h : form.MakesTree) : form.heightAfter height tree = tree.height := by
  cases form with
  | binaryTail | suffixes | list | fields => exact h.elim
  | _ => rfl

theorem shortest_eq (h : form.MakesTree) : form.shortest = 1 := by
  cases form with
  | binaryTail | suffixes | list | fields => exact h.elim
  | _ => rfl

theorem fuel_le (h : form.MakesTree) : form.fuel count ≤ 8 * count + 8 := by
  cases form with
  | binaryTail | suffixes | list | fields => exact h.elim
  | _ => simp [Form.fuel]

theorem terminates (h : form.MakesTree) :
    Terminates (fun fuel => form.reader g limits fuel height) (8 * s.tokens.length + 8) s :=
  (terminates_reader g limits form height s).mono h.fuel_le

theorem balances (h : form.MakesTree)
    (hrun : form.reader g limits fuel height s = .ok (tree, s')) : Balances s tree s' := by
  obtain ⟨⟨n, hreads⟩, hdepth, hheight⟩ := reads_of_reader hrun h.starts
  have hlength := hreads.length_le
  rw [h.shortest_eq] at hlength
  have hconsumed : Consumed s.tokens (remaining (form.reader g limits fuel height s)) :=
    allCareful g limits fuel form height s
  rw [hrun] at hconsumed
  exact ⟨hconsumed.exists_ne_nil hlength, hdepth, hheight.trans h.heightAfter_eq⟩

end Form.MakesTree

end Phrases

/-- The parser comes to an end on every token list, with or without end markers in it. So does
every call that is to make a tree, in any state. When it has made one, it has gone over at least
one token and over no end marker, as many levels are open as before, and the height on record is
that of the tree. -/
theorem readers_balance (g : Grammar) (limits : Limits) :
    (∀ tokens, Terminates (whole g limits) (fuelFor tokens) (start tokens)) ∧
    ∀ least, ∀ x ∈ [expression g limits, conditional g limits, binary g limits least,
        unary g limits, suffixed g limits, primary g limits],
      ∀ s, Terminates x (8 * s.tokens.length + 8) s ∧
        ∀ fuel tree s', x fuel s = .ok (tree, s') → Balances s tree s' := by
  refine ⟨fun tokens => terminates_whole g limits (start tokens), fun least => ?_⟩
  have hform (form : Form) (h : form.MakesTree) (s : State) :
      Terminates (fun fuel => form.reader g limits fuel 0) (8 * s.tokens.length + 8) s ∧
        ∀ fuel tree s', form.reader g limits fuel 0 s = .ok (tree, s') → Balances s tree s' :=
    ⟨h.terminates, fun _ _ _ hrun => h.balances hrun⟩
  simp only [List.forall_mem_cons]
  exact ⟨hform .expression trivial, hform .conditional trivial, hform (.binary least) trivial,
    hform .unary trivial, hform .suffixed trivial, hform .primary trivial, by simp⟩

/-- A conditional on the way to the end marker that stands behind it, with an operator behind that
one. -/
theorem readers_balance_standard :
    let tokens : List Token := [⟨.identifier "a", 0⟩, ⟨.mark .question, 2⟩, ⟨.identifier "b", 4⟩,
      ⟨.mark .colon, 6⟩, ⟨.int 1, 8⟩, ⟨.eof, 9⟩, ⟨.operator "+", 10⟩]
    let tree : Expr := .conditional (.identifier "a") (.identifier "b") (.literal (.int 1))
    let s : State := (start tokens).opened
    let s' : State := ⟨[⟨.eof, 9⟩, ⟨.operator "+", 10⟩, ⟨.eof, 10⟩], 1, 2, 2⟩
    fuelFor tokens ≤ 100 ∧
      whole .standard .standard 100 (start tokens) = run .standard .standard tokens ∧
      conditional .standard .standard 71 s = .ok (tree, s') ∧ Balances s tree s' := by
  intro tokens tree s s'
  obtain ⟨hwhole, hreaders⟩ := readers_balance .standard .standard
  have hfuel : fuelFor tokens ≤ 100 := by decide
  have hrun : conditional .standard .standard 71 s = .ok (tree, s') := rfl
  obtain ⟨-, hbalances⟩ := hreaders Int32.minValue (conditional .standard .standard) (by simp) s
  exact ⟨hfuel, (hwhole tokens).settled 100 hfuel, hrun, hbalances 71 tree s' hrun⟩

end Cohort.Parser
