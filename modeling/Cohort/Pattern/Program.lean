import Cohort.Pattern.Basic

/-! Patterns as programs of small steps, laid out one after another. -/
namespace Cohort.Pattern

/-- One step of a program; control goes on to the step after it unless it says otherwise. -/
inductive Step where
  | one (set : CharSet)
  | anchor (anchor : Anchor) (ascii : Bool)
  | save (slot : Nat)
  /-- Goes to both places, and prefers what comes of the first. -/
  | fork (first second : Nat)
  | goto (place : Nat)
  | accept

/-- How many steps a pattern takes. -/
def Node.size : Node → Nat
  | .empty => 0
  | .one _ | .anchor _ _ => 1
  | .group _ body => body.size + 2
  | .sequence first second => first.size + second.size
  | .choice first second => first.size + second.size + 2
  | .loop body least most _ =>
    match most with
    | some most => least * body.size + (most - least) * (body.size + 1)
    | none => if least = 0 then body.size + 2 else least * body.size + 1

/-- A fork that prefers the first place if `greedy`, and the second otherwise. -/
def forkBy (greedy : Bool) (first second : Nat) : Step :=
  if greedy then .fork first second else .fork second first

/-- Copies of a body one after another, `make` being given the place of each. -/
def copies (make : Nat → List Step) (size : Nat) : Nat → Nat → List Step
  | 0, _ => []
  | count + 1, base => make base ++ copies make size count (base + size)

/-- Copies of a body each of which may be left out together with all that follow it. -/
def optionalCopies (make : Nat → List Step) (size : Nat) (greedy : Bool) (finish : Nat) :
    Nat → Nat → List Step
  | 0, _ => []
  | count + 1, base =>
    forkBy greedy (base + 1) finish :: make (base + 1)
      ++ optionalCopies make size greedy finish count (base + 1 + size)

/-- The steps of a pattern when the first of them has the number `base`. A loop over something that
may be empty is entered by a fork of its own, which keeps the order of preference. -/
def Node.steps : Node → Nat → List Step
  | .empty, _ => []
  | .one set, _ => [.one set]
  | .anchor a ascii, _ => [.anchor a ascii]
  | .group index body, base =>
    .save (2 * index) :: body.steps (base + 1) ++ [.save (2 * index + 1)]
  | .sequence first second, base => first.steps base ++ second.steps (base + first.size)
  | .choice first second, base =>
    let other := base + 1 + first.size + 1
    .fork (base + 1) other :: first.steps (base + 1)
      ++ .goto (other + second.size) :: second.steps other
  | .loop body least (some most) greedy, base =>
    let middle := base + least * body.size
    let finish := middle + (most - least) * (body.size + 1)
    copies body.steps body.size least base
      ++ optionalCopies body.steps body.size greedy finish (most - least) middle
  | .loop body least none greedy, base =>
    if least = 0 then
      let finish := base + 1 + body.size + 1
      forkBy greedy (base + 1) finish :: body.steps (base + 1)
        ++ [if body.nullable then forkBy greedy (base + 1) finish else .goto base]
    else
      let last := base + (least - 1) * body.size
      copies body.steps body.size least base
        ++ [forkBy greedy last (last + body.size + 1)]

/-- The program of a pattern, which marks the whole match as group 0. -/
def Node.program (node : Node) : Array Step :=
  ((Node.group 0 node).steps 0 ++ [Step.accept]).toArray

end Cohort.Pattern
