import Cohort.Proofs.Document.Mapped
import Cohort.Sampling.Basic
import Cohort.Value.Json
import Mathlib

/-!
Values that have passed through JSON. There a double that is not finite is null and a date is its
text, and these are also what the canonical text of a value shows of them. So the passage may change
a value, but not its hash and with it none of the samples that it belongs to.
-/
namespace Cohort

namespace Scalar

def settled : Scalar → Scalar
  | .float x => if x.isFinite then .float x else .null
  | .date t => .string t.text
  | s => s

/-- A scalar that JSON has as it is. -/
def Lasting : Scalar → Prop
  | .float x => x.isFinite = true
  | .date _ => False
  | _ => True

theorem ofJson_toJson (s : Scalar) : ofJson s.toJson = s.settled := by
  cases s with
  | float x =>
    rw [toJson, settled]
    split <;> rfl
  | _ => rfl

theorem settled_eq_self_iff {s : Scalar} : s.settled = s ↔ s.Lasting := by
  cases s with
  | float x =>
    rw [settled, Lasting]
    split <;> simp_all
  | _ => simp [settled, Lasting]

theorem lasting_settled (s : Scalar) : s.settled.Lasting := by
  cases s with
  | float x =>
    rw [settled]
    split
    next h => exact h
    next => trivial
  | _ => trivial

theorem settled_settled (s : Scalar) : s.settled.settled = s.settled :=
  settled_eq_self_iff.mpr s.lasting_settled

/-- The canonical text shows a scalar as JSON has it. -/
theorem canonical_settled (s : Scalar) : s.settled.canonical = s.canonical := by
  cases s with
  | float x =>
    rw [settled]
    split
    next => rfl
    next h => simp [canonical, canonicalFloat, h]
  | _ => rfl

end Scalar

namespace Value

/-- What JSON has in place of a value: null for a double that is not finite, the text of a date, and
all else as it is. -/
def settled (value : Value) : Value := value.map Scalar.settled

theorem ofJson_toJson_eq_settled (value : Value) : ofJson value.toJson = value.settled := by
  have h : Scalar.ofJson ∘ Scalar.toJson = Scalar.settled := funext Scalar.ofJson_toJson
  rw [ofJson, toJson, Document.map_map, h, settled]

theorem settled_eq_self_iff {value : Value} :
    value.settled = value ↔ value.Every Scalar.Lasting := by
  have h : (fun s : Scalar => s.settled = s) = Scalar.Lasting :=
    funext fun _ => propext Scalar.settled_eq_self_iff
  rw [settled, Document.map_eq_self_iff, h]

theorem settled_settled (value : Value) : value.settled.settled = value.settled := by
  have h : Scalar.settled ∘ Scalar.settled = Scalar.settled := funext Scalar.settled_settled
  rw [settled, settled, Document.map_map, h]

theorem canonical_settled (value : Value) : value.settled.canonical = value.canonical := by
  have h : Scalar.canonical ∘ Scalar.settled = Scalar.canonical := funext Scalar.canonical_settled
  rw [canonical, canonical, settled, Document.compact_map, h]

open Sampling in
/-- A value that has passed through JSON has null for each double that is not finite and the text of
each date, and is otherwise the same; another passage changes nothing more. Its canonical text is
that of the value itself, so both have the same hash, under whatever digest, and belong to the same
samples. -/
theorem json_passage (value : Value) :
    let passed := ofJson value.toJson
    passed = value.settled ∧ (passed = value ↔ value.Every Scalar.Lasting) ∧
      ofJson passed.toJson = passed ∧ passed.canonical = value.canonical ∧
      inputHash passed = inputHash value ∧
      (∀ rate, stableSample passed rate = stableSample value rate) ∧
      (∀ start count total,
        bucketSample passed start count total = bucketSample value start count total) ∧
      ∀ digest, hashUnder digest passed = hashUnder digest value := by
  intro passed
  have hpassed : passed = value.settled := ofJson_toJson_eq_settled value
  have hcanonical : passed.canonical = value.canonical := by rw [hpassed, canonical_settled]
  have hhash (digest : List UInt8 → Key) : hashUnder digest passed = hashUnder digest value := by
    rw [hashUnder, hashUnder, hcanonical]
  refine ⟨hpassed, ?_, ?_, hcanonical, hhash _, fun rate => ?_, fun start count total => ?_, hhash⟩
  · rw [hpassed, settled_eq_self_iff]
  · rw [ofJson_toJson_eq_settled, hpassed, settled_settled]
  · rw [stableSample, stableSample, stableSampleUnder, stableSampleUnder, hhash]
  · rw [bucketSample, bucketSample, bucketSampleUnder, bucketSampleUnder, hhash]

end Value

end Cohort
