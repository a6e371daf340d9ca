import Cohort.Error
import Cohort.Number.Words
import Cohort.Sampling.Canonical
import Cohort.Sampling.Sha256
import Cohort.Text.Digits

/-!
Samples of a population that are stable: whether a value belongs to one depends on nothing but the
value and the sample. The hash of a value is a point of the key space of 256 bits, and a sample is
an interval of it.
-/
namespace Cohort
open scoped Cohort.Number.Power

/-- A point of the key space. -/
abbrev Key : Type := BitVec 256

namespace Key

/-- A key as 64 lowercase hexadecimal digits. -/
def text (key : Key) : String := String.ofList (Text.hexDigits 64 key.toNat)

/-- The key with this number, or the last one when the number is beyond the key space. -/
def clamp (n : Nat) : Key := if n < 2 ^ (256 : Nat) then BitVec.ofNat 256 n else BitVec.allOnes 256

end Key

namespace Sampling
open Cohort.Number (addSaturating remEuclid? remEuclid?_eq remainder? remainder?_eq_remEuclid?)

/-- A double from 0 to 1 as `mantissa / 2 ^ shift`. -/
def unitFraction? (x : Float) : Option (Nat × Nat) :=
  match x.toModel.unpack with
  | .zero _ => some (0, 0)
  | .finite .positive mantissa exponent _ =>
    if exponent ≤ 0 ∧ mantissa ≤ 2 ^ (-exponent).toNat then some (mantissa, (-exponent).toNat)
    else none
  | _ => none

/-- Maps a fraction linearly onto the key space, exactly and rounding down. -/
def fractionToKey (fraction : Float) : Except RangeError Key :=
  match unitFraction? fraction with
  | some (mantissa, shift) => .ok (Key.clamp ((2 ^ (256 : Nat) - 1) * mantissa / 2 ^ shift))
  | none => .error (.fractionOutOfRange fraction)

/-- The hash of a value under a digest of bytes: the digest of its canonical text. -/
def hashUnder (digest : List UInt8 → Key) (value : Value) : Key :=
  digest value.canonical.toUTF8.toList

/-- The hash of a value. -/
def inputHash (value : Value) : Key := hashUnder Sha256.digest value

/-- Refuses a text that is not as wide as a key. -/
def checkWidth (text : String) : Except RangeError Unit :=
  if text.length = 64 then .ok () else .error (.invalidHashLength text)

/-- Whether a hash lies below a rate, taken as a fraction of the key space. Points of the key space
are compared by their texts. -/
def belowRate (hash : Key) (rate : Float) : Except RangeError Bool := do
  let point ← fractionToKey rate
  checkWidth hash.text
  checkWidth point.text
  pure (hash.text < point.text)

/-- The point where bucket `index` of `total` begins, as a fraction. -/
def bucketStart (index total : Int) : Float :=
  Number.ofInteger index / Number.ofInteger total

/-- Whether a hash lies in the buckets from `first` up to and without `last`. -/
def betweenBuckets (hash : Key) (first last total : Int) : Except RangeError Bool := do
  let low ← fractionToKey (bucketStart first total)
  let high ← fractionToKey (bucketStart last total)
  checkWidth low.text
  checkWidth high.text
  pure (low.text ≤ hash.text && hash.text < high.text)

section Buckets
variable (hash : Key) (start count total : Int64)

/-- Whether a hash lies in one of `count` buckets from `start` on, out of `total` equal ones that
are numbered around a circle. Counts beyond a 64-bit word end at its last bucket. There is no answer
where an operation on words traps. -/
def inBuckets? : Option (Except RangeError Bool) :=
  if total ≤ 0 then some (.error (.invalidBucketTotal total))
  else if count ≤ 0 then some (.ok false)
  else do
    let first ← remEuclid? start total
    let last := addSaturating first count
    if total < last then do
      let front ← remainder? last total
      some do
        checkWidth hash.text
        if ← betweenBuckets hash 0 front.toInt total.toInt then pure true
        else betweenBuckets hash first.toInt total.toInt total.toInt
    else
      some do
        checkWidth hash.text
        betweenBuckets hash first.toInt last.toInt total.toInt

/-- No operation on the way traps, for any three words. -/
theorem isSome_inBuckets? : (inBuckets? hash start count total).isSome := by
  unfold inBuckets?
  split
  · rfl
  split
  · rfl
  next htotal hcount =>
    have hpos : 0 < total.toInt := Int64.lt_iff_toInt_lt.mp (Int64.not_le.mp htotal)
    have hcount' : 0 < count.toInt := Int64.lt_iff_toInt_lt.mp (Int64.not_le.mp hcount)
    rw [remEuclid?_eq hpos, Option.bind_eq_bind, Option.bind_some]
    generalize hlast : addSaturating (Int64.ofInt (start.toInt % total.toInt)) count = last
    dsimp only
    split
    next hwrap =>
      have hlast' : 0 ≤ last.toInt :=
        Int.le_of_lt (Int.lt_trans hpos (Int64.lt_iff_toInt_lt.mp hwrap))
      rw [remainder?_eq_remEuclid? hlast', remEuclid?_eq hpos]
      rfl
    next => rfl

/-- Whether a hash lies in one of `count` buckets from `start` on, out of `total`. -/
def inBuckets : Except RangeError Bool :=
  (inBuckets? hash start count total).get (isSome_inBuckets? hash start count total)

end Buckets

/-- Whether a value belongs to a sample of the given rate, by its hash under a digest. -/
def stableSampleUnder (digest : List UInt8 → Key) (value : Value) (rate : Float) :
    Except RangeError Bool :=
  belowRate (hashUnder digest value) rate

/-- Whether a value belongs to a sample of the given rate. -/
def stableSample (value : Value) (rate : Float) : Except RangeError Bool :=
  stableSampleUnder Sha256.digest value rate

/-- Whether a value falls into `count` consecutive buckets from `start` on, out of `total`, by its
hash under a digest. -/
def bucketSampleUnder (digest : List UInt8 → Key) (value : Value) (start count total : Int64) :
    Except RangeError Bool :=
  inBuckets (hashUnder digest value) start count total

/-- Whether a value falls into `count` consecutive buckets from `start` on, out of `total`. -/
def bucketSample (value : Value) (start count total : Int64) : Except RangeError Bool :=
  bucketSampleUnder Sha256.digest value start count total

end Sampling

end Cohort
