import Cohort.Grammar.Basic
import Cohort.Instant.Read
import Cohort.Pattern.Matcher
import Cohort.Pattern.Reader
import Cohort.Sampling.Basic

/-! The transforms of the standard grammar. -/
namespace Cohort
namespace Transforms

/-- A date is left as it is, a string is read as one, and an integer counts milliseconds since the
beginning of 1970. -/
def date : Transform := fun subject _ =>
  match subject with
  | .date t => .ok (.date t)
  | .string text =>
    match Instant.ofText? text with
    | some t => .ok (.date t)
    | none => .error (.invalidDate (.unreadable text))
  | .int millis =>
    match Instant.ofMillis? millis.toInt with
    | some t => .ok (.date t)
    | none => .error (.invalidDate (.outOfRange millis))
  | other => .error (.invalidDate (.wrongKind other.kind))

/-- Whether the subject belongs to a sample of the rate given. -/
def stableSample : Transform := fun subject arguments =>
  match arguments with
  | [rate] =>
    match rate.toFloat? with
    | some rate => ((Sampling.stableSample subject rate).map Value.bool).mapError .range
    | none => .error (.invalidArguments "stableSample" "rate must be a number")
  | _ => .error (.invalidArguments "stableSample" "expected exactly one rate argument")

/-- An argument that has to be an integer. -/
def bucketArgument (name : String) (argument : Value) : Except EvalError Int64 :=
  match argument.toInt? with
  | some n => .ok n
  | none => .error (.invalidArguments "bucketSample" (name ++ " must be an integer"))

/-- Whether the subject falls into the run of buckets given by start, count and total. -/
def bucketSample : Transform := fun subject arguments =>
  match arguments with
  | [start, count, total] => do
    let start ← bucketArgument "start" start
    let count ← bucketArgument "count" count
    let total ← bucketArgument "total" total
    ((Sampling.bucketSample subject start count total).map Value.bool).mapError .range
  | _ =>
    .error (.invalidArguments "bucketSample" "expected start, count and total arguments")

/-- The names of an object's entries in increasing order. -/
def keys : Transform := fun subject _ =>
  match subject with
  | .object fields => .ok (.array (fields.keys.map Value.string))
  | _ => .ok Value.null

/-- The number of characters, items or entries. -/
def length : Transform := fun subject _ =>
  match subject with
  | .string text => .ok (.int (Int64.ofNat text.length))
  | .array items => .ok (.int (Int64.ofNat items.length))
  | .object fields => .ok (.int (Int64.ofNat fields.size))
  | _ => .ok Value.null

/-- The entries of one name in an array of objects; null for an item that has none. -/
def mapToProperty : Transform := fun subject arguments =>
  match arguments with
  | [.string name] =>
    match subject with
    | .array items =>
      .ok (.array (items.map fun item =>
        match item with
        | .object fields => (fields.get? name).getD Value.null
        | _ => Value.null))
    | other => .error (.typeError (.notArray "mapToProperty" other.kind))
  | _ => .error (.invalidArguments "mapToProperty" "expected a property name")

/-- A group that took no part in a match is null. -/
def ofGroup : Option String → Value
  | some text => .string text
  | none => Value.null

/-- The first match of a pattern and its groups, or with the flag `g` all matches; null when there
is none. -/
def matchPattern (text source flags : String) : Outcome :=
  let has (c : Char) := flags.toList.contains c
  let options : Pattern.Flags :=
    { ignoreCase := has 'i', multiLine := has 'm', dotAll := has 's' }
  match Pattern.ofText? options source with
  | none => .error .invalidRegex
  | some pattern =>
    if has 'g' then
      match pattern.compile.allMatches text with
      | [] => .ok Value.null
      | found => .ok (.array (found.map Value.string))
    else
      match pattern.compile.firstMatch text with
      | none => .ok Value.null
      | some groups => .ok (.array (groups.map ofGroup))

def regExpMatch : Transform := fun subject arguments =>
  let search (source flags : String) : Outcome :=
    match subject with
    | .string text => matchPattern text source flags
    | _ => .ok Value.null
  match arguments with
  | [.string source] => search source ""
  | [.string source, .string flags] => search source flags
  | _ => .error (.invalidArguments "regExpMatch" "expected a pattern and optional flags")

end Transforms

/-- Adds the standard transforms to a grammar. -/
def Grammar.addStandardTransforms (g : Grammar) : Grammar :=
  g
  |>.addTransform "date" Transforms.date
  |>.addTransform "stableSample" Transforms.stableSample
  |>.addTransform "bucketSample" Transforms.bucketSample
  |>.addTransform "keys" Transforms.keys
  |>.addTransform "length" Transforms.length
  |>.addTransform "mapToProperty" Transforms.mapToProperty
  |>.addTransform "regExpMatch" Transforms.regExpMatch

end Cohort
