import Cohort.Number.Read

/-! Command-line arguments sorted into positional values and options. -/
namespace Cohort.CommandLine

/-- What the text of a value has to be. -/
inductive ValueKind where
  | text | float | int
  deriving DecidableEq, Repr

def readFloat? (text : String) : Option Float := Number.readFloat? text.toList

def readInt? (text : String) : Option Int64 := Number.readInt64? text.toList

def ValueKind.accepts (kind : ValueKind) (value : String) : Bool :=
  match kind with
  | .text => true
  | .float => (readFloat? value).isSome
  | .int => (readInt? value).isSome

/-- An option by its long name and, if it has one, its letter. A flag takes no value. -/
structure OptionSpec where
  long : String
  short : Option Char
  value : Option ValueKind

/-- What a command accepts: these positional values, and these options. -/
structure Spec where
  positionals : List ValueKind
  options : List OptionSpec

/-- Arguments that have been sorted. -/
structure Sorted where
  positionals : List String
  options : List (String × String)

/-- What became of the arguments: they were sorted, they ask for help, or they are refused. -/
inductive Sorting where
  | sorted (arguments : Sorted)
  | help
  | refused

def Sorted.value? (arguments : Sorted) (long : String) : Option String :=
  (arguments.options.find? (·.1 == long)).map (·.2)

def Sorted.has (arguments : Sorted) (long : String) : Bool := (arguments.value? long).isSome

/-- A value that stands in an argument of its own may not look like an option. -/
def looksLikeOption (argument : String) : Bool :=
  match argument.toList with
  | '-' :: _ :: _ => true
  | _ => false

/-- Adds a positional value, unless there are enough already or it is of the wrong kind. -/
def addPositional? (spec : Spec) (found : Sorted) (value : String) : Option Sorted :=
  match spec.positionals[found.positionals.length]? with
  | none => none
  | some kind =>
    if kind.accepts value then some { found with positionals := found.positionals ++ [value] }
    else none

/-- Adds an option, unless it has been given before or its value is of the wrong kind. -/
def addOption? (found : Sorted) (long : String) (kind : ValueKind) (value : String) :
    Option Sorted :=
  if found.has long || !kind.accepts value then none
  else some { found with options := found.options ++ [(long, value)] }

def addFlag? (found : Sorted) (long : String) : Option Sorted := addOption? found long .text ""

/-- Adds an option whose value is the next argument. -/
def addFromNext? (found : Sorted) (long : String) (kind : ValueKind) :
    List String → Option (Sorted × List String)
  | [] => none
  | value :: rest =>
    if looksLikeOption value then none
    else (addOption? found long kind value).map (·, rest)

/-- Letters after one hyphen: flags, and last an option whose value follows or is the next
argument. The answer holds the arguments left over, or `none` for a request for help. -/
def sortLetters (spec : Spec) (found : Sorted) (letters : List Char) (rest : List String) :
    Option (Option (Sorted × List String)) :=
  match letters with
  | [] => some (some (found, rest))
  | letter :: letters =>
    if letter = 'h' then some none
    else
      match spec.options.find? (·.short == some letter) with
      | none => none
      | some ⟨long, _, none⟩ =>
        match addFlag? found long with
        | some found => sortLetters spec found letters rest
        | none => none
      | some ⟨long, _, some kind⟩ =>
        match letters with
        | '=' :: value | value@(_ :: _) =>
          (addOption? found long kind (String.ofList value)).map fun found => some (found, rest)
        | [] => (addFromNext? found long kind rest).map some

/-- A name after two hyphens, with a value after an equals sign or in the next argument. -/
def sortLong (spec : Spec) (found : Sorted) (text : List Char) (rest : List String) :
    Option (Option (Sorted × List String)) :=
  let name := String.ofList (text.takeWhile (· ≠ '='))
  let value := match text.dropWhile (· ≠ '=') with
    | _ :: value => some (String.ofList value)
    | [] => none
  if name = "help" then if value.isNone then some none else none
  else
    match spec.options.find? (·.long == name) with
    | none => none
    | some ⟨_, _, none⟩ =>
      if value.isNone then (addFlag? found name).map fun found => some (found, rest) else none
    | some ⟨_, _, some kind⟩ =>
      match value with
      | some value => (addOption? found name kind value).map fun found => some (found, rest)
      | none => (addFromNext? found name kind rest).map some

/-- Sorts the arguments; after two hyphens alone all of them are positional. -/
def sort (spec : Spec) (onlyPositional : Bool) (found : Sorted) : Nat → List String → Sorting
  | 0, _ => .refused
  | _, [] => .sorted found
  | fuel + 1, argument :: rest =>
    let positional :=
      match addPositional? spec found argument with
      | some found => sort spec onlyPositional found fuel rest
      | none => .refused
    if onlyPositional then positional
    else
      let goOn (step : Option (Option (Sorted × List String))) : Sorting :=
        match step with
        | none => .refused
        | some none => .help
        | some (some (found, rest)) => sort spec false found fuel rest
      match argument.toList with
      | ['-', '-'] => sort spec true found fuel rest
      | '-' :: '-' :: text => goOn (sortLong spec found text rest)
      | '-' :: letter :: letters => goOn (sortLetters spec found (letter :: letters) rest)
      | _ => positional

def Spec.sort (spec : Spec) (arguments : List String) : Sorting :=
  CommandLine.sort spec false ⟨[], []⟩ (arguments.length + 1) arguments

end Cohort.CommandLine
