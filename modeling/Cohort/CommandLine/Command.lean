import Cohort.CommandLine.Arguments
import Cohort.CommandLine.Help
import Cohort.CommandLine.Tasks

/-! The commands of the program, and what running them prints. -/
namespace Cohort.CommandLine

/-- A command with its arguments. -/
inductive Command where
  | check (source : String) (context : Option String) (pretty syntaxOnly : Bool)
  | key (fraction : Float)
  | stable (input : String) (rate : Float)
  | bucket (input : String) (start count total : Int64)
  | help (topic : Topic)
  | version

/-- What a run of the program leaves behind. -/
structure Report where
  exitCode : UInt8
  output : String
  errors : String

def checkSpec : Spec :=
  ⟨[.text], [⟨"context", some 'c', some .text⟩, ⟨"pretty", some 'p', none⟩,
    ⟨"syntax-only", none, none⟩]⟩

def keySpec : Spec := ⟨[.float], []⟩

def stableSpec : Spec := ⟨[.text, .float], []⟩

def bucketSpec : Spec :=
  ⟨[.text], [⟨"start", none, some .int⟩, ⟨"count", none, some .int⟩, ⟨"total", none, some .int⟩]⟩

/-- Sorts arguments, answers a request for help, and hands the rest on. -/
def withSorted (spec : Spec) (topic : Topic) (arguments : List String)
    (make : Sorted → Option Command) : Option Command :=
  match spec.sort arguments with
  | .sorted found => make found
  | .help => some (.help topic)
  | .refused => none

def checkCommand? (arguments : List String) : Option Command :=
  withSorted checkSpec .check arguments fun found =>
    match found.positionals with
    | [source] =>
      some (.check source (found.value? "context") (found.has "pretty") (found.has "syntax-only"))
    | _ => none

def keyCommand? (arguments : List String) : Option Command :=
  withSorted keySpec .key arguments fun found =>
    match found.positionals with
    | [fraction] => (readFloat? fraction).map .key
    | _ => none

def stableCommand? (arguments : List String) : Option Command :=
  withSorted stableSpec .stable arguments fun found =>
    match found.positionals with
    | [input, rate] => (readFloat? rate).map (.stable input)
    | _ => none

def bucketCommand? (arguments : List String) : Option Command :=
  withSorted bucketSpec .bucket arguments fun found =>
    match found.positionals with
    | [input] => do
      let start ← readInt? (← found.value? "start")
      let count ← readInt? (← found.value? "count")
      let total ← readInt? (← found.value? "total")
      some (.bucket input start count total)
    | _ => none

/-- Help on the command that the names lead to. -/
def helpCommand? : List String → Option Command
  | [] => some (.help .program)
  | ["check"] => some (.help .check)
  | ["key"] => some (.help .key)
  | ["sample"] => some (.help .sample)
  | ["sample", "stable"] => some (.help .stable)
  | ["sample", "bucket"] => some (.help .bucket)
  | ["help"] => some (.help .helpCommand)
  | ["sample", "help"] => some (.help .sampleHelpCommand)
  | _ => none

/-- What an option in front of all commands asks for: help or, where there is one, the version. -/
def leadingOption? (topic : Topic) (hasVersion : Bool) (argument : String) : Option Command :=
  match argument.toList with
  | '-' :: 'h' :: _ => some (.help topic)
  | '-' :: 'V' :: _ => if hasVersion then some .version else none
  | _ =>
    if argument = "--help" then some (.help topic)
    else if argument = "--version" && hasVersion then some .version
    else none

def sampleCommand? : List String → Option Command
  | "stable" :: rest => stableCommand? rest
  | "bucket" :: rest => bucketCommand? rest
  | "help" :: rest => helpCommand? ("sample" :: rest)
  | argument :: _ => leadingOption? .sample false argument
  | [] => none

/-- The command that a list of arguments calls for, unless they are refused. -/
def Command.ofArguments? : List String → Option Command
  | "check" :: rest => checkCommand? rest
  | "key" :: rest => keyCommand? rest
  | "sample" :: rest => sampleCommand? rest
  | "help" :: rest => helpCommand? rest
  | argument :: _ => leadingOption? .program true argument
  | [] => none

/-- Whether a command takes its context from standard input. -/
def Command.readsInput : Command → Bool
  | .check _ none _ syntaxOnly => !syntaxOnly
  | _ => false

/-- The report of a task that prints one line. -/
def report : Except Failure String → Report
  | .ok line => ⟨0, line ++ "\n", ""⟩
  | .error failure => ⟨1, "", failure.message ++ "\n"⟩

def boolText (b : Bool) : String := if b then "true" else "false"

def CheckResult.text (pretty : Bool) : CheckResult → String
  | .wellFormed => "Syntax is valid"
  | .value json => if pretty then json.prettyText else json.text

/-- Runs a command; `input` is the text of standard input, where it is to be read. -/
def Command.run (input : Option String) : Command → Report
  | .check source context pretty syntaxOnly =>
    let context := context.orElse fun _ => if syntaxOnly then none else input
    report ((CommandLine.check source context syntaxOnly).map (CheckResult.text pretty))
  | .key fraction => report ((fractionKey fraction).map Key.text)
  | .stable input rate => report ((stableSample input rate).map boolText)
  | .bucket input start count total => report ((bucketSample input start count total).map boolText)
  | .help topic => ⟨0, topic.text, ""⟩
  | .version => ⟨0, "rfilter 0.1.0\n", ""⟩

/-- The report on arguments that are refused. -/
def refusal : Report := ⟨2, "", "error: invalid arguments\n\nFor more information, try '--help'.\n"⟩

/-- Runs the program on arguments and the text of standard input. -/
def run (arguments : List String) (input : Option String) : Report :=
  match Command.ofArguments? arguments with
  | some command => command.run input
  | none => refusal

end Cohort.CommandLine
