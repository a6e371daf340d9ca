/-! The help texts of the command line. -/
namespace Cohort.CommandLine

/-- What help is about. -/
inductive Topic where
  | program | check | key | sample | stable | bucket | helpCommand | sampleHelpCommand
  deriving DecidableEq, Repr

def joinLines (lines : List String) : String := String.join (lines.map (· ++ "\n"))

/-- Help on the command that gives help, called by the given words. -/
def helpOnHelp (call : String) : String := joinLines
  ["Print this message or the help of the given subcommand(s)",
    "",
    "Usage: " ++ call ++ " [COMMAND]...",
    "",
    "Arguments:",
    "  [COMMAND]...  Print help for the subcommand(s)"]

def Topic.text : Topic → String
  | .helpCommand => helpOnHelp "rfilter help"
  | .sampleHelpCommand => helpOnHelp "rfilter sample help"
  | .program => joinLines
    ["rfilter - Evaluate recipe filter expressions and sampling functions",
      "",
      "Usage: rfilter <COMMAND>",
      "",
      "Commands:",
      "  check   Validate and evaluate a filter expression",
      "  key     Print the 64-digit hex key for a fraction in [0, 1]",
      "  sample  Run a sampling function against a JSON input",
      "  help    Print this message or the help of the given subcommand(s)",
      "",
      "Options:",
      "  -h, --help     Print help",
      "  -V, --version  Print version"]
  | .check => joinLines
    ["Validate and evaluate a filter expression",
      "",
      "Usage: rfilter check [OPTIONS] <EXPRESSION>",
      "",
      "Arguments:",
      "  <EXPRESSION>  The filter expression to evaluate",
      "",
      "Options:",
      "  -c, --context <CONTEXT>  JSON context (reads from stdin if not provided)",
      "  -p, --pretty             Pretty-print the output",
      "      --syntax-only        Only validate syntax, don't evaluate",
      "  -h, --help               Print help"]
  | .key => joinLines
    ["Print the 64-digit hex key for a fraction in [0, 1]",
      "",
      "Usage: rfilter key <FRACTION>",
      "",
      "Arguments:",
      "  <FRACTION>  ",
      "",
      "Options:",
      "  -h, --help  Print help"]
  | .sample => joinLines
    ["Run a sampling function against a JSON input",
      "",
      "Usage: rfilter sample <COMMAND>",
      "",
      "Commands:",
      "  stable  Select roughly RATE of all inputs",
      "  bucket  Select inputs hashing into buckets [START, START+COUNT) of TOTAL",
      "  help    Print this message or the help of the given subcommand(s)",
      "",
      "Options:",
      "  -h, --help  Print help"]
  | .stable => joinLines
    ["Select roughly RATE of all inputs",
      "",
      "Usage: rfilter sample stable <INPUT> <RATE>",
      "",
      "Arguments:",
      "  <INPUT>  JSON value to hash",
      "  <RATE>   ",
      "",
      "Options:",
      "  -h, --help  Print help"]
  | .bucket => joinLines
    ["Select inputs hashing into buckets [START, START+COUNT) of TOTAL",
      "",
      "Usage: rfilter sample bucket --start <START> --count <COUNT> --total <TOTAL> <INPUT>",
      "",
      "Arguments:",
      "  <INPUT>  JSON value to hash",
      "",
      "Options:",
      "      --start <START>  ",
      "      --count <COUNT>  ",
      "      --total <TOTAL>  ",
      "  -h, --help           Print help"]

end Cohort.CommandLine
