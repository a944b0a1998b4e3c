/-
The command line of the fuzzer: from arguments to exit code and output.
-/
import RegexPattern.Fuzz.Campaign
import RegexPattern.Log.Filter.Notation

namespace RegexPattern.Fuzz.CommandLine

open Options (ArgumentError)

/-- The environment variable that holds the filter of the log. -/
def logVariable : String := "RUST_LOG"

/-- What a command leaves behind. -/
structure Exit where
  code : UInt32
  output : List String
  errors : List String

/-- The help. -/
def help : List String :=
  [ "Throws random patterns at the regex parser and checks its invariants",
    "",
    "Options:",
    "  --seed <SEED>              seed of the random generator, by default the current time",
    "  --iterations <ITERATIONS>  number of patterns to check, by default 10000",
    "  --min-len <MIN_LEN>        shortest random pattern, in characters, by default 0",
    "  --max-len <MAX_LEN>        longest random pattern, in characters, by default 24",
    "  --charset <CHARSET>        characters random patterns are drawn from",
    "  --max-depth <MAX_DEPTH>    maximum group nesting of well-formed patterns, by default 4",
    "  --strict                   require well-formed patterns to be consumed entirely",
    "  --fail-fast                stop at the first violation",
    "  -h, --help                 print this help" ]

/-- What is wrong with the arguments, in words. -/
def usageMessage : ArgumentError → String
  | .help => ""
  | .unknown argument => "unexpected argument " ++ inspect argument
  | .missingValue option => "a value is required for --" ++ option
  | .invalidNumber option value => "invalid value " ++ inspect value ++ " for --" ++ option
  | .repeated option => "--" ++ option ++ " cannot be used multiple times"
  | .unwantedValue option value => "unexpected value " ++ inspect value ++ " for --" ++ option

/-- The exit code of a campaign that fails in this way, and what is said of it at the end. -/
def failed : Campaign.Failure → UInt32 × String
  | .fault f => (101, f.message)
  | failure => (1, "Error: " ++ failure.message)

/-- Runs the command with these arguments. What is left out of the filter is reported first. -/
def run (arguments : List String) (clock : UInt64) (filter : String) : Exit :=
  let (f, warnings) := Log.Filter.ofString filter
  let warned := warnings.flatMap Log.Filter.Warning.lines
  match Options.ofArguments arguments with
  | .error .help => ⟨0, help, warned⟩
  | .error e => ⟨2, [], warned ++ ["error: " ++ usageMessage e]⟩
  | .ok o =>
    let report := Campaign.run o clock f
    let lines := warned ++ report.log.toList.map Log.Line.shown
    match report.result with
    | .ok _ => ⟨0, [], lines⟩
    | .error failure => ⟨(failed failure).1, [], lines ++ [(failed failure).2]⟩

end RegexPattern.Fuzz.CommandLine
