/-
The program: takes the arguments, the log filter from the environment and the clock, and prints what
the command line gives.
-/
import RegexPattern.Fuzz.CommandLine
import Std.Time.DateTime.Timestamp

open RegexPattern

def main (arguments : List String) : IO UInt32 := do
  let filter := (← IO.getEnv Fuzz.CommandLine.logVariable).getD ""
  let now ← Std.Time.Timestamp.now
  let clock := now.toSecondsSinceUnixEpoch.val.toNat.toUInt64
  let exit := Fuzz.CommandLine.run arguments clock filter
  exit.output.forM fun line => IO.println line
  exit.errors.forM fun line => IO.eprintln line
  return exit.code
