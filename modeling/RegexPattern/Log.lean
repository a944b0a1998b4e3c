/-
Log messages: how severe they are, which part of the program they come from, and the lines in which
they are shown.
-/
namespace RegexPattern.Log

/-- How severe a message is, the most severe first. -/
inductive Level where
  | error
  | warn
  | info
  | debug
  | trace
deriving DecidableEq

namespace Level

/-- Severity as a number; less is more severe. -/
def rank : Level → Nat
  | error => 1
  | warn => 2
  | info => 3
  | debug => 4
  | trace => 5

def name : Level → String
  | error => "ERROR"
  | warn => "WARN"
  | info => "INFO"
  | debug => "DEBUG"
  | trace => "TRACE"

def all : List Level := [error, warn, info, debug, trace]

end Level

/-- The parts of the program that log. -/
inductive Target where
  | parser
  | checker
  | campaign
deriving DecidableEq

/-- The path by which filters choose a part. -/
def Target.path : Target → String
  | parser => "rd_regex_parse::parser"
  | checker => "rd_regex_fuzzer::check"
  | campaign => "rd_regex_fuzzer"

/-- Values that can be logged. The text is made only of messages that are kept. -/
class Message (μ : Type) where
  level : μ → Level
  target : μ → Target
  text : μ → String

/-- A message that has been logged. -/
structure Line where
  level : Level
  target : Target
  text : String
deriving DecidableEq

/-- The line of a message. -/
def Line.ofMessage {μ : Type} [Message μ] (m : μ) : Line :=
  ⟨Message.level m, Message.target m, Message.text m⟩

/-- A line as it is shown, the level filled up to five letters. -/
def Line.shown (l : Line) : String :=
  "[" ++ l.level.name ++ String.ofList (List.replicate (5 - l.level.name.length) ' ') ++ " "
    ++ l.target.path ++ "] " ++ l.text

end RegexPattern.Log
