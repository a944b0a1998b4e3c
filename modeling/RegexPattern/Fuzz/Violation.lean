/-
What can be found wrong with the parser on a pattern.
-/
import RegexPattern.ParseError

namespace RegexPattern.Fuzz

/-- Something a parser must never do. -/
inductive Violation where
  /-- It breaks off without a result. -/
  | brokeOff (pattern : String)
  /-- It gives two results. -/
  | nondeterministic (pattern : String)
  /-- It reports an error beyond the end of the pattern. -/
  | offsetOutOfBounds (pattern : String) (offset length : Nat)
  /-- Its tree has more nodes than the pattern can account for. -/
  | oversizedTree (pattern : String) (size length : Nat)
  /-- It refuses a well-formed pattern. -/
  | rejectedValid (pattern : String) (source : ParseError)
  /-- It accepts a whole pattern but gives another result when it may drop a rest. -/
  | modeMismatch (pattern : String)
deriving DecidableEq

namespace Violation

/-- The violation in words. -/
def message : Violation → String
  | brokeOff pattern => "parser panicked on " ++ inspect pattern
  | nondeterministic pattern => inspect pattern ++ " parsed differently on a second run"
  | offsetOutOfBounds pattern offset length =>
    inspect pattern ++ " failed at offset " ++ Nat.repr offset ++ ", past its " ++ Nat.repr length
      ++ " characters"
  | oversizedTree pattern size length =>
    inspect pattern ++ " produced " ++ Nat.repr size ++ " nodes from " ++ Nat.repr length
      ++ " characters"
  | rejectedValid pattern _ => "well-formed " ++ inspect pattern ++ " was rejected"
  | modeMismatch pattern =>
    inspect pattern ++ " was accepted strictly but parsed differently when lenient"

/-- The error behind the violation, if there is one. -/
def source? : Violation → Option ParseError
  | rejectedValid _ source => some source
  | _ => none

end Violation

end RegexPattern.Fuzz
