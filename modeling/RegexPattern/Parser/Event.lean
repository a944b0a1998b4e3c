/-
What can be seen of a parser at work, besides its result: the rules it enters and the symbols it
has made.
-/
namespace RegexPattern.Parser

/-- The rules of the grammar of patterns.

    union       a concatenation, or several with bars between them
    concat      one repetition or more
    repetition  an atom, with a star after it or not
    atom        a literal, a mark, a union in parentheses, or a class
    charClass   single literals and ranges of them in square brackets, negated or not -/
inductive Rule where
  | union
  | concat
  | repetition
  | atom
  | charClass
deriving DecidableEq

/-- The name of a rule. -/
def Rule.name : Rule → String
  | union => "union"
  | concat => "concat"
  | repetition => "repetition"
  | atom => "atom"
  | charClass => "class"

/-- One thing that happens while a pattern is read. -/
inductive Event where
  /-- A rule is entered at this offset. -/
  | enter (rule : Rule) (offset : Nat)
  /-- The draft of a symbol is begun. -/
  | symbolBegun
  /-- The draft of a symbol is made into the symbol. -/
  | symbolFinished
deriving DecidableEq

namespace Event

/-- What happens where an atom has to start a factor. -/
def atFactor (offset : Nat) : List Event :=
  [enter .repetition offset, enter .atom offset]

/-- What happens where a branch of a union starts. -/
def atBranch (offset : Nat) : List Event := enter .concat offset :: atFactor offset

/-- What happens where a union starts. -/
def atUnion (offset : Nat) : List Event := enter .union offset :: atBranch offset

/-- What happens where a symbol is made. -/
def atSymbol : List Event := [symbolBegun, symbolFinished]

end Event

end RegexPattern.Parser
