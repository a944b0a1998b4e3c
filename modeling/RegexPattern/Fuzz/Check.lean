/-
The properties that every result of the parser has to satisfy, whatever the pattern.
-/
import RegexPattern.Fuzz.Violation
import RegexPattern.Parser.Analysis

namespace RegexPattern.Fuzz

open RegexPattern.Parser

/-! ## Judging results -/

/-- What a parser made of a pattern: leniently, leniently once more, and strictly, unless it broke
off. -/
structure Trial (σ : Type) where
  pattern : String
  brokeOff : Bool
  lenient : Result σ
  again : Result σ
  strict : Result σ

namespace Trial

variable {σ : Type} (t : Trial σ)

def completion? : Option Violation := if t.brokeOff then some (.brokeOff t.pattern) else none

/-- Two lenient results must be the same. -/
def repetition? [DecidableEq σ] : Option Violation :=
  if t.again = t.lenient then none else some (.nondeterministic t.pattern)

/-- An error must lie within the pattern or at its end. -/
def offset? : Result σ → Option Violation
  | .ok _ => none
  | .error e =>
    if e.offset ≤ t.pattern.length then none
    else some (.offsetOutOfBounds t.pattern e.offset t.pattern.length)

/-- A tree must not have more than two nodes for each character: every leaf takes one character at
least, every star its own, and there are fewer inner nodes with two parts than leaves. -/
def size? : Option Violation :=
  match t.lenient with
  | .ok tree =>
    if tree.size ≤ 2 * t.pattern.length then none
    else some (.oversizedTree t.pattern tree.size t.pattern.length)
  | .error _ => none

/-- A tree of the whole pattern must also be the lenient result. -/
def agreement? [DecidableEq σ] : Option Violation :=
  match t.strict with
  | .ok _ => if t.lenient = t.strict then none else some (.modeMismatch t.pattern)
  | .error _ => none

def result : Mode → Result σ
  | .lenient => t.lenient
  | .strict => t.strict

/-- A well-formed pattern must be accepted in the given mode. -/
def acceptance? (mode : Mode) : Option Violation :=
  match t.result mode with
  | .ok _ => none
  | .error e => some (.rejectedValid t.pattern e)

/-- The first violation there is. Acceptance in the given mode matters only for a pattern known to
be well-formed. -/
def violation? [DecidableEq σ] (mode : Mode) (wellFormed : Bool) : Option Violation :=
  t.completion? <|> t.repetition? <|> t.offset? t.lenient <|> t.offset? t.strict <|> t.size? <|>
    t.agreement? <|> if wellFormed then t.acceptance? mode else none

end Trial

/-! ## Checking the parser -/

inductive Check.Note where
  | parsing (note : Parser.Note)
  | measured (pattern : String) (size depth : Nat)
deriving DecidableEq

instance : Log.Message Check.Note where
  level
    | .parsing note => Log.Message.level note
    | .measured .. => .debug
  target
    | .parsing note => Log.Message.target note
    | .measured .. => .checker
  text
    | .parsing note => Log.Message.text note
    | .measured pattern size depth =>
      inspect pattern ++ ": " ++ Nat.repr size ++ " nodes, depth " ++ Nat.repr depth

/-- The analyses of a pattern that a check looks at, and whether they break off: the mode makes no
difference to that, so all three do or none does. -/
structure Check where
  brokeOff : Bool
  lenient : Analysis CharClass
  again : Analysis CharClass
  strict : Analysis CharClass

namespace Check

def ofPattern (pattern : String) : Check where
  brokeOff := breaksOff CharClass.guarded pattern
  lenient := analyze CharClass.builder .lenient pattern
  again := analyze CharClass.builder .lenient pattern
  strict := analyze CharClass.builder .strict pattern

def trial (k : Check) : Trial CharClass :=
  ⟨k.lenient.pattern, k.brokeOff, k.lenient.result, k.again.result, k.strict.result⟩

/-- The measures of the lenient tree, which are logged if there is one. -/
def measures (k : Check) : List Note :=
  match k.lenient.result with
  | .ok tree => [.measured k.lenient.pattern tree.size tree.depth]
  | .error _ => []

def notes (k : Check) : List Note :=
  (k.lenient.notes ++ k.again.notes ++ k.strict.notes).map .parsing ++ k.measures

/-- What the parser does wrong on the pattern, if anything. -/
def violation? (k : Check) (mode : Mode) (wellFormed : Bool) : Option Violation :=
  k.trial.violation? mode wellFormed

end Check

end RegexPattern.Fuzz
