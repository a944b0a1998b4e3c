/-
Whole patterns: the parser run over all their characters, the two modes that differ in what they do
with a rest, and the log of a run.
-/
import RegexPattern.CharClass
import RegexPattern.Log
import RegexPattern.Parser.Step

namespace RegexPattern.Parser

variable {β σ : Type}

/-! ## Reading -/

/-- How the reading of a pattern ends. -/
inductive Reading (σ : Type) where
  /-- The whole pattern is one expression. -/
  | whole (t : Tree σ)
  /-- An expression is complete before `next`, at `offset`, which cannot continue it. -/
  | stopped (t : Tree σ) (offset : Nat) (next : Char)
  | failed (e : ParseError)
deriving DecidableEq

/-- Reads the characters `cs`, of which the first stands at offset `n`, and adds what happens to
`events`. -/
def run (b : SymbolBuilder β σ) : List Char → Nat → State σ → Array Event →
    Reading σ × Array Event
  | [], n, s, events =>
    match s.finish n with
    | .ok t => (.whole t, events)
    | .error e => (.failed e, events)
  | c :: cs, n, s, events =>
    let step := s.step b n c
    match step.move with
    | .next s => run b cs (n + 1) s (events ++ step.events)
    | .stop t => (.stopped t n c, events ++ step.events)
    | .fail e => (.failed e, events ++ step.events)

/-! ## Analysis -/

/-- What to do with the rest of a pattern after an expression. -/
inductive Mode where
  /-- Drop it. -/
  | lenient
  /-- Refuse the pattern. -/
  | strict
deriving DecidableEq

instance : Inspect Mode where
  inspect m :=
    let rest := match m with
      | .lenient => "Ignore"
      | .strict => "Reject"
    Inspect.record "ParserConfig" [("trailing_input", rest)]

/-- The tree of a pattern, or why there is none. -/
abbrev Result (σ : Type) := Except ParseError (Tree σ)

instance [DecidableEq σ] : DecidableEq (Result σ)
  | .ok t, .ok u => decidable_of_iff (t = u) (by simp)
  | .error d, .error e => decidable_of_iff (d = e) (by simp)
  | .ok _, .error _ => isFalse (by simp)
  | .error _, .ok _ => isFalse (by simp)

/-- A pattern that has been read. -/
structure Analysis (σ : Type) where
  pattern : String
  mode : Mode
  reading : Reading σ
  events : Array Event

/-- Reads a pattern from its start, with the symbols that `b` makes. The mode matters only for the
result. -/
def analyze (b : SymbolBuilder β σ) (mode : Mode) (pattern : String) : Analysis σ :=
  let (reading, events) := run b pattern.toList 0 .initial (Event.atUnion 0).toArray
  { pattern, mode, reading, events }

namespace Analysis

/-- The tree that was read, if the mode lets it stand for the pattern. -/
def result (a : Analysis σ) : Result σ :=
  match a.reading, a.mode with
  | .whole t, _ => .ok t
  | .stopped t _ _, .lenient => .ok t
  | .stopped _ offset next, .strict => .error ⟨.trailingInput next, offset⟩
  | .failed e, _ => .error e

/-- How often the making of a symbol was begun. -/
def symbolsBegun (a : Analysis σ) : Nat := a.events.count .symbolBegun

/-- How often a symbol was made. -/
def symbolsFinished (a : Analysis σ) : Nat := a.events.count .symbolFinished

end Analysis

/-- The tree of a pattern over character classes, or why there is none. -/
def parse (mode : Mode) (pattern : String) : Result CharClass :=
  (analyze CharClass.builder mode pattern).result

/-! ## Symbols -/

/-- The symbol that was read last, if that is what stands before the next character. -/
def State.symbol? (s : State σ) : Option σ :=
  match s.focus with
  | .factor (.literal symbol) _ => some symbol
  | _ => none

/-- The symbols that come up while the characters `cs` are read, of which the first stands at offset
`n`: each when it is made and again when a group of it alone is closed. -/
def symbols (b : SymbolBuilder β σ) : List Char → Nat → State σ → List σ
  | [], _, _ => []
  | c :: cs, n, s =>
    match (s.step b n c).move with
    | .next s => s.symbol?.toList ++ symbols b cs (n + 1) s
    | .stop _ => []
    | .fail _ => []

/-- Whether the reading of a pattern breaks off, since one of its symbols cannot be made. -/
def breaksOff (b : SymbolBuilder β (Option σ)) (pattern : String) : Bool :=
  (symbols b pattern.toList 0 .initial).any Option.isNone

/-! ## Log -/

/-- What is logged of an analysis. -/
inductive Note where
  | analyzing (pattern : String)
  | entered (rule : Rule) (offset : Nat)
  | ignoring (pattern : String) (offset : Nat)
  | parsed (pattern : String)
deriving DecidableEq

instance : Log.Message Note where
  level
    | .entered .. => .trace
    | _ => .debug
  target _ := .parser
  text
    | .analyzing pattern => "analyzing pattern " ++ inspect pattern
    | .entered rule offset => rule.name ++ " at " ++ Nat.repr offset
    | .ignoring pattern offset =>
      "ignoring trailing input of " ++ inspect pattern ++ " at offset " ++ Nat.repr offset
    | .parsed pattern => "parsed " ++ inspect pattern

/-- The note on an event. The making of symbols is not logged. -/
def Event.note? : Event → Option Note
  | enter rule offset => some (.entered rule offset)
  | symbolBegun => none
  | symbolFinished => none

namespace Analysis

/-- The notes on how the analysis ends: none on an error. -/
def closingNotes (a : Analysis σ) : List Note :=
  match a.reading, a.mode with
  | .whole _, _ => [.parsed a.pattern]
  | .stopped _ offset _, .lenient => [.ignoring a.pattern offset, .parsed a.pattern]
  | .stopped _ _ _, .strict => []
  | .failed _, _ => []

/-- All notes on the analysis, in order. -/
def notes (a : Analysis σ) : List Note :=
  .analyzing a.pattern :: a.events.toList.filterMap Event.note? ++ a.closingNotes

end Analysis

end RegexPattern.Parser
