/-
How one character moves a parser on, and what the end of the pattern means to it. A character is
judged when it is met and never looked at again.
-/
import RegexPattern.Literal
import RegexPattern.ParseError
import RegexPattern.Parser.Event
import RegexPattern.Parser.State

namespace RegexPattern.Parser

variable {β σ : Type}

/-- What a character does to a parser. -/
inductive Move (σ : Type) where
  /-- It is taken. -/
  | next (s : State σ)
  /-- It cannot continue the expression, which is complete before it. -/
  | stop (t : Tree σ)
  /-- It cannot stand here. -/
  | fail (e : ParseError)

/-- A move, and what happens on it. -/
structure Step (σ : Type) where
  events : List Event
  move : Move σ

namespace State

/-- The parser having read the factor `t`. -/
def afterFactor (s : State σ) (t : Tree σ) (starred : Bool) : State σ :=
  { s with focus := .factor t starred }

/-- The parser having read a literal or class, of which the symbol is made. -/
def afterSymbol (b : SymbolBuilder β σ) (s : State σ) (polarity : Polarity)
    (ranges : List CharRange) : Step σ :=
  ⟨Event.atSymbol, .next (s.afterFactor (.literal (b.build polarity ranges)) false)⟩

/-- Reads `c` where an atom has to start. The marks come before the literals, one of them being a
letter. -/
def stepAtom (b : SymbolBuilder β σ) (s : State σ) (n : Nat) (c : Char) : Step σ :=
  if c = emptyWordMark then ⟨[], .next (s.afterFactor .emptyWord false)⟩
  else if c = emptySetMark then ⟨[], .next (s.afterFactor .emptySet false)⟩
  else if c = '(' then ⟨Event.atUnion (n + 1), .next ⟨s.level :: s.outer, .blank, .atom⟩⟩
  else if c = '[' then ⟨[.enter .charClass (n + 1)], .next { s with focus := .classStart }⟩
  else if isLiteral c then s.afterSymbol b .including [.single c]
  else ⟨[], .fail ⟨.unknownCharacter c, n⟩⟩

/-- Reads `c` where the union that ends with `t` can neither grow nor branch. -/
def stepClose (s : State σ) (t : Tree σ) (n : Nat) (c : Char) : Step σ :=
  match s.outer with
  | [] => ⟨[], .stop (s.level.tree t)⟩
  | l :: outer =>
    if c = ')' then ⟨[], .next ⟨outer, l, .factor (s.level.tree t) false⟩⟩
    else ⟨[], .fail ⟨.expectedCharacter ')' (some c), n⟩⟩

/-- Reads `c` after the factor `t`. -/
def stepFactor (b : SymbolBuilder β σ) (s : State σ) (t : Tree σ) (starred : Bool) (n : Nat)
    (c : Char) : Step σ :=
  if c = '*' ∧ starred = false then ⟨[], .next (s.afterFactor (.star t) true)⟩
  else if startsFactor c then
    let atom := { s with level := s.level.addFactor t }.stepAtom b n c
    ⟨Event.atFactor n ++ atom.events, atom.move⟩
  else if c = '|' then
    ⟨Event.atBranch (n + 1), .next ⟨s.outer, s.level.closeBranch t, .atom⟩⟩
  else s.stepClose t n c

/-- Reads `c` where an entry of the class `k` or its end has to follow. -/
def stepEntry (b : SymbolBuilder β σ) (s : State σ) (k : OpenClass) (n : Nat) (c : Char) : Step σ :=
  if c = ']' then s.afterSymbol b k.polarity k.ranges.toList
  else if isLiteral c then ⟨[], .next { s with focus := .classLiteral k c }⟩
  else ⟨[], .fail ⟨.expectedLiteral (some c), n⟩⟩

/-- Reads `c` as the end of the range that starts with `first`, two characters before. -/
def stepRange (s : State σ) (k : OpenClass) (first : Char) (n : Nat) (c : Char) : Step σ :=
  if isLiteral c then
    match CharRange.ofBounds? first c with
    | some r => ⟨[], .next { s with focus := .classEntry (k.push r) }⟩
    | none => ⟨[], .fail ⟨.invertedRange first c, n - 2⟩⟩
  else ⟨[], .fail ⟨.expectedLiteral (some c), n⟩⟩

/-- Reads `c`, which stands at offset `n`. -/
def step (b : SymbolBuilder β σ) (s : State σ) (n : Nat) (c : Char) : Step σ :=
  match s.focus with
  | .atom => s.stepAtom b n c
  | .factor t starred => s.stepFactor b t starred n c
  | .classStart =>
    if c = '^' then ⟨[], .next { s with focus := .classEntry ⟨.excluding, #[]⟩ }⟩
    else s.stepEntry b ⟨.including, #[]⟩ n c
  | .classEntry k => s.stepEntry b k n c
  | .classLiteral k first =>
    if c = '-' then ⟨[], .next { s with focus := .classRange k first }⟩
    else s.stepEntry b (k.push (.single first)) n c
  | .classRange k first => s.stepRange k first n c

/-- The tree of a pattern that ends here, at offset `n`. -/
def finish (s : State σ) (n : Nat) : Except ParseError (Tree σ) :=
  match s.focus with
  | .atom => .error ⟨.unexpectedEnd, n⟩
  | .factor t _ =>
    match s.outer with
    | [] => .ok (s.level.tree t)
    | _ :: _ => .error ⟨.expectedCharacter ')' none, n⟩
  | _ => .error ⟨.expectedLiteral none, n⟩

end State

end RegexPattern.Parser
