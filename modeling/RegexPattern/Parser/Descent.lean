/-
Recursive descent: each rule of the grammar, as it stands in the comment on `Rule`, is a program
that calls those of the rules it is made of. A program looks at the next character before it takes
it. Patterns are read by `Parser.run`, which does the same without calls.
-/
import RegexPattern.Parser.Analysis

namespace RegexPattern.Parser

variable {α β σ : Type}

/-- How far a descent has come: the characters that are left, the offset of the first of them, and
what has happened. -/
structure Scan where
  rest : List Char
  offset : Nat
  events : Array Event
deriving Inhabited

/-- A part of a descent. If it does not return, its outcome is `none`. -/
abbrev Descent (α : Type) := ExceptT ParseError (StateT Scan Option) α

namespace Descent

/-! ## Characters -/

/-- Something happens. -/
def note (event : Event) : Descent Unit :=
  modify fun scan => { scan with events := scan.events.push event }

/-- Enters a rule. -/
def enter (rule : Rule) : Descent Unit := do note (.enter rule (← get).offset)

/-- The next character, which is not taken. -/
def peek : Descent (Option Char) := return (← get).rest.head?

def isAt (c : Char) : Descent Bool := return (← peek) == some c

/-- Takes the next character, if there is one. -/
def bump : Descent Unit :=
  modify fun scan =>
    match scan.rest with
    | [] => scan
    | _ :: rest => { scan with rest, offset := scan.offset + 1 }

/-- Takes `c` if it is next. -/
def eat (c : Char) : Descent Bool := do
  if ← isAt c then
    bump
    return true
  else
    return false

/-- Gives up before the next character. -/
def fail (cause : ParseError.Cause) : Descent α := do throw ⟨cause, (← get).offset⟩

/-- Takes `c`, which has to be next. -/
def expect (c : Char) : Descent Unit := do
  if ← eat c then return () else fail (.expectedCharacter c (← peek))

/-- Takes a literal, which has to be next. -/
def expectLiteral : Descent Char := do
  match (← peek).filter isLiteral with
  | some c =>
    bump
    return c
  | none => fail (.expectedLiteral (← peek))

/-- Makes the symbol of a literal or class. -/
def symbol (b : SymbolBuilder β σ) (polarity : Polarity) (ranges : List CharRange) :
    Descent (Tree σ) := do
  note .symbolBegun
  let draft := b.add polarity ranges b.fresh
  note .symbolFinished
  return .literal (b.finish draft)

/-! ## Loops and calls -/

/-- Does `body` again and again, as long as `test` tells it to. -/
def loop (test : Descent Bool) (body : α → Descent α) (a : α) : Descent α :=
  have : Nonempty α := ⟨a⟩
  repeatM (fun a => do if ← test then return .inl (← body a) else return .inr a) a

/-- There is no room for another call. -/
def overflow : Descent α := liftM (none : Option α)

/-! ## Classes -/

/-- A literal, or a range of them. An inverted range is reported where it starts. -/
def classItem : Descent CharRange := do
  let offset := (← get).offset
  let first ← expectLiteral
  if ← eat '-' then
    let last ← expectLiteral
    match CharRange.ofBounds? first last with
    | some r => return r
    | none => throw ⟨.invertedRange first last, offset⟩
  else
    return .single first

def classItems : Array CharRange → Descent (Array CharRange) :=
  loop (return !(← isAt ']')) fun ranges => return ranges.push (← classItem)

/-- What stands behind an opening bracket. -/
def charClass (b : SymbolBuilder β σ) : Descent (Tree σ) := do
  enter .charClass
  let negated ← eat '^'
  let ranges ← classItems #[]
  expect ']'
  symbol b (if negated then .excluding else .including) ranges.toList

/-! ## Expressions -/

section
variable (b : SymbolBuilder β σ) (group : Descent (Tree σ))

/-- An atom, where `group` reads what stands in parentheses. -/
def atom : Descent (Tree σ) := do
  enter .atom
  match ← peek with
  | none => fail .unexpectedEnd
  | some c =>
    if c = emptyWordMark then
      bump
      return .emptyWord
    else if c = emptySetMark then
      bump
      return .emptySet
    else if c = '(' then
      bump
      let t ← group
      expect ')'
      return t
    else if c = '[' then
      bump
      charClass b
    else if isLiteral c then
      bump
      symbol b .including [.single c]
    else
      fail (.unknownCharacter c)

def repetition : Descent (Tree σ) := do
  enter .repetition
  let t ← atom b group
  if ← eat '*' then return .star t else return t

/-- The factors behind those of `t`. -/
def factors : Tree σ → Descent (Tree σ) :=
  loop (return (← peek).any startsFactor) fun t => return .concat t (← repetition b group)

def concat : Descent (Tree σ) := do
  enter .concat
  factors b group (← repetition b group)

/-- The branches behind those of `t`. -/
def branches : Tree σ → Descent (Tree σ) :=
  loop (eat '|') fun t => return .alternate t (← concat b group)

end

/-- A union, with room for `levels` unions that are open at the same time. -/
def union (b : SymbolBuilder β σ) : Nat → Descent (Tree σ)
  | 0 => overflow
  | levels + 1 => do
    enter .union
    branches b (union b levels) (← concat b (union b levels))

end Descent

/-- What a pattern is read as where the descent has come to `scan` with its union. -/
def Scan.reading (scan : Scan) : Except ParseError (Tree σ) → Reading σ
  | .ok t =>
    match scan.rest with
    | [] => .whole t
    | next :: _ => .stopped t scan.offset next
  | .error e => .failed e

/-- Reads a pattern from its start by recursive descent, with room for `levels` unions that are open
at the same time. There is no analysis if the descent does not return. -/
def descend (b : SymbolBuilder β σ) (levels : Nat) (mode : Mode) (pattern : String) :
    Option (Analysis σ) :=
  ((Descent.union b levels).run.run ⟨pattern.toList, 0, #[]⟩).map fun (result, scan) =>
    { pattern, mode, reading := scan.reading result, events := scan.events }

end RegexPattern.Parser
