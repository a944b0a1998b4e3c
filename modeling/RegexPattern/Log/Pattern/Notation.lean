/-
The notation of patterns: characters stand for themselves, apart from sets in square brackets,
groups in parentheses, alternatives with bars between them, conditions on places, and what repeats
the part before it. A notation is read as tokens first. Flags, names of groups and of properties,
and sets inside of sets are not part of it.
-/
import RegexPattern.Literal
import RegexPattern.Log.Pattern
import RegexPattern.Unicode.WhiteSpace

namespace RegexPattern.Log.Pattern

/-! ## Errors -/

/-- What is wrong with the notation of a pattern. -/
inductive Cause where
  | setUnclosed
  | rangeInverted
  | groupUnclosed
  | groupUnopened
  | repetitionMissing
  | countUnclosed
  | countEmpty
  | countInverted
  | escapeUnfinished
  | escapeUnknown
  | unsupported
deriving DecidableEq

/-- The cause in words. -/
def Cause.message : Cause → String
  | setUnclosed => "unclosed character class"
  | rangeInverted => "invalid character class range, the start must be <= the end"
  | groupUnclosed => "unclosed group"
  | groupUnopened => "unopened group"
  | repetitionMissing => "repetition operator missing expression"
  | countUnclosed => "unclosed counted repetition"
  | countEmpty => "repetition quantifier expects a valid decimal"
  | countInverted => "invalid repetition count range, the start must be <= the end"
  | escapeUnfinished => "incomplete escape sequence, reached end of pattern prematurely"
  | escapeUnknown => "unrecognized escape sequence"
  | unsupported => "unsupported notation"

/-- A cause and the part of the notation from `start` on and before `stop` that shows it. -/
structure Error where
  cause : Cause
  start : Nat
  stop : Nat
deriving DecidableEq

/-- The report of the error, line by line: the notation with carets below its faulty part, and the
cause. -/
def Error.report (e : Error) (text : String) : List String :=
  let carets := List.replicate e.start ' ' ++ List.replicate (max 1 (e.stop - e.start)) '^'
  ["regex parse error:", "    " ++ text, "    " ++ String.ofList carets,
    "error: " ++ e.cause.message]

/-! ## Characters and places -/

/-- Whether `c` is part of a word: the literals of patterns are. -/
def isWord (c : Char) : Bool := isLiteral c

/-- Characters that may be escaped to stand for themselves. -/
def isEscapable (c : Char) : Bool :=
  c.toNat < 128 && !c.isAlphanum && c != '<' && c != '>'

/-- The characters that an escaped letter stands for. -/
def escapedSet? : Char → Option (Char → Bool)
  | 'd' => some Char.isDigit
  | 'D' => some (!Char.isDigit ·)
  | 's' => some Unicode.isWhiteSpace
  | 'S' => some (!Unicode.isWhiteSpace ·)
  | 'w' => some isWord
  | 'W' => some (!isWord ·)
  | 'n' => some (· == '\n')
  | 'r' => some (· == '\r')
  | 't' => some (· == '\t')
  | c => if isEscapable c then some (· == c) else none

/-- Whether a place with these neighbours is at the start or the end of a word. -/
def atWordBoundary (before after : Option Char) : Bool := before.any isWord != after.any isWord

/-- What an escaped character stands for. -/
def escaped? : Char → Option Pattern
  | 'b' => some (look atWordBoundary)
  | 'B' => some (look fun before after => !atWordBoundary before after)
  | c => (escapedSet? c).map char

/-- What a character that is not escaped stands for. -/
def single : Char → Pattern
  | '.' => char (· != '\n')
  | '^' => look fun before _ => before.isNone
  | '$' => look fun _ after => after.isNone
  | c => char (· == c)

/-! ## Tokens -/

/-- A part of a notation, with its place where an error may go back to it. -/
inductive Token where
  | part (p : Pattern)
  | opening (place : Nat)
  | closing (place : Nat)
  | bar
  | repetition (place least : Nat) (most : Option Nat)

/-- How often a repetition may be that is written as one character. -/
def repetition? : Char → Option (Nat × Option Nat)
  | '?' => some (0, some 1)
  | '*' => some (0, none)
  | '+' => some (1, none)
  | _ => none

/-- How often a repetition may be that is written with one or two numbers in braces, the first of
them in `least` if there are two. -/
def count (least digits : Option Nat) (start stop : Nat) : Except Error (Nat × Option Nat) :=
  match least, digits with
  | none, none => .error ⟨.countEmpty, start, stop⟩
  | none, some n => .ok (n, some n)
  | some least, none => .ok (least, none)
  | some least, some most =>
    if most < least then .error ⟨.countInverted, start, stop⟩ else .ok (least, some most)

mutual

/-- The tokens of what follows from place `i` on. -/
def tokens (i : Nat) : List Char → Except Error (List Token)
  | [] => .ok []
  | ['\\'] => .error ⟨.escapeUnfinished, i, i + 1⟩
  | '\\' :: c :: cs =>
    match escaped? c with
    | some p => return .part p :: (← tokens (i + 2) cs)
    | none => .error ⟨.escapeUnknown, i, i + 2⟩
  | '(' :: '?' :: ':' :: cs => return .opening i :: (← tokens (i + 3) cs)
  | '(' :: '?' :: _ => .error ⟨.unsupported, i, i + 2⟩
  | '(' :: cs => return .opening i :: (← tokens (i + 1) cs)
  | ')' :: cs => return .closing i :: (← tokens (i + 1) cs)
  | '|' :: cs => return .bar :: (← tokens (i + 1) cs)
  | '[' :: '^' :: ']' :: cs => setTokens i true (· == ']') (i + 3) cs
  | '[' :: '^' :: cs => setTokens i true (fun _ => false) (i + 2) cs
  | '[' :: ']' :: cs => setTokens i false (· == ']') (i + 2) cs
  | '[' :: cs => setTokens i false (fun _ => false) (i + 1) cs
  | '\x7b' :: cs => countTokens i none none (i + 1) cs
  | c :: cs =>
    match repetition? c with
    | none => return .part (single c) :: (← tokens (i + 1) cs)
    | some (least, most) =>
      -- A repetition may be marked to prefer few times, which does not change what occurs.
      match cs with
      | '?' :: cs => return .repetition i least most :: (← tokens (i + 2) cs)
      | cs => return .repetition i least most :: (← tokens (i + 1) cs)

/-- The tokens after the start, at place `start`, of a set that has these characters so far. -/
def setTokens (start : Nat) (negated : Bool) (accepts : Char → Bool) (i : Nat) :
    List Char → Except Error (List Token)
  | [] => .error ⟨.setUnclosed, start, start + 1⟩
  | ']' :: cs => return .part (.char fun c => accepts c != negated) :: (← tokens (i + 1) cs)
  | '[' :: _ => .error ⟨.unsupported, i, i + 1⟩
  | '\\' :: c :: cs =>
    match escapedSet? c with
    | some more => setTokens start negated (fun d => accepts d || more d) (i + 2) cs
    | none => .error ⟨.escapeUnknown, i, i + 2⟩
  | first :: '-' :: last :: cs =>
    if last = ']' then
      return .part (.char fun c => (accepts c || c == first || c == '-') != negated)
        :: (← tokens (i + 3) cs)
    else if last = '-' ∨ last = '[' ∨ last = '\\' then .error ⟨.unsupported, i, i + 3⟩
    else if last < first then .error ⟨.rangeInverted, i, i + 3⟩
    else setTokens start negated (fun c => accepts c || (first ≤ c && c ≤ last)) (i + 3) cs
  | c :: cs => setTokens start negated (fun d => accepts d || d == c) (i + 1) cs

/-- The tokens after the start, at place `start`, of a count that has these digits so far. -/
def countTokens (start : Nat) (least digits : Option Nat) (i : Nat) :
    List Char → Except Error (List Token)
  | [] => .error ⟨.countUnclosed, start, i⟩
  | '\x7d' :: cs => do
    let (least, most) ← count least digits start (i + 1)
    match cs with
    | '?' :: cs => return .repetition start least most :: (← tokens (i + 2) cs)
    | cs => return .repetition start least most :: (← tokens (i + 1) cs)
  | ',' :: cs =>
    if least = none ∧ digits ≠ none then countTokens start digits none (i + 1) cs
    else .error ⟨.countEmpty, i, i⟩
  | c :: cs =>
    if c.isDigit then
      countTokens start least (some (10 * digits.getD 0 + (c.toNat - '0'.toNat))) (i + 1) cs
    else .error ⟨.countUnclosed, start, i⟩

end

/-! ## Trees -/

/-- Alternatives that are being read: the ones before, and the parts of the latest, the last part
first. -/
structure Level where
  branches : Option Pattern
  parts : List Pattern

namespace Level

def blank : Level := ⟨none, []⟩

def push (l : Level) (p : Pattern) : Level := { l with parts := p :: l.parts }

def branch (l : Level) : Pattern := l.parts.foldl (fun rest p => .concat p rest) .empty

/-- The alternatives up to here as one pattern. -/
def whole (l : Level) : Pattern :=
  match l.branches with
  | none => l.branch
  | some first => .either first l.branch

def next (l : Level) : Level := ⟨some l.whole, []⟩

end Level

/-- The pattern of the tokens, inside of the groups that are open, each with its place and what
stands before it. -/
def ofTokens : List (Level × Nat) → Level → List Token → Except Error Pattern
  | [], l, [] => .ok l.whole
  | (_, place) :: _, _, [] => .error ⟨.groupUnclosed, place, place + 1⟩
  | groups, l, .part p :: ts => ofTokens groups (l.push p) ts
  | groups, l, .opening place :: ts => ofTokens ((l, place) :: groups) .blank ts
  | (outer, _) :: groups, l, .closing _ :: ts => ofTokens groups (outer.push l.whole) ts
  | [], _, .closing place :: _ => .error ⟨.groupUnopened, place, place + 1⟩
  | groups, l, .bar :: ts => ofTokens groups l.next ts
  | groups, l, .repetition place least most :: ts =>
    match l.parts with
    | [] => .error ⟨.repetitionMissing, place, place⟩
    | p :: ps => ofTokens groups { l with parts := repeated p least most :: ps } ts

/-- Reads a pattern. -/
def ofString (text : String) : Except Error Pattern := do
  ofTokens [] .blank (← tokens 0 text.toList)

end RegexPattern.Log.Pattern
