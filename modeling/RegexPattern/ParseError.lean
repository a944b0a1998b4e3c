/-
Why a pattern is refused and where, with the texts that report it.
-/
import RegexPattern.Text.Inspect

namespace RegexPattern

/-- What is wrong with a pattern. -/
inductive ParseError.Cause where
  /-- The pattern ends where an atom has to follow. -/
  | unexpectedEnd
  /-- No atom starts with this character. -/
  | unknownCharacter (c : Char)
  /-- A closing bracket is missing; `found` stands in its place, if anything does. -/
  | expectedCharacter (expected : Char) (found : Option Char)
  /-- An entry of a class is not a literal; `found` stands in its place, if anything does. -/
  | expectedLiteral (found : Option Char)
  /-- A range in a class ends before it starts. -/
  | invertedRange (first last : Char)
  /-- Something is left over after the expression. -/
  | trailingInput (c : Char)
deriving DecidableEq

/-- A cause and its place in the pattern, counted in characters from zero. -/
structure ParseError where
  cause : ParseError.Cause
  offset : Nat
deriving DecidableEq

namespace ParseError

/-- What stands at the place of an error. -/
def foundText : Option Char → String
  | some c => Text.Quoted.char c
  | none => "end of pattern"

/-- The cause in words. -/
def Cause.message : Cause → String
  | unexpectedEnd => "unexpected end of pattern"
  | unknownCharacter c => "unknown character " ++ Text.Quoted.char c
  | expectedCharacter expected found =>
    "expected " ++ Text.Quoted.char expected ++ ", found " ++ foundText found
  | expectedLiteral found => "expected a literal character, found " ++ foundText found
  | invertedRange first last =>
    "inverted range " ++ Text.Quoted.char first ++ "-" ++ Text.Quoted.char last
      ++ " in character class"
  | trailingInput c => "unexpected trailing input starting with " ++ Text.Quoted.char c

/-- The cause in words, without its place. -/
def message (e : ParseError) : String := e.cause.message

/-- The cause in words and its place. -/
protected def toString (e : ParseError) : String :=
  e.message ++ " at offset " ++ Nat.repr e.offset

instance : ToString ParseError := ⟨ParseError.toString⟩

/-- The text with blanks before it that fill it up to a width. -/
def alignRight (width : Nat) (text : String) : String :=
  String.ofList (List.replicate (width - text.length) ' ') ++ text

/-- The pattern, and on the next line a caret below the place of the error, with the message. -/
def render (e : ParseError) (pattern : String) : String :=
  pattern ++ "\n" ++ alignRight (e.offset + 1) "^" ++ " " ++ e.message

/-- The greatest width that a text can be filled up to. -/
def widest : Nat := 65535

/-- The pattern and the line with the caret, if that can be filled up to the caret. -/
def render? (e : ParseError) (pattern : String) : Option String :=
  if e.offset + 1 ≤ widest then some (e.render pattern) else none

instance : Inspect Cause where
  inspect
    | .unexpectedEnd => "UnexpectedEnd"
    | .unknownCharacter c => Inspect.tuple "UnknownCharacter" [inspect c]
    | .expectedCharacter expected found =>
      Inspect.record "ExpectedCharacterMismatch"
        [("expected", inspect expected), ("found", inspect found)]
    | .expectedLiteral found => Inspect.record "ExpectedLiteralMismatch" [("found", inspect found)]
    | .invertedRange first last =>
      Inspect.record "InvertedRange" [("start", inspect first), ("end", inspect last)]
    | .trailingInput c => Inspect.tuple "TrailingInput" [inspect c]

instance : Inspect ParseError where
  inspect e :=
    Inspect.record "ParseError" [("kind", inspect e.cause), ("offset", inspect e.offset)]

end ParseError

end RegexPattern
