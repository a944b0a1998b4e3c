/-
Characters and texts between quotation marks. Each character is escaped on its own, so a quoted
text is one line of visible characters and its quotation mark stands only at the two ends.
-/
import RegexPattern.Unicode.Unprintable

namespace RegexPattern.Text.Quoted

/-- The mark around a single character. -/
def charMark : Char := '\x27'

/-- The mark around a text. -/
def textMark : Char := '\x22'

/-- How `c` is written between two `mark`s: a backslash goes before the mark and the backslash
itself, four control characters have a letter or digit of their own, any other character without a
visible form is given by its code point in lower-case hexadecimal, and the rest stand as they are. -/
def escape (mark c : Char) : List Char :=
  if c = '\x00' then ['\\', '0']
  else if c = '\t' then ['\\', 't']
  else if c = '\n' then ['\\', 'n']
  else if c = '\r' then ['\\', 'r']
  else if c = '\\' ∨ c = mark then ['\\', c]
  else if Unicode.isUnprintable c then
    ['\\', 'u', '\x7b'] ++ Nat.toDigits 16 c.toNat ++ ['\x7d']
  else [c]

/-- A single character in its quotation marks. -/
def char (c : Char) : String :=
  String.ofList (charMark :: escape charMark c ++ [charMark])

/-- A text in its quotation marks. -/
def text (s : String) : String :=
  String.ofList (textMark :: s.toList.flatMap (escape textMark) ++ [textMark])

end RegexPattern.Text.Quoted
