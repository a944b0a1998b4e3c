/-
Blanks of every script: the characters with the Unicode property White_Space.
-/
import RegexPattern.Unicode.Table

namespace RegexPattern.Unicode

/-- The code points that are blanks. -/
def whiteSpace : Table where
  ranges := #[
    (0x9, 0xD), (0x20, 0x20), (0x85, 0x85), (0xA0, 0xA0), (0x1680, 0x1680), (0x2000, 0x200A),
    (0x2028, 0x2029), (0x202F, 0x202F), (0x205F, 0x205F), (0x3000, 0x3000)]

/-- Whether `c` is a blank. -/
def isWhiteSpace (c : Char) : Bool := whiteSpace.contains c

end RegexPattern.Unicode
