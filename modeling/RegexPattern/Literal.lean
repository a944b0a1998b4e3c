/-
The characters that stand for themselves in a pattern, and the two marks for the empty word and the
empty set.
-/
import RegexPattern.Unicode.Alphanumeric

namespace RegexPattern

/-- The mark for the empty word. It is a letter, so inside a class it stands for itself. -/
def emptyWordMark : Char := 'ε'

/-- The mark for the empty set. -/
def emptySetMark : Char := '∅'

/-- Whether `c` stands for itself: letters and digits of any script, and the underscore. -/
def isLiteral (c : Char) : Bool := Unicode.isAlphanumeric c || c == '_'

/-- Whether a concatenation goes on at `c`. The mark of the empty word lets it go on, being a
letter; the mark of the empty set does not. -/
def startsFactor (c : Char) : Bool := isLiteral c || c == '(' || c == '['

/-- The characters, other than the mark of the empty word, that have a meaning of their own. -/
def reserved : List Char := ['(', ')', '[', ']', '*', '|', '^', '-', emptySetMark]

theorem isLiteral_emptyWordMark : isLiteral emptyWordMark = true := by decide +kernel

theorem isLiteral_of_mem_reserved {c : Char} (h : c ∈ reserved) : isLiteral c = false := by
  have hall : reserved.all (!isLiteral ·) = true := by decide +kernel
  simpa using List.all_eq_true.1 hall c h

/-- A literal has no other meaning, unless it is the mark of the empty word. -/
theorem not_mem_reserved {c : Char} (h : isLiteral c = true) : c ∉ reserved := fun hc => by
  rw [isLiteral_of_mem_reserved hc] at h; cases h

end RegexPattern
