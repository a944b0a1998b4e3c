/-
What a parser knows between two characters: the unions that are still open, and what it is in the
middle of.
-/
import RegexPattern.CharRange
import RegexPattern.SymbolBuilder
import RegexPattern.Tree

namespace RegexPattern.Parser

variable {σ : Type}

/-! ## Open unions -/

/-- A union that is still open: its closed branches and, of the open branch, the factors before the
latest one, each folded to the left into one tree if there are any. -/
structure Level (σ : Type) where
  branches : Option (Tree σ)
  factors : Option (Tree σ)

namespace Level

def blank : Level σ := ⟨none, none⟩

/-- The open branch with the factor `t` at its end. -/
def branch (l : Level σ) (t : Tree σ) : Tree σ :=
  match l.factors with
  | none => t
  | some first => .concat first t

/-- The union with the factor `t` at its end. -/
def tree (l : Level σ) (t : Tree σ) : Tree σ :=
  match l.branches with
  | none => l.branch t
  | some first => .alternate first (l.branch t)

def addFactor (l : Level σ) (t : Tree σ) : Level σ := { l with factors := some (l.branch t) }

/-- Closes the open branch after the factor `t`. -/
def closeBranch (l : Level σ) (t : Tree σ) : Level σ := ⟨some (l.tree t), none⟩

end Level

/-! ## Open classes -/

/-- A class that is still open: its polarity and its ranges in the order of the text. -/
structure OpenClass where
  polarity : Polarity
  ranges : Array CharRange

def OpenClass.push (k : OpenClass) (r : CharRange) : OpenClass :=
  { k with ranges := k.ranges.push r }

/-! ## States -/

/-- What the next character is read as. -/
inductive Focus (σ : Type) where
  /-- An atom has to start. -/
  | atom
  /-- The factor `t` may be starred, unless it is, or be followed by something else. -/
  | factor (t : Tree σ) (starred : Bool)
  /-- A class has just been opened and may be negated. -/
  | classStart
  /-- An entry of a class, or its end. -/
  | classEntry (k : OpenClass)
  /-- The literal `first` of a class may start a range, or be followed by something else. -/
  | classLiteral (k : OpenClass) (first : Char)
  /-- The end of the range that `first` starts. -/
  | classRange (k : OpenClass) (first : Char)

/-- The innermost open union, those around it, innermost first, and the focus. -/
structure State (σ : Type) where
  outer : List (Level σ)
  level : Level σ
  focus : Focus σ

def State.initial : State σ := ⟨[], .blank, .atom⟩

end RegexPattern.Parser
