/-
Syntax trees of regular expressions over any type of symbols.
-/
import RegexPattern.Text.Inspect

namespace RegexPattern

/-- A regular expression whose literals carry symbols of type `σ`. -/
inductive Tree (σ : Type) where
  /-- Matches no word. -/
  | emptySet
  /-- Matches only the empty word. -/
  | emptyWord
  /-- Matches one character drawn from the symbol. -/
  | literal (symbol : σ)
  /-- Matches a word of `first` followed by a word of `second`. -/
  | concat (first second : Tree σ)
  /-- Matches a word of `first` or of `second`. -/
  | alternate (first second : Tree σ)
  /-- Matches any number of words of `body` in a row. -/
  | star (body : Tree σ)
deriving DecidableEq

namespace Tree

variable {σ : Type}

/-- The number of nodes. -/
def size : Tree σ → Nat
  | emptySet => 1
  | emptyWord => 1
  | literal _ => 1
  | concat first second => 1 + first.size + second.size
  | alternate first second => 1 + first.size + second.size
  | star body => 1 + body.size

/-- The number of nodes on the longest way from the root to a leaf. -/
def depth : Tree σ → Nat
  | emptySet => 1
  | emptyWord => 1
  | literal _ => 1
  | concat first second => 1 + max first.depth second.depth
  | alternate first second => 1 + max first.depth second.depth
  | star body => 1 + body.depth

/-- Each node by its name, with its parts inside. -/
protected def inspect [Inspect σ] : Tree σ → String
  | emptySet => "EmptySet"
  | emptyWord => "EmptyWord"
  | literal symbol => Inspect.tuple "Literal" [inspect symbol]
  | concat first second =>
    Inspect.record "Concatenation" [("first", first.inspect), ("second", second.inspect)]
  | alternate first second =>
    Inspect.record "Alternation" [("first", first.inspect), ("second", second.inspect)]
  | star body => Inspect.record "Star" [("subnode", body.inspect)]

instance [Inspect σ] : Inspect (Tree σ) := ⟨Tree.inspect⟩

end Tree

end RegexPattern
