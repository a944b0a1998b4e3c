/-
How the symbols of literals are made. A parser only says which ranges a literal includes or
excludes; what comes of that is up to the builder. The recording builder keeps just what it was
told, so every other symbol can be had from a recorded one.
-/
import RegexPattern.CharRange

namespace RegexPattern

/-- Whether ranges say which characters match or which do not. -/
inductive Polarity where
  | including
  | excluding
deriving DecidableEq

/-- A way of making symbols of type `σ`, with drafts of type `β` on the way. -/
structure SymbolBuilder (β σ : Type) where
  /-- The draft of a new symbol. -/
  fresh : β
  /-- Takes ranges into a draft. -/
  add : Polarity → List CharRange → β → β
  /-- Makes the symbol. -/
  finish : β → σ

namespace SymbolBuilder

/-- The symbol of a literal that is told its ranges once. -/
def build {β σ : Type} (b : SymbolBuilder β σ) (polarity : Polarity) (ranges : List CharRange) :
    σ :=
  b.finish (b.add polarity ranges b.fresh)

/-- One telling of ranges to a draft. -/
structure Call where
  polarity : Polarity
  ranges : List CharRange
deriving DecidableEq

instance : Inspect Call where
  inspect c :=
    let verb := match c.polarity with
      | .including => "include"
      | .excluding => "exclude"
    Inspect.tuple "Call" [inspect verb, inspect c.ranges]

/-- Symbols that are the calls themselves, in order. -/
def recording : SymbolBuilder (List Call) (List Call) where
  fresh := []
  add polarity ranges calls := calls ++ [⟨polarity, ranges⟩]
  finish calls := calls

end SymbolBuilder

end RegexPattern
