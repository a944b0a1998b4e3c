/-
Character classes: the symbols that are sets of characters, and the builder that makes them.
-/
import RegexPattern.CharSet
import RegexPattern.SymbolBuilder

namespace RegexPattern

/-- The characters that a literal matches. -/
structure CharClass where
  set : CharSet
deriving DecidableEq

namespace CharClass

def contains (k : CharClass) (c : Char) : Bool := k.set.contains c

def isEmpty (k : CharClass) : Bool := k.set.isEmpty

/-- The character of a class that has exactly one. -/
def single? (k : CharClass) : Option Char :=
  match k.set.ranges.toList with
  | [r] => if r.isSingle then some r.first else none
  | _ => none

instance : Inspect CharClass where
  inspect k := Inspect.record "CharClass" [("set", inspect k.set)]

/-- A class on the way. Excluded ranges are gathered like included ones, and one exclusion turns
the whole class into the complement of all that was gathered. -/
structure Draft where
  gathered : CharSet
  inverted : Bool

namespace Draft

/-- Nothing gathered, nothing excluded. -/
def fresh : Draft := ⟨.empty, false⟩

def add (polarity : Polarity) (ranges : List CharRange) (d : Draft) : Draft where
  gathered := d.gathered.extend ranges
  inverted := d.inverted || polarity == .excluding

def finish (d : Draft) : CharClass :=
  ⟨if d.inverted then d.gathered.complement else d.gathered⟩

end Draft

/-- Makes the classes that patterns write. -/
def builder : SymbolBuilder Draft CharClass where
  fresh := Draft.fresh
  add := Draft.add
  finish := Draft.finish

/-- Makes the same classes, but gives up where a slice lies out of bounds. -/
def guarded : SymbolBuilder (Option Draft) (Option CharClass) where
  fresh := some .fresh
  add polarity ranges draft := do
    let d ← draft
    let gathered ← ranges.foldlM CharSet.insert? d.gathered
    return ⟨gathered, d.inverted || polarity == .excluding⟩
  finish draft := draft.map Draft.finish

end CharClass

end RegexPattern
