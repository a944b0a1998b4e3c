/-
Edits of a pattern, which likely make it malformed, and the ways to draw them. Places are counted in
characters.
-/
import RegexPattern.Random.Draw

namespace RegexPattern.Fuzz

open RegexPattern.Random

/-- The characters from `start` on and before `stop` are to be replaced by `inserted`. -/
structure Edit where
  start : Nat
  stop : Nat
  inserted : String
deriving DecidableEq

/-- The pattern after the edit. -/
def Edit.apply (e : Edit) (src : String) : String :=
  String.ofList (src.toList.take e.start ++ e.inserted.toList ++ src.toList.drop e.stop)

/-- A way to draw edits. New text may be drawn in any way. -/
inductive Strategy where
  /-- Puts new text at the end. -/
  | append (text : Draw String)
  /-- Puts new text anywhere. -/
  | insert (text : Draw String)
  /-- Puts new text in the place of a random span. -/
  | replace (text : Draw String)
  /-- Takes a random span away. -/
  | erase

/-- A random span of a text of `length` characters, which may be empty, given the text that is to
replace it. -/
def Edit.drawSpan (length : Nat) (inserted : String) : Draw Edit := do
  let start ← Draw.range 0 (length + 1)
  let stop ← Draw.range start (length + 1)
  return { start, stop, inserted }

/-- Draws an edit of `src`. The place of an insertion is drawn before its text, a span after it. -/
def Strategy.draw (strategy : Strategy) (src : String) : Draw Edit :=
  match strategy with
  | append text => do
    let inserted ← text
    return { start := src.length, stop := src.length, inserted }
  | insert text => do
    let place ← Draw.range 0 (src.length + 1)
    let inserted ← text
    return { start := place, stop := place, inserted }
  | replace text => do
    let inserted ← text
    Edit.drawSpan src.length inserted
  | erase => Edit.drawSpan src.length ""

/-- Chooses a strategy and draws an edit of `src` by it. -/
def Edit.draw (strategies : Array Strategy) (src : String) : Draw Edit := do
  let strategy ← Draw.choose strategies
  strategy.draw src

end RegexPattern.Fuzz
