/-
Random patterns: any text over a charset, or well-formed patterns drawn top-down from the grammar.
-/
import RegexPattern.Literal
import RegexPattern.Random.Draw

namespace RegexPattern.Fuzz

open RegexPattern.Random

/-! ## Well-formed patterns -/

namespace Grammar

/-- Several pieces in a row. -/
def pieces (piece : Draw (List Char)) : Nat → Draw (List Char)
  | 0 => return []
  | n + 1 => do
    let first ← piece
    return first ++ (← pieces piece n)

/-- An entry of a class: a letter of the alphabet, or a range between two of them. -/
def entry (alphabet : Array Char) : Draw (List Char) := do
  let a ← Draw.choose alphabet
  if ← Draw.chance 1 2 then
    let b ← Draw.choose alphabet
    return if a ≤ b then [a, '-', b] else [b, '-', a]
  else return [a]

/-- A class of up to three entries, negated in one out of three cases. -/
def charClass (alphabet : Array Char) : Draw (List Char) := do
  let hat := if ← Draw.chance 1 3 then ['^'] else []
  let n ← Draw.range 0 4
  return '[' :: hat ++ (← pieces (entry alphabet) n) ++ [']']

/-- A letter of the alphabet, a class, the mark of the empty word or, where groups are allowed, a
group around what `inner` gives. Only where they are is a number for a group drawn. -/
def atom (alphabet : Array Char) (inner : Option (Unit → Draw (List Char))) :
    Draw (List Char) := do
  match ← Draw.range 0 (if inner.isSome then 4 else 3), inner with
  | 0, _ => return [← Draw.choose alphabet]
  | 1, _ => charClass alphabet
  | 2, _ => return [emptyWordMark]
  | _, none => Draw.fault .noDepthLeft
  | _, some group => return '(' :: (← group ()) ++ [')']

/-- An atom, starred in one out of four cases. -/
def repetition (alphabet : Array Char) (inner : Option (Unit → Draw (List Char))) :
    Draw (List Char) := do
  let a ← atom alphabet inner
  return if ← Draw.chance 1 4 then a ++ ['*'] else a

/-- One to three factors. The mark of the empty set can only be the first of them. -/
def concat (alphabet : Array Char) (inner : Option (Unit → Draw (List Char))) :
    Draw (List Char) := do
  let first ← if ← Draw.chance 1 10 then pure [emptySetMark] else repetition alphabet inner
  let n ← Draw.range 0 3
  return first ++ (← pieces (repetition alphabet inner) n)

/-- Further branches, each after a bar. -/
def branches (alphabet : Array Char) (inner : Option (Unit → Draw (List Char))) (n : Nat) :
    Draw (List Char) :=
  pieces (return '|' :: (← concat alphabet inner)) n

/-- A pattern with groups nested at most `depth` deep. Without groups there is one branch, else
there are up to three. -/
def union (alphabet : Array Char) : Nat → Draw (List Char)
  | 0 => concat alphabet none
  | depth + 1 => do
    let inner := some fun _ => union alphabet depth
    let n ← Draw.range 1 4
    let first ← concat alphabet inner
    return first ++ (← branches alphabet inner (n - 1))

end Grammar

/-! ## Generators -/

/-- A way to draw patterns. -/
inductive Generator where
  /-- Any text over the charset, of a length from `lo` on and below `hi`. -/
  | text (lo hi : Nat) (charset : Array Char)
  /-- Well-formed patterns over an alphabet of literals, groups nested at most `depth` deep. -/
  | grammar (depth : Nat) (alphabet : Array Char)

namespace Generator

/-- Draws a pattern. -/
def generate : Generator → Draw String
  | text lo hi charset => Draw.text lo hi charset
  | grammar depth alphabet => return String.ofList (← Grammar.union alphabet depth)

/-- Whether every pattern drawn is well-formed. -/
def isValid : Generator → Bool
  | text .. => false
  | grammar .. => true

end Generator

/-- A generator stands where a text is to be drawn. -/
instance : Coe Generator (Draw String) := ⟨Generator.generate⟩

end RegexPattern.Fuzz
