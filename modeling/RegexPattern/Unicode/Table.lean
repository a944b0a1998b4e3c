/-
Properties of characters as tables of code point ranges, and the look-up in them.
-/
import RegexPattern.Search

namespace RegexPattern.Unicode

/-- The code points that have a property, as inclusive ranges in increasing order with gaps between
them. A range may go across the surrogate block, which no character meets. -/
structure Table where
  ranges : Array (Nat × Nat)

/-- Looks `c` up by binary search for the first range that does not end before it. -/
def Table.contains (t : Table) (c : Char) : Bool :=
  match t.ranges[splitPoint (fun r => r.2 < c.toNat) t.ranges]? with
  | some r => r.1 ≤ c.toNat
  | none => false

end RegexPattern.Unicode
