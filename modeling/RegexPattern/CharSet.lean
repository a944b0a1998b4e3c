/-
Sets of characters as arrays of ranges. Every operation keeps the ranges sorted and apart, with at
least one character between any two neighbours, which is what lets binary search find a character
and makes sets with the same characters the same array.
-/
import RegexPattern.CharRange
import RegexPattern.Search

namespace RegexPattern

/-- A set of characters, stored as ranges in increasing order that neither overlap nor touch. -/
structure CharSet where
  ranges : Array CharRange
deriving DecidableEq

namespace CharSet

/-! ## Observation -/

/-- The set of no character. -/
def empty : CharSet := ⟨#[]⟩

/-- The set of every character. -/
def full : CharSet := ⟨#[CharRange.full]⟩

def isEmpty (s : CharSet) : Bool := s.ranges.isEmpty

/-- Whether `c` is in the set: only the first range that does not end before `c` can hold it. -/
def contains (s : CharSet) (c : Char) : Bool :=
  match s.ranges[splitPoint (fun r => r.last < c) s.ranges]? with
  | some r => r.first ≤ c
  | none => false

instance : Membership Char CharSet := ⟨fun s c => s.contains c = true⟩

/-- The number of characters in the set. -/
def card (s : CharSet) : Nat := s.ranges.foldr (fun r n => r.width + n) 0

instance : Inspect CharSet where
  inspect s := Inspect.record "CodePointSet" [("ranges", inspect s.ranges)]

/-! ## Insertion -/

/-- Whether `r` lies before `v` with a character between them. -/
def liesBelow (v r : CharRange) : Bool :=
  match Scalar.next? r.last with
  | some c => c < v.first
  | none => false

/-- Whether `r` starts inside or before `v`, or right after it. -/
def startsWithin (v r : CharRange) : Bool :=
  r.first ≤ v.last || some r.first == Scalar.next? v.last

/-- Adds the characters of `v`. The ranges that overlap or touch `v` stand together; their hull
with `v` takes their place. -/
def insert (s : CharSet) (v : CharRange) : CharSet :=
  let i := splitPoint (liesBelow v) s.ranges
  let j := splitPoint (startsWithin v) s.ranges
  ⟨(s.ranges.extract 0 i).push ((s.ranges.extract i j).foldl CharRange.hull v)
    ++ s.ranges.extract j s.ranges.size⟩

/-- Adds the characters of `v` if the slice that has to give way to them lies within the stored
ranges, as it does in every set that is kept in order. -/
def insert? (s : CharSet) (v : CharRange) : Option CharSet :=
  if splitPoint (liesBelow v) s.ranges ≤ splitPoint (startsWithin v) s.ranges ∧
      splitPoint (startsWithin v) s.ranges ≤ s.ranges.size then some (s.insert v)
  else none

/-- Adds the characters of each range in turn. -/
def extend (s : CharSet) (vs : List CharRange) : CharSet := vs.foldl insert s

/-- The set of the characters of all these ranges. -/
def ofRanges (vs : List CharRange) : CharSet := empty.extend vs

/-- The set of the characters in one or the other. -/
def union (s t : CharSet) : CharSet := s.extend t.ranges.toList

/-! ## Complement -/

/-- The ranges left out by `rs`, from `start` on; `start` is the first character that is not yet
behind, if there is one. -/
def gaps (start : Option Char) : List CharRange → List CharRange
  | [] => (start.bind (CharRange.ofBounds? · Scalar.greatest)).toList
  | r :: rs =>
    (start.bind fun lo => (Scalar.prev? r.first).bind (CharRange.ofBounds? lo)).toList
      ++ gaps (Scalar.next? r.last) rs

/-- The set of all characters that are not in `s`. -/
def complement (s : CharSet) : CharSet := ⟨(gaps (some Scalar.least) s.ranges.toList).toArray⟩

end CharSet

end RegexPattern
