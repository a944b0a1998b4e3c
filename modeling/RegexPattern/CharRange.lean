/-
Inclusive ranges of characters: the relations between two of them and their hull.
-/
import RegexPattern.Scalar
import RegexPattern.Text.Inspect

namespace RegexPattern

/-- The characters from `first` to `last`, both included. A single character is a range of which
it is both ends. -/
structure CharRange where
  first : Char
  last : Char
  first_le_last : first ≤ last
deriving DecidableEq

namespace CharRange

/-! ## Construction -/

/-- The range from `first` to `last`, or nothing if these are the wrong way round. -/
def ofBounds? (first last : Char) : Option CharRange :=
  if h : first ≤ last then some ⟨first, last, h⟩ else none

/-- The range of one character. -/
def single (c : Char) : CharRange := ⟨c, c, Char.le_refl c⟩

/-- Every character. -/
def full : CharRange := ⟨Scalar.least, Scalar.greatest, by decide⟩

/-! ## Observation -/

def isSingle (r : CharRange) : Bool := r.first == r.last

def contains (r : CharRange) (c : Char) : Bool := r.first ≤ c && c ≤ r.last

instance : Membership Char CharRange := ⟨fun r c => r.contains c = true⟩

theorem mem_iff {r : CharRange} {c : Char} : c ∈ r ↔ r.first ≤ c ∧ c ≤ r.last := by
  show (r.contains c = true) ↔ _
  simp [contains]

/-- The number of characters in the range. The surrogate block has 0x800 code points and none of
them is a character, so they do not count in a range that goes across it. -/
def width (r : CharRange) : Nat :=
  let codePoints := r.last.toNat - r.first.toNat + 1
  if r.contains '\uD7FF' && r.contains '\uE000' then codePoints - 0x800 else codePoints

/-- Ranges are ordered by their first, then by their last character. -/
protected def compare (r s : CharRange) : Ordering :=
  (compare r.first s.first).then (compare r.last s.last)

instance : Ord CharRange := ⟨CharRange.compare⟩

/-! ## Relations -/

/-- Whether `r` ends before `s` starts. Characters between them are not required. -/
def isBefore (r s : CharRange) : Bool := r.last < s.first

/-- Whether no character is in both. -/
def isDisjoint (r s : CharRange) : Bool := r.isBefore s || s.isBefore r

/-- Whether one ends right before the other starts. -/
def isTouching (r s : CharRange) : Bool :=
  Scalar.next? r.last == some s.first || Scalar.next? s.last == some r.first

/-- Whether the two together are again a range. -/
def isMergeable (r s : CharRange) : Bool := !r.isDisjoint s || r.isTouching s

/-- The smallest range with both inside. -/
def hull (r s : CharRange) : CharRange where
  first := if r.first ≤ s.first then r.first else s.first
  last := if r.last ≤ s.last then s.last else r.last
  first_le_last := by
    have hr := r.first_le_last
    have hs := s.first_le_last
    split <;> split <;> rename_i h₁ h₂
    · exact Char.le_trans h₁ hs
    · exact hr
    · exact hs
    · rcases Char.le_total r.first s.first with h | h
      · exact absurd h h₁
      · exact Char.le_trans h hr

/-- A single character is shown as itself, any other range by its two ends. -/
instance : Inspect CharRange where
  inspect r :=
    if r.isSingle then inspect r.first
    else "[" ++ inspect r.first ++ "; " ++ inspect r.last ++ "]"

end CharRange

end RegexPattern
