/-
Texts that grow. A buffer has room for a number of bytes, its capacity. Where the room does not do,
the capacity is at least doubled, and there is a greatest one that cannot be exceeded. The memory
for a capacity up to that is always there.
-/
namespace RegexPattern

/-- A text that grows, with room for `capacity` bytes of it in UTF-8. -/
structure Buffer where
  text : String
  capacity : Nat

namespace Buffer

/-- The greatest capacity there is, one less than half of the numbers of 64 bits. -/
def maxCapacity : Nat := UInt64.size / 2 - 1

/-- The smallest capacity but none. -/
def minCapacity : Nat := 8

def empty : Buffer := ⟨"", 0⟩

/-- The bytes that are needed if `more` follow. -/
def needed (b : Buffer) (more : Nat) : Nat := b.text.utf8ByteSize + more

/-- The capacity after the next growth, if `more` bytes follow. -/
def grown (b : Buffer) (more : Nat) : Nat :=
  max minCapacity (max (2 * b.capacity) (b.needed more))

/-- Makes room for `more` bytes behind the text, unless the capacity would be too great. -/
def reserve? (b : Buffer) (more : Nat) : Option Buffer :=
  if b.needed more ≤ b.capacity then some b
  else if b.grown more ≤ maxCapacity then some { b with capacity := b.grown more }
  else none

/-- Puts a character at the end, once there is room for it. -/
def push? (b : Buffer) (c : Char) : Option Buffer :=
  (b.reserve? c.utf8Size).map fun b => { b with text := b.text.push c }

/-! ## Room -/

variable {b b' : Buffer} {more n : Nat} {c : Char}

theorem reserve?_eq_some (h : b.reserve? more = some b') :
    b'.text = b.text ∧ b.capacity ≤ b'.capacity ∧ b.needed more ≤ b'.capacity := by
  unfold reserve? at h
  split at h
  · next hroom =>
    cases h
    exact ⟨rfl, Nat.le_refl _, hroom⟩
  · split at h
    · cases h
      refine ⟨rfl, ?_, ?_⟩ <;> simp only [grown] <;> omega
    · cases h

/-- Room is refused only where there is none yet for the bytes needed and twice these are more than
the greatest capacity and one. -/
theorem reserve?_eq_none (h : b.reserve? more = none) :
    b.capacity < b.needed more ∧ maxCapacity + 1 < 2 * b.needed more := by
  unfold reserve? at h
  split at h
  · cases h
  · next hroom =>
    split at h
    · cases h
    · next hmax =>
      simp only [grown, minCapacity, maxCapacity, UInt64.size] at hmax ⊢
      omega

/-- From nothing on, room is refused just for more bytes than the greatest capacity. -/
theorem reserve?_empty_eq_none_iff : empty.reserve? n = none ↔ maxCapacity < n := by
  have hneeded : empty.needed n = n := Nat.zero_add n
  have hcapacity : empty.capacity = 0 := rfl
  unfold reserve? grown minCapacity maxCapacity UInt64.size
  rw [hneeded, hcapacity]
  split
  · simp only [reduceCtorEq, false_iff]
    omega
  · split
    · simp only [reduceCtorEq, false_iff]
      omega
    · simp only [true_iff]
      omega

theorem push?_eq_some (h : b.push? c = some b') :
    b'.text = b.text.push c ∧ b.capacity ≤ b'.capacity := by
  obtain ⟨r, hr, rfl⟩ := Option.map_eq_some_iff.1 h
  obtain ⟨htext, hcapacity, -⟩ := reserve?_eq_some hr
  exact ⟨congrArg (String.push · c) htext, hcapacity⟩

theorem push?_eq_none (h : b.push? c = none) :
    b.capacity < (b.text.push c).utf8ByteSize ∧
      maxCapacity + 1 < 2 * (b.text.push c).utf8ByteSize := by
  rw [String.utf8ByteSize_push]
  exact reserve?_eq_none (Option.map_eq_none_iff.1 h)

end Buffer

end RegexPattern
