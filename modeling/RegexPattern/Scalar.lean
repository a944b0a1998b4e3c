/-
Stepping through the Unicode scalar values. The surrogate block holds no scalar value, so U+D7FF
and U+E000 are neighbours. Counted by position without that block, a step up adds one
(`next?_eq_some_iff`) and a step down takes one away (`prev?_eq_some_iff`).
-/
namespace RegexPattern.Scalar

/-- The first scalar value. -/
def least : Char := '\x00'

/-- The last scalar value. -/
def greatest : Char := Char.ofNat 0x10FFFF

/-- The scalar value right after `c`, if there is one. -/
def next? (c : Char) : Option Char := c.succ?

/-- The scalar value right before `c`, if there is one. -/
def prev? (c : Char) : Option Char :=
  if c.ordinal.val = 0 then none
  else some (Char.ofOrdinal ⟨c.ordinal.val - 1, by have := c.ordinal.isLt; omega⟩)

/-! ## Positions -/

theorem ordinal_val_inj {c d : Char} : c.ordinal.val = d.ordinal.val ↔ c = d := by
  rw [← Fin.ext_iff, Char.ordinal_inj]

theorem next?_eq_some_iff {c d : Char} :
    next? c = some d ↔ d.ordinal.val = c.ordinal.val + 1 := by
  rw [next?, Char.succ?_eq, Fin.addNat?_eq_dif]
  have hd := d.ordinal.isLt
  split
  · rw [Option.map_some, Option.some.injEq, ← ordinal_val_inj, Char.ordinal_ofOrdinal]
    exact eq_comm
  · simp only [Option.map_none, reduceCtorEq, false_iff]; omega

theorem prev?_eq_some_iff {c d : Char} :
    prev? c = some d ↔ c.ordinal.val = d.ordinal.val + 1 := by
  rw [prev?]
  split
  · simp only [reduceCtorEq, false_iff]; omega
  · rw [Option.some.injEq, ← ordinal_val_inj, Char.ordinal_ofOrdinal]
    show c.ordinal.val - 1 = d.ordinal.val ↔ _
    omega

end RegexPattern.Scalar
