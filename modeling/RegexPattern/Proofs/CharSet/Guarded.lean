/-
The bounds of insertion. On normal sets the slice that gives way to a new range lies within the
stored ranges, so insertion never fails there; and every set that is made on the way to a class is
normal, so every class can be made (`CharClass.guarded_build`).
-/
import RegexPattern.CharClass
import RegexPattern.Proofs.CharSet.History

namespace RegexPattern

namespace CharSet

variable {s : CharSet}

theorem Normal.insert?_eq (hs : s.Normal) (v : CharRange) : s.insert? v = some (s.insert v) :=
  if_pos (hs.splitPoints_le v)

theorem Normal.foldlM_insert?_eq : ∀ (vs : List CharRange) {s : CharSet}, s.Normal →
    vs.foldlM insert? s = some (s.extend vs)
  | [], _, _ => rfl
  | v :: vs, s, hs => by
    rw [List.foldlM_cons, hs.insert?_eq]
    exact (hs.insert v).foldlM_insert?_eq vs

end CharSet

namespace CharClass

variable {d : Draft} {polarity : Polarity} {ranges : List CharRange}

/-- No slice lies out of bounds when a draft is told ranges. -/
theorem guarded_add (hd : d.gathered.Normal) :
    guarded.add polarity ranges (some d) = some (d.add polarity ranges) := by
  have h := hd.foldlM_insert?_eq ranges
  simp only [guarded, Option.bind_eq_bind, Option.bind_some, h]
  rfl

/-- Whatever ranges a pattern gives, its class can be made. -/
theorem guarded_build (polarity : Polarity) (ranges : List CharRange) :
    guarded.build polarity ranges = some (builder.build polarity ranges) := by
  have h : guarded.add polarity ranges (some .fresh) = some (Draft.fresh.add polarity ranges) :=
    guarded_add CharSet.normal_empty
  exact congrArg (Option.map Draft.finish) h

end CharClass

end RegexPattern
