/-
Turning a set over. Doing it twice gives back the same ranges, since these are determined by their
characters. Going up through the characters, ranges and gaps take turns (`length_gaps`), so there is
one gap more than there are ranges, less one for each end of the characters that a range reaches.
-/
import RegexPattern.Proofs.CharSet.Canonical
import Mathlib.Order.BooleanAlgebra.Set

namespace RegexPattern

variable {r v : CharRange} {c : Char} {rs : List CharRange} {start : Option Char} {S : Set Char}

namespace CharSet

/-! ## Ranges that are ahead -/

theorem isNone_eq_frontier (start : Option Char) :
    start.isNone = decide (Char.numCodePoints = frontier start) := by
  cases start with
  | none => rfl
  | some c =>
    have hc : c.ordinal.val ≠ Char.numCodePoints := Nat.ne_of_lt c.ordinal.isLt
    exact (decide_eq_false hc.symm).symm

/-- Ranges apart above `r` hold no character up to the one right behind `r`. -/
theorem any_contains_eq_false (hr : ∀ s ∈ rs, r.Apart s)
    (hc : c.ordinal.val ≤ r.last.ordinal.val + 1) : rs.any (·.contains c) = false := by
  rw [List.any_eq_false]
  intro s hs hcs
  have hfirst := (CharRange.mem_iff_ordinal.1 hcs).1
  have hapart := CharRange.apart_iff.1 (hr s hs)
  omega

/-- The character at the frontier is in a range that is ahead just if the first of these starts
there. -/
theorem any_contains_frontier (hr : ∀ s ∈ rs, r.Apart s)
    (hle : frontier start ≤ r.first.ordinal.val) :
    (start.any fun c => (r :: rs).any (·.contains c)) =
      decide (r.first.ordinal.val = frontier start) := by
  have hrange := r.first_le_last_ordinal
  cases start with
  | none =>
    have hlt : r.first.ordinal.val ≠ Char.numCodePoints := Nat.ne_of_lt r.first.ordinal.isLt
    exact (decide_eq_false hlt).symm
  | some c =>
    change c.ordinal.val ≤ _ at hle
    have hrest : rs.any (·.contains c) = false := any_contains_eq_false hr (by omega)
    rw [Option.any_some, List.any_cons, hrest, Bool.or_false, Bool.eq_iff_iff, decide_eq_true_eq]
    change c ∈ r ↔ _ = c.ordinal.val
    rw [CharRange.mem_iff_ordinal]
    omega

/-- A range holds the last character just if no character comes behind it. -/
theorem contains_greatest (r : CharRange) :
    r.contains Scalar.greatest = (Scalar.next? r.last).isNone := by
  have hg : Scalar.greatest.ordinal.val + 1 = Char.numCodePoints := by decide
  have hrange := r.first_le_last_ordinal
  have hlast := r.last.ordinal.isLt
  rw [isNone_eq_frontier, frontier_next?, Bool.eq_iff_iff, decide_eq_true_eq]
  change Scalar.greatest ∈ r ↔ _
  rw [CharRange.mem_iff_ordinal]
  omega

/-! ## The number of gaps -/

/-- A gap is one range unless the two positions are the same. -/
theorem IsGap.length_toList {lo hi : Nat} {g : Option CharRange} (hg : IsGap lo hi g) (hle : lo ≤ hi)
    (hhi : hi ≤ Char.numCodePoints) : g.toList.length + (decide (hi = lo)).toNat = 1 := by
  cases g with
  | some v =>
    obtain ⟨hfirst, hlast⟩ := (hg v).1 rfl
    have hne : hi ≠ lo := by
      have := v.first_le_last_ordinal
      omega
    simp [hne]
  | none =>
    have heq : hi = lo := by
      by_contra hne
      have hlt : lo < hi := by omega
      obtain ⟨v, hv⟩ := CharRange.exists_between hlt hhi
      cases (hg v).2 hv
    simp [heq]

/-- Gaps and ranges take turns: there is a gap before each range and one behind the last, but for a
range at the frontier and one that holds the last character. -/
theorem length_gaps : ∀ {rs : List CharRange} {start : Option Char},
    rs.Pairwise CharRange.Apart → (∀ r ∈ rs, frontier start ≤ r.first.ordinal.val) →
      (gaps start rs).length + (start.any fun c => rs.any (·.contains c)).toNat +
        (start.isNone || rs.any (·.contains Scalar.greatest)).toNat = rs.length + 1
  | [], start, _, _ => by
    have hle : frontier start ≤ Char.numCodePoints := by
      cases start with
      | none => exact Nat.le_refl _
      | some c => exact Nat.le_of_lt c.ordinal.isLt
    have hgap := (isGap_last start).length_toList hle (Nat.le_refl _)
    rw [← isNone_eq_frontier] at hgap
    simpa [gaps] using hgap
  | r :: rs, start, hrs, hle => by
    obtain ⟨hr, hrs⟩ := List.pairwise_cons.1 hrs
    have hstart := hle r (by simp)
    have hfirst := r.first.ordinal.isLt
    have hgap := (isGap_before start r).length_toList hstart (Nat.le_of_lt hfirst)
    have ih := length_gaps hrs (frontier_next?_le hr)
    -- The frontier behind `r` is in no later range, and the one before `r` is not the end.
    have hbehind : ((Scalar.next? r.last).any fun c => rs.any (·.contains c)) = false := by
      rw [Option.any_eq_false]
      intro c hc
      rw [Scalar.next?_eq_some_iff] at hc
      exact any_contains_eq_false hr (by omega)
    have hahead : start.isNone = false := by
      rw [isNone_eq_frontier, decide_eq_false_iff_not]
      omega
    rw [hbehind] at ih
    rw [any_contains_frontier hr hstart, hahead, List.any_cons, contains_greatest, Bool.false_or,
      gaps, List.length_append, List.length_cons]
    simp only [Bool.toNat_false] at ih
    omega

/-! ## Turning over -/

variable {s : CharSet}

theorem Normal.complement_complement (hs : s.Normal) : s.complement.complement = s := by
  apply hs.complement.complement.eq_of_charsOf_eq hs
  rw [hs.complement.charsOf_complement, hs.charsOf_complement, compl_compl]

theorem Normal.contains_complement (hs : s.Normal) (c : Char) :
    s.complement.contains c = !s.contains c := by
  rw [Bool.eq_iff_iff, hs.complement.contains_iff, hs.charsOf_complement, Set.mem_compl_iff,
    ← hs.contains_iff, Bool.not_eq_true, Bool.not_eq_true']

theorem Normal.size_complement (hs : s.Normal) :
    s.complement.ranges.size + (s.contains Scalar.least).toNat +
      (s.contains Scalar.greatest).toNat = s.ranges.size + 1 := by
  have h := length_gaps hs fun r _ => frontier_least_le r
  rw [hs.contains_eq_any, hs.contains_eq_any]
  simpa [CharSet.complement] using h

/-- Whatever a set was built from, turning it over twice gives back its ranges. Turned over once, it
stores one range more than before, less one if it has the first character and less one if it has the
last; these ranges are the longest ones without characters of the set, each of them once. -/
theorem Built.complement_twice (h : Built s S) :
    s.complement.complement.ranges = s.ranges ∧
    s.complement.ranges.size + (s.contains Scalar.least).toNat +
      (s.contains Scalar.greatest).toNat = s.ranges.size + 1 ∧
    s.complement.ranges.size ≤ s.ranges.size + 1 ∧
    s.complement.ranges.toList.Nodup ∧
    ∀ v, v ∈ s.complement.ranges ↔ v.Longest {c | s.contains c = false} := by
  obtain ⟨hs, -⟩ := h.normal_and_charsOf_eq
  have hsize := hs.size_complement
  refine ⟨congrArg ranges hs.complement_complement, hsize, by omega,
    nodup_of_pairwise_apart hs.complement, fun v => ?_⟩
  simp only [hs.complement.mem_ranges_iff, hs.contains_complement, Bool.not_eq_true']

/-- A set that reaches both ends of the characters and leaves out the two neighbours of the
surrogates, as one gap, and another character. -/
theorem Built.complement_twice_across_surrogates :
    let s := CharSet.ofRanges [⟨'b', '\uD7FE', by decide⟩, ⟨'\uE001', Scalar.greatest, by decide⟩,
      ⟨'\x00', '`', by decide⟩]
    s.complement.ranges = #[.single 'a', ⟨'\uD7FF', '\uE000', by decide⟩] ∧
    s.complement.complement.ranges = s.ranges ∧
    s.complement.ranges.size + (s.contains Scalar.least).toNat +
      (s.contains Scalar.greatest).toNat = s.ranges.size + 1 ∧
    s.complement.ranges.size ≤ s.ranges.size + 1 ∧
    s.complement.ranges.toList.Nodup ∧
    ∀ v, v ∈ s.complement.ranges ↔ v.Longest {c | s.contains c = false} :=
  ⟨by decide +kernel, Built.complement_twice (.ofRanges _)⟩

end CharSet

end RegexPattern
