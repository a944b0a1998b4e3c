/-
The complement of a normal set. Going up through the ranges, each gap starts where the last range
left off and ends right before the next one, so the gaps hold just the characters that the ranges
leave out (`mem_charsOf_gaps_iff`) and stay apart from each other (`gaps_pairwise`).
-/
import RegexPattern.Proofs.CharSet.Normal

namespace RegexPattern

variable {r v : CharRange} {c d : Char} {rs : List CharRange} {start : Option Char}

theorem CharRange.ofBounds?_eq_some_iff :
    CharRange.ofBounds? c d = some r ↔ r.first = c ∧ r.last = d := by
  unfold CharRange.ofBounds?
  constructor
  · intro h
    split at h
    · obtain rfl := Option.some.inj h
      exact ⟨rfl, rfl⟩
    · cases h
  · rintro ⟨rfl, rfl⟩
    rw [dif_pos r.first_le_last]

/-- Between any two positions there is a range that reaches from the one right up to the other. -/
theorem CharRange.exists_between {lo hi : Nat} (h : lo < hi) (hhi : hi ≤ Char.numCodePoints) :
    ∃ v : CharRange, v.first.ordinal.val = lo ∧ v.last.ordinal.val + 1 = hi := by
  obtain ⟨c, hc⟩ := Scalar.exists_ordinal_eq (n := lo) (by omega)
  obtain ⟨d, hd⟩ := Scalar.exists_ordinal_eq (n := hi - 1) (by omega)
  have hle : c ≤ d := Scalar.le_iff.2 (by omega)
  refine ⟨⟨c, d, hle⟩, hc, ?_⟩
  show d.ordinal.val + 1 = hi
  omega

namespace CharSet

/-! ## Where the gaps go on -/

/-- The position of the first character that is not yet behind, or the end of all positions. -/
def frontier : Option Char → Nat
  | some c => c.ordinal.val
  | none => Char.numCodePoints

theorem frontier_none : frontier none = Char.numCodePoints := rfl

theorem frontier_next? (c : Char) : frontier (Scalar.next? c) = c.ordinal.val + 1 := by
  cases h : Scalar.next? c with
  | some d => exact Scalar.next?_eq_some_iff.1 h
  | none =>
    have hc := c.ordinal.isLt
    show Char.numCodePoints = _
    -- Any position before the last has a next one.
    by_contra hne
    have hlt : c.ordinal.val + 1 < Char.numCodePoints := by omega
    obtain ⟨d, hd⟩ := Scalar.exists_ordinal_eq hlt
    rw [Scalar.next?_eq_some_iff.2 hd] at h
    cases h

/-! ## One gap -/

/-- A gap is the range between two positions, or nothing if they are the same. -/
def IsGap (lo hi : Nat) (g : Option CharRange) : Prop :=
  ∀ v, g = some v ↔ v.first.ordinal.val = lo ∧ v.last.ordinal.val + 1 = hi

theorem isGap_before (start : Option Char) (r : CharRange) :
    IsGap (frontier start) r.first.ordinal.val
      (start.bind fun lo => (Scalar.prev? r.first).bind (CharRange.ofBounds? lo)) := by
  intro v
  constructor
  · intro h
    obtain ⟨lo, rfl, h'⟩ := Option.bind_eq_some_iff.1 h
    obtain ⟨hi, hhi, hv⟩ := Option.bind_eq_some_iff.1 h'
    obtain ⟨rfl, rfl⟩ := CharRange.ofBounds?_eq_some_iff.1 hv
    exact ⟨rfl, (Scalar.prev?_eq_some_iff.1 hhi).symm⟩
  · rintro ⟨hfirst, hlast⟩
    have hprev : Scalar.prev? r.first = some v.last := Scalar.prev?_eq_some_iff.2 hlast.symm
    cases start with
    | none =>
      have := v.first.ordinal.isLt
      rw [frontier_none] at hfirst
      omega
    | some lo =>
      rw [Option.bind_some, hprev, Option.bind_some, CharRange.ofBounds?_eq_some_iff]
      exact ⟨Scalar.ordinal_val_inj.1 hfirst, rfl⟩

theorem isGap_last (start : Option Char) :
    IsGap (frontier start) Char.numCodePoints
      (start.bind (CharRange.ofBounds? · Scalar.greatest)) := by
  have hg : Scalar.greatest.ordinal.val + 1 = Char.numCodePoints := by decide
  intro v
  constructor
  · intro h
    obtain ⟨lo, rfl, hv⟩ := Option.bind_eq_some_iff.1 h
    obtain ⟨rfl, hlast⟩ := CharRange.ofBounds?_eq_some_iff.1 hv
    rw [hlast]
    exact ⟨rfl, hg⟩
  · rintro ⟨hfirst, hlast⟩
    cases start with
    | none =>
      have := v.first.ordinal.isLt
      rw [frontier_none] at hfirst
      omega
    | some lo =>
      rw [Option.bind_some, CharRange.ofBounds?_eq_some_iff]
      exact ⟨Scalar.ordinal_val_inj.1 hfirst, Scalar.ordinal_val_inj.1 (by omega)⟩

theorem IsGap.mem_charsOf_iff {lo hi : Nat} {g : Option CharRange} (hg : IsGap lo hi g)
    (hle : hi ≤ Char.numCodePoints) :
    c ∈ charsOf g.toList ↔ lo ≤ c.ordinal.val ∧ c.ordinal.val < hi := by
  simp only [mem_charsOf, Option.mem_toList, CharRange.mem_iff_ordinal]
  constructor
  · rintro ⟨v, hv, hc⟩
    obtain ⟨hlo, hhi⟩ := (hg v).1 hv
    omega
  · rintro ⟨hlo, hhi⟩
    have hlt : lo < hi := by omega
    obtain ⟨v, hfirst, hlast⟩ := CharRange.exists_between hlt hle
    exact ⟨v, (hg v).2 ⟨hfirst, hlast⟩, by omega⟩

/-! ## All gaps -/

/-- Behind a range that is apart from the later ones, these are still ahead. -/
theorem frontier_next?_le (hr : ∀ s ∈ rs, r.Apart s) :
    ∀ s ∈ rs, frontier (Scalar.next? r.last) ≤ s.first.ordinal.val := by
  intro s hs
  have := CharRange.apart_iff.1 (hr s hs)
  rw [frontier_next?]
  omega

/-- Every gap starts at the frontier or after it. -/
theorem frontier_le_gaps : ∀ {rs : List CharRange} {start : Option Char},
    rs.Pairwise CharRange.Apart → (∀ r ∈ rs, frontier start ≤ r.first.ordinal.val) →
      ∀ g ∈ gaps start rs, frontier start ≤ g.first.ordinal.val
  | [], start, _, _, g, hg => by
    have := (isGap_last start g).1 (Option.mem_toList.1 hg)
    omega
  | r :: rs, start, hrs, hle, g, hg => by
    obtain ⟨hr, hrs⟩ := List.pairwise_cons.1 hrs
    rcases List.mem_append.1 hg with hg | hg
    · have := (isGap_before start r g).1 (Option.mem_toList.1 hg)
      omega
    · have hlo := frontier_le_gaps hrs (frontier_next?_le hr) g hg
      have := hle r (by simp)
      have := r.first_le_last_ordinal
      rw [frontier_next?] at hlo
      omega

/-- The gaps hold the characters from the frontier on that no range holds. -/
theorem mem_charsOf_gaps_iff : ∀ {rs : List CharRange} {start : Option Char},
    rs.Pairwise CharRange.Apart → (∀ r ∈ rs, frontier start ≤ r.first.ordinal.val) →
      (c ∈ charsOf (gaps start rs) ↔ frontier start ≤ c.ordinal.val ∧ c ∉ charsOf rs)
  | [], start, _, _ => by
    rw [gaps, (isGap_last start).mem_charsOf_iff (Nat.le_refl _)]
    simp [c.ordinal.isLt]
  | r :: rs, start, hrs, hle => by
    obtain ⟨hr, hrs⟩ := List.pairwise_cons.1 hrs
    have hrest := frontier_next?_le hr
    have hstart := hle r (by simp)
    have := r.first_le_last_ordinal
    have := r.first.ordinal.isLt
    rw [gaps, charsOf_append, Set.mem_union, mem_charsOf_gaps_iff hrs hrest,
      (isGap_before start r).mem_charsOf_iff (by omega), charsOf_cons, Set.mem_union,
      Set.mem_ofPred_eq, CharRange.mem_iff_ordinal, frontier_next?]
    -- No later range reaches down to `r`.
    have hlater : c ∈ charsOf rs → r.last.ordinal.val + 1 < c.ordinal.val := by
      rintro ⟨s, hs, hc⟩
      have := CharRange.apart_iff.1 (hr s hs)
      have := (CharRange.mem_iff_ordinal.1 hc).1
      omega
    by_cases hc : c ∈ charsOf rs
    · have := hlater hc
      simp only [hc, or_true, not_true_eq_false, and_false, or_false, iff_false]
      omega
    · simp only [hc, or_false, not_false_eq_true, and_true]
      omega

/-- No gap touches the next one: the range between them is not empty. -/
theorem gaps_pairwise : ∀ {rs : List CharRange} {start : Option Char},
    rs.Pairwise CharRange.Apart → (∀ r ∈ rs, frontier start ≤ r.first.ordinal.val) →
      (gaps start rs).Pairwise CharRange.Apart
  | [], start, _, _ => by
    rw [gaps]
    cases start.bind (CharRange.ofBounds? · Scalar.greatest) <;> simp
  | r :: rs, start, hrs, hle => by
    obtain ⟨hr, hrs⟩ := List.pairwise_cons.1 hrs
    have hrest := frontier_next?_le hr
    rw [gaps, List.pairwise_append]
    refine ⟨?_, gaps_pairwise hrs hrest, ?_⟩
    · cases start.bind fun lo => (Scalar.prev? r.first).bind (CharRange.ofBounds? lo) <;> simp
    · intro g hg h hh
      have hhi := ((isGap_before start r g).1 (Option.mem_toList.1 hg)).2
      have hlo := frontier_le_gaps hrs hrest h hh
      have := r.first_le_last_ordinal
      rw [frontier_next?] at hlo
      rw [CharRange.apart_iff]
      omega

/-! ## The complement -/

variable {s : CharSet}

theorem frontier_least_le (r : CharRange) :
    frontier (some Scalar.least) ≤ r.first.ordinal.val := by
  have : frontier (some Scalar.least) = 0 := by decide
  omega

theorem Normal.complement (hs : s.Normal) : s.complement.Normal :=
  gaps_pairwise hs fun r _ => frontier_least_le r

theorem Normal.charsOf_complement (hs : s.Normal) :
    charsOf s.complement.ranges.toList = (charsOf s.ranges.toList)ᶜ := by
  ext c
  have hleast : frontier (some Scalar.least) = 0 := by decide
  rw [CharSet.complement, mem_charsOf_gaps_iff hs fun r _ => frontier_least_le r, Set.mem_compl_iff,
    hleast]
  simp

end CharSet

end RegexPattern
