/-
What the relations of two ranges say about characters. The tests look at the ends of the ranges and
at the character right behind an end; what they answer is whether the ranges have a character in
common, whether one lies between them, and whether their hull has any that neither of them has. In
each case a single character decides, and the positions of characters tell which: the later start,
or the one right behind the earlier end.
-/
import RegexPattern.Proofs.CharSet.Canonical
import RegexPattern.Proofs.CharSet.Merge

namespace RegexPattern.CharRange

variable {r s t : CharRange} {c : Char}

/-! ## Before and behind a range -/

/-- All characters of one range come before `c`, and all of the other one behind it. -/
def Between (r s : CharRange) (c : Char) : Prop :=
  ((∀ d ∈ r, d < c) ∧ ∀ d ∈ s, c < d) ∨ ((∀ d ∈ s, d < c) ∧ ∀ d ∈ r, c < d)

theorem forall_mem_lt_iff : (∀ d ∈ r, d < c) ↔ r.last.ordinal.val < c.ordinal.val := by
  constructor
  · intro h
    exact Scalar.lt_iff.1 (h _ r.last_mem)
  · intro h d hd
    rw [mem_iff_ordinal] at hd
    rw [Scalar.lt_iff]
    omega

theorem forall_mem_gt_iff : (∀ d ∈ r, c < d) ↔ c.ordinal.val < r.first.ordinal.val := by
  constructor
  · intro h
    exact Scalar.lt_iff.1 (h _ r.first_mem)
  · intro h d hd
    rw [mem_iff_ordinal] at hd
    rw [Scalar.lt_iff]
    omega

theorem between_iff : r.Between s c ↔
    (r.last.ordinal.val < c.ordinal.val ∧ c.ordinal.val < s.first.ordinal.val) ∨
      (s.last.ordinal.val < c.ordinal.val ∧ c.ordinal.val < r.first.ordinal.val) := by
  unfold Between
  simp only [forall_mem_lt_iff, forall_mem_gt_iff]

/-- Right behind a range that lies apart from another one there is a character between them. -/
theorem Apart.exists_between (h : r.Apart s) :
    ∃ c : Char, r.last.ordinal.val < c.ordinal.val ∧ c.ordinal.val < s.first.ordinal.val := by
  obtain ⟨d, hd, hlt⟩ := h
  rw [Scalar.next?_eq_some_iff] at hd
  rw [Scalar.lt_iff] at hlt
  exact ⟨d, by omega, hlt⟩

/-! ## The relations -/

theorem isDisjoint_iff_forall : r.isDisjoint s = true ↔ ∀ c, ¬(c ∈ r ∧ c ∈ s) := by
  have hr := r.first_le_last_ordinal
  have hs := s.first_le_last_ordinal
  rw [isDisjoint_iff]
  constructor
  · rintro h c ⟨hcr, hcs⟩
    rw [mem_iff_ordinal] at hcr hcs
    omega
  · intro h
    by_contra hmeet
    -- Ranges that meet have the later one of their starts in common.
    rcases Nat.le_total r.first.ordinal.val s.first.ordinal.val with hle | hle
    · refine h s.first ⟨?_, s.first_mem⟩
      rw [mem_iff_ordinal]
      omega
    · refine h r.first ⟨r.first_mem, ?_⟩
      rw [mem_iff_ordinal]
      omega

theorem isTouching_iff_forall : r.isTouching s = true ↔
    (∀ c, ¬(c ∈ r ∧ c ∈ s)) ∧ ∀ c, ¬r.Between s c := by
  have hr := r.first_le_last_ordinal
  have hs := s.first_le_last_ordinal
  rw [← isDisjoint_iff_forall, isTouching_iff, isDisjoint_iff]
  constructor
  · intro h
    refine ⟨by omega, fun c hc => ?_⟩
    rw [between_iff] at hc
    omega
  · rintro ⟨hdisjoint, hnone⟩
    by_contra hgap
    -- The ranges lie apart, one way or the other.
    have hapart : r.Apart s ∨ s.Apart r := by
      rw [apart_iff, apart_iff]
      omega
    rcases hapart with h | h
    · obtain ⟨c, hc⟩ := h.exists_between
      exact hnone c (between_iff.2 (.inl hc))
    · obtain ⟨c, hc⟩ := h.exists_between
      exact hnone c (between_iff.2 (.inr hc))

/-- The character right behind a range that lies apart from another one is in their hull, but in
neither of them. -/
theorem Apart.exists_hull_only (h : r.Apart s) : ∃ c ∈ r.hull s, c ∉ r ∧ c ∉ s := by
  have hr := r.first_le_last_ordinal
  have hs := s.first_le_last_ordinal
  obtain ⟨c, hrc, hcs⟩ := h.exists_between
  refine ⟨c, ?_, ?_, ?_⟩
  · rw [mem_iff_ordinal, hull_first_ordinal, hull_last_ordinal]
    omega
  · rw [mem_iff_ordinal]
    omega
  · rw [mem_iff_ordinal]
    omega

theorem hull_comm : r.hull s = s.hull r := by
  apply eq_of_ordinal
  · rw [hull_first_ordinal, hull_first_ordinal, Nat.min_comm]
  · rw [hull_last_ordinal, hull_last_ordinal, Nat.max_comm]

theorem isMergeable_iff_forall : r.isMergeable s = true ↔ ∀ c ∈ r.hull s, c ∈ r ∨ c ∈ s := by
  constructor
  · intro h c hc
    exact (mem_hull_iff h).1 hc
  · intro h
    rw [isMergeable_iff]
    constructor
    · intro hapart
      obtain ⟨c, hc, hcr, hcs⟩ := hapart.exists_hull_only
      exact (h c hc).elim hcr hcs
    · intro hapart
      obtain ⟨c, hc, hcs, hcr⟩ := hapart.exists_hull_only
      rw [hull_comm] at hc
      exact (h c hc).elim hcr hcs

theorem mem_hull_left (hc : c ∈ r) : c ∈ r.hull s := by
  rw [mem_iff_ordinal] at hc ⊢
  rw [hull_first_ordinal, hull_last_ordinal]
  omega

theorem mem_hull_right (hc : c ∈ s) : c ∈ r.hull s := by
  rw [hull_comm]
  exact mem_hull_left hc

/-- A range has the characters of the hull just if it has those of both ranges. -/
theorem hull_subset_iff : (∀ c ∈ r.hull s, c ∈ t) ↔ (∀ c ∈ r, c ∈ t) ∧ ∀ c ∈ s, c ∈ t := by
  constructor
  · intro h
    exact ⟨fun c hc => h c (mem_hull_left hc), fun c hc => h c (mem_hull_right hc)⟩
  · rintro ⟨hr, hs⟩ c hc
    obtain ⟨hrfirst, hrlast⟩ := around_of_subset hr
    obtain ⟨hsfirst, hslast⟩ := around_of_subset hs
    rw [mem_iff_ordinal, hull_first_ordinal, hull_last_ordinal] at hc
    rw [mem_iff_ordinal]
    omega

/-! ## Symmetry -/

theorem isDisjoint_comm : r.isDisjoint s = s.isDisjoint r := Bool.or_comm _ _

theorem isTouching_comm : r.isTouching s = s.isTouching r := Bool.or_comm _ _

/-! ## All relations -/

/-- Ranges are disjoint if they have no character in common, touch if there is none between them
either, and merge if their hull has no others than they have. The hull lies within every range that
has all characters of both, and in no other. It makes no difference which of the two comes first.
The two characters around the surrogate block touch. -/
theorem relations_are_those_of_characters (r s : CharRange) :
    (r.isDisjoint s = true ↔ ∀ c, ¬(c ∈ r ∧ c ∈ s)) ∧
    (r.isTouching s = true ↔ (∀ c, ¬(c ∈ r ∧ c ∈ s)) ∧ ∀ c, ¬r.Between s c) ∧
    (r.isMergeable s = true ↔ ∀ c ∈ r.hull s, c ∈ r ∨ c ∈ s) ∧
    (∀ t : CharRange,
      (∀ c ∈ r.hull s, c ∈ t) ↔ (∀ c ∈ r, c ∈ t) ∧ ∀ c ∈ s, c ∈ t) ∧
    (r.isDisjoint s = s.isDisjoint r ∧ r.isTouching s = s.isTouching r ∧
      r.isMergeable s = s.isMergeable r ∧ r.hull s = s.hull r) ∧
    (single '\uD7FF').isTouching (single '\uE000') = true := by
  refine ⟨isDisjoint_iff_forall, isTouching_iff_forall, isMergeable_iff_forall,
    fun t => hull_subset_iff, ⟨isDisjoint_comm, isTouching_comm, isMergeable_comm, hull_comm⟩, ?_⟩
  decide

end RegexPattern.CharRange
