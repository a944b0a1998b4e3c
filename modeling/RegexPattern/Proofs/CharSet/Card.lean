/-
The number of characters of a set. A range has as many characters as positions (`width_eq`): its
code points, less the surrogates if it goes across them. The ranges of a normal set share none, so
their widths add up to the number of all its characters (`Normal.card_eq`).
-/
import RegexPattern.Proofs.CharSet.Inversion
import Mathlib.Data.Set.Card
import Mathlib.Order.Interval.Finset.Nat

namespace RegexPattern

variable {r : CharRange} {rs : List CharRange} {S : Set Char}

/-! ## Positions and code points -/

namespace Scalar

/-- The characters in the order of their positions. -/
def equivFin : Char ≃ Fin Char.numCodePoints where
  toFun := Char.ordinal
  invFun := Char.ofOrdinal
  left_inv _ := Char.ofOrdinal_ordinal
  right_inv _ := Char.ordinal_ofOrdinal

instance finite_char : Finite Char := .of_equiv _ equivFin.symm

theorem card_char : Nat.card Char = 0x110000 - 0x800 := by
  rw [Nat.card_congr equivFin, Nat.card_fin]

/-- The position of a character is its code point, less the surrogates if they come before it. -/
theorem toNat_cases (c : Char) :
    c.toNat < 0xD800 ∧ c.ordinal.val = c.toNat ∨
      0xE000 ≤ c.toNat ∧ c.ordinal.val = c.toNat - 0x800 := by
  have hvalid : c.toNat < 0xD800 ∨ 0xDFFF < c.toNat ∧ c.toNat < 0x110000 := c.valid
  unfold Char.ordinal
  split
  · rename_i hlt
    exact .inl ⟨UInt32.lt_iff_toNat_lt.1 hlt, rfl⟩
  · rename_i hlt
    rw [UInt32.lt_iff_toNat_lt] at hlt
    change ¬c.toNat < 0xD800 at hlt
    exact .inr ⟨by omega, rfl⟩

end Scalar

namespace CharRange

/-! ## The width of a range -/

/-- A range has both neighbours of the surrogates if it starts before and ends behind them. -/
theorem contains_neighbours_iff : r.contains '\uD7FF' = true ∧ r.contains '\uE000' = true ↔
    r.first.toNat < 0xD800 ∧ 0xE000 ≤ r.last.toNat := by
  have hbefore : ('\uD7FF').ordinal.val = 0xD7FF := by decide
  have hbehind : ('\uE000').ordinal.val = 0xD800 := by decide
  have hrange := r.first_le_last_ordinal
  change _ ∈ r ∧ _ ∈ r ↔ _
  rw [mem_iff_ordinal, mem_iff_ordinal, hbefore, hbehind]
  rcases Scalar.toNat_cases r.first with hfirst | hfirst <;>
    rcases Scalar.toNat_cases r.last with hlast | hlast <;> omega

/-- Neither the ends of a range nor the surrogates take away more than there is. -/
theorem surrogates_le_codePoints (r : CharRange) : r.first.toNat ≤ r.last.toNat ∧
    (r.contains '\uD7FF' = true ∧ r.contains '\uE000' = true →
      0x800 ≤ r.last.toNat - r.first.toNat + 1) := by
  have hle : r.first.toNat ≤ r.last.toNat := UInt32.le_iff_toNat_le.1 r.first_le_last
  refine ⟨hle, fun h => ?_⟩
  rw [contains_neighbours_iff] at h
  omega

/-- Without the surrogates, the width is the number of positions. -/
theorem width_eq (r : CharRange) : r.width = r.last.ordinal.val + 1 - r.first.ordinal.val := by
  have hrange := r.first_le_last_ordinal
  simp only [width, Bool.and_eq_true, contains_neighbours_iff]
  -- Each end is before the surrogates or behind them.
  rcases Scalar.toNat_cases r.first with hfirst | hfirst <;>
    rcases Scalar.toNat_cases r.last with hlast | hlast <;> split <;> omega

theorem ncard_eq_width (r : CharRange) : {c | c ∈ r}.ncard = r.width := by
  let position : Char → Nat := fun c => c.ordinal.val
  have hinj : position.Injective := fun _ _ => Scalar.ordinal_val_inj.1
  have hpositions : {c | c ∈ r} =
      Set.preimage position (Set.Icc r.first.ordinal.val r.last.ordinal.val) := by
    ext c
    exact mem_iff_ordinal
  have hrange : Set.Icc r.first.ordinal.val r.last.ordinal.val ⊆ Set.range position := by
    intro n hn
    have hlast := r.last.ordinal.isLt
    have hlt : n < Char.numCodePoints := Nat.lt_of_le_of_lt hn.2 hlast
    exact Scalar.exists_ordinal_eq hlt
  rw [hpositions, Set.ncard_preimage_of_injective_subset_range hinj hrange, ← Finset.coe_Icc,
    Set.ncard_coe_finset, Nat.card_Icc, width_eq]

end CharRange

namespace CharSet

/-! ## Counting the characters of a set -/

/-- The widths of ranges that lie apart add up to the number of their characters. -/
theorem foldr_width_eq_ncard : ∀ {rs : List CharRange}, rs.Pairwise CharRange.Apart →
    rs.foldr (fun r n => r.width + n) 0 = (charsOf rs).ncard
  | [], _ => by rw [charsOf_nil, Set.ncard_empty, List.foldr_nil]
  | r :: rs, hrs => by
    obtain ⟨hr, hrest⟩ := List.pairwise_cons.1 hrs
    have hdisjoint : Disjoint {c | c ∈ r} (charsOf rs) := by
      rw [Set.disjoint_left]
      rintro c hcr ⟨s, hs, hcs⟩
      have heq := eq_of_mem_of_mem hrs (by simp) (by simp [hs]) hcr hcs
      exact CharRange.not_apart_self (heq ▸ hr s hs)
    rw [List.foldr_cons, foldr_width_eq_ncard hrest, charsOf_cons, Set.ncard_union_eq hdisjoint,
      CharRange.ncard_eq_width]

variable {s : CharSet}

theorem Normal.card_eq (hs : s.Normal) : s.card = {c | s.contains c = true}.ncard := by
  rw [hs.setOf_contains, ← foldr_width_eq_ncard hs, CharSet.card, Array.foldr_toList]

theorem Normal.card_add_card_complement (hs : s.Normal) :
    s.card + s.complement.card = 0x110000 - 0x800 := by
  have hcompl : {c | s.complement.contains c = true} = {c | s.contains c = true}ᶜ := by
    ext c
    simp [hs.contains_complement]
  rw [hs.card_eq, hs.complement.card_eq, hcompl, Set.ncard_add_ncard_compl, Scalar.card_char]

/-- Whatever a set was built from, its count is the number of its characters, which are finitely
many. Where the count of a range subtracts, it never subtracts more than there is. A set and its
complement have all characters between them. -/
theorem Built.card_counts_characters (h : Built s S) :
    ({c | s.contains c = true}.Finite ∧ s.card = {c | s.contains c = true}.ncard) ∧
    (∀ r ∈ s.ranges, r.first.toNat ≤ r.last.toNat ∧
      (r.contains '\uD7FF' = true ∧ r.contains '\uE000' = true →
        0x800 ≤ r.last.toNat - r.first.toNat + 1)) ∧
    s.card + s.complement.card = 0x110000 - 0x800 := by
  obtain ⟨hs, -⟩ := h.normal_and_charsOf_eq
  exact ⟨⟨Set.toFinite _, hs.card_eq⟩, fun r _ => r.surrogates_le_codePoints,
    hs.card_add_card_complement⟩

/-- Two ranges on either side of the surrogates, which are stored as one, and a single character. -/
theorem Built.card_counts_characters_across_surrogates :
    let s := (CharSet.ofRanges [⟨'\uD700', '\uD7FF', by decide⟩, .single 'a']).insert
      ⟨'\uE000', '\uE0FF', by decide⟩
    (s.card = 0x201 ∧ s.complement.card = 0x110000 - 0x800 - 0x201) ∧
    ({c | s.contains c = true}.Finite ∧ s.card = {c | s.contains c = true}.ncard) ∧
    (∀ r ∈ s.ranges, r.first.toNat ≤ r.last.toNat ∧
      (r.contains '\uD7FF' = true ∧ r.contains '\uE000' = true →
        0x800 ≤ r.last.toNat - r.first.toNat + 1)) ∧
    s.card + s.complement.card = 0x110000 - 0x800 :=
  ⟨by decide +kernel, Built.card_counts_characters (.insert _ (.ofRanges _))⟩

end CharSet

end RegexPattern
