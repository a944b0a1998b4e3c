/-
The ranges of a set are determined by its characters. The stored ranges are the longest ones that
the set has (`mem_iff_longest`): a range all of whose characters are in the set lies within one of
them (`exists_around`), and no two of them meet. So two normal sets of the same characters have the
same ranges (`Normal.eq_of_charsOf_eq`), whatever operations they come from.
-/
import RegexPattern.Proofs.CharSet.History
import Mathlib.Data.List.Pairwise

namespace RegexPattern

variable {r s v : CharRange} {c : Char} {rs ts vs ws : List CharRange}

namespace CharRange

theorem first_mem (r : CharRange) : r.first ∈ r := mem_iff.2 ⟨Char.le_refl _, r.first_le_last⟩

theorem last_mem (r : CharRange) : r.last ∈ r := mem_iff.2 ⟨r.first_le_last, Char.le_refl _⟩

/-- A range around another one has its characters. -/
theorem mem_of_around (hfirst : r.first.ordinal.val ≤ v.first.ordinal.val)
    (hlast : v.last.ordinal.val ≤ r.last.ordinal.val) (hc : c ∈ v) : c ∈ r := by
  rw [mem_iff_ordinal] at hc ⊢
  omega

/-- A range with the characters of another one lies around it. -/
theorem around_of_subset (h : ∀ c ∈ v, c ∈ r) :
    r.first.ordinal.val ≤ v.first.ordinal.val ∧ v.last.ordinal.val ≤ r.last.ordinal.val :=
  ⟨(mem_iff_ordinal.1 (h _ v.first_mem)).1, (mem_iff_ordinal.1 (h _ v.last_mem)).2⟩

/-- All characters of `v` are in `S`, and every range around `v` of which that holds is `v`. -/
def Longest (S : Set Char) (v : CharRange) : Prop :=
  (∀ c ∈ v, c ∈ S) ∧ ∀ u : CharRange, (∀ c ∈ u, c ∈ S) → (∀ c ∈ v, c ∈ u) → u = v

theorem eq_of_ordinal (hfirst : r.first.ordinal.val = s.first.ordinal.val)
    (hlast : r.last.ordinal.val = s.last.ordinal.val) : r = s := by
  obtain ⟨first, last, h⟩ := r
  obtain ⟨first', last', h'⟩ := s
  obtain rfl := Scalar.ordinal_val_inj.1 hfirst
  obtain rfl := Scalar.ordinal_val_inj.1 hlast
  rfl

theorem not_apart_self : ¬r.Apart r := fun h => h.asymm h

end CharRange

namespace CharSet

/-! ## Longest ranges -/

/-- No two ranges that lie apart merge. -/
theorem eq_of_isMergeable (hrs : rs.Pairwise CharRange.Apart) (hr : r ∈ rs) (hs : s ∈ rs)
    (h : r.isMergeable s = true) : r = s := by
  rw [CharRange.isMergeable_iff] at h
  by_contra hne
  have hsymm : Std.Symm fun r s : CharRange => r.Apart s ∨ s.Apart r := ⟨fun _ _ => Or.symm⟩
  have hpair : rs.Pairwise fun r s => r.Apart s ∨ s.Apart r := hrs.imp Or.inl
  rcases hpair.forall hr hs hne with hapart | hapart
  · exact h.1 hapart
  · exact h.2 hapart

/-- No two ranges that lie apart have a character in common. -/
theorem eq_of_mem_of_mem (hrs : rs.Pairwise CharRange.Apart) (hr : r ∈ rs) (hs : s ∈ rs)
    (hcr : c ∈ r) (hcs : c ∈ s) : r = s := by
  rw [CharRange.mem_iff_ordinal] at hcr hcs
  exact eq_of_isMergeable hrs hr hs (CharRange.isMergeable_iff_ordinal.2 (by omega))

/-- A range all of whose characters are in ranges that lie apart lies within one of these. -/
theorem exists_around (hrs : rs.Pairwise CharRange.Apart) (hv : ∀ c ∈ v, c ∈ charsOf rs) :
    ∃ r ∈ rs, r.first.ordinal.val ≤ v.first.ordinal.val ∧
      v.last.ordinal.val ≤ r.last.ordinal.val := by
  obtain ⟨r, hr, hfirst⟩ := hv v.first v.first_mem
  rw [CharRange.mem_iff_ordinal] at hfirst
  refine ⟨r, hr, hfirst.1, ?_⟩
  by_contra hlast
  -- The character right behind `r` is in `v`, too, but the range that holds it would touch `r`.
  have := v.last.ordinal.isLt
  obtain ⟨d, hd⟩ := Scalar.exists_ordinal_eq (n := r.last.ordinal.val + 1) (by omega)
  obtain ⟨s, hs, hds⟩ := hv d (CharRange.mem_iff_ordinal.2 (by omega))
  rw [CharRange.mem_iff_ordinal] at hds
  have hrange := r.first_le_last_ordinal
  have hmerge : r.isMergeable s = true := CharRange.isMergeable_iff_ordinal.2 (by omega)
  obtain rfl := eq_of_isMergeable hrs hr hs hmerge
  omega

/-- Ranges that lie apart are the longest ranges of their characters. -/
theorem mem_iff_longest (hrs : rs.Pairwise CharRange.Apart) :
    v ∈ rs ↔ v.Longest (charsOf rs) := by
  constructor
  · intro hv
    refine ⟨fun c hc => ⟨v, hv, hc⟩, fun u hu hvu => ?_⟩
    obtain ⟨r, hr, hfirst, hlast⟩ := exists_around hrs hu
    -- The range around `u` is around `v`, too, so it is `v`.
    have hvr : v.first ∈ r := CharRange.mem_of_around hfirst hlast (hvu _ v.first_mem)
    obtain rfl := eq_of_mem_of_mem hrs hv hr v.first_mem hvr
    have hends := CharRange.around_of_subset hvu
    exact CharRange.eq_of_ordinal (by omega) (by omega)
  · rintro ⟨hv, hlongest⟩
    obtain ⟨r, hr, hfirst, hlast⟩ := exists_around hrs hv
    have hrv : r = v := by
      apply hlongest r
      · exact fun c hc => ⟨r, hr, hc⟩
      · exact fun c hc => CharRange.mem_of_around hfirst hlast hc
    exact hrv ▸ hr

theorem mem_of_charsOf_eq (hrs : rs.Pairwise CharRange.Apart) (hts : ts.Pairwise CharRange.Apart)
    (h : charsOf rs = charsOf ts) (hr : r ∈ rs) : r ∈ ts := by
  rw [mem_iff_longest hts, ← h]
  exact (mem_iff_longest hrs).1 hr

theorem nodup_of_pairwise_apart (hrs : rs.Pairwise CharRange.Apart) : rs.Nodup := by
  refine List.Pairwise.imp (fun h heq => ?_) hrs
  subst heq
  exact CharRange.not_apart_self h

theorem eq_of_charsOf_eq (hrs : rs.Pairwise CharRange.Apart) (hts : ts.Pairwise CharRange.Apart)
    (h : charsOf rs = charsOf ts) : rs = ts := by
  have hperm : rs.Perm ts :=
    (List.perm_ext_iff_of_nodup (nodup_of_pairwise_apart hrs) (nodup_of_pairwise_apart hts)).2
      fun _ => ⟨mem_of_charsOf_eq hrs hts h, mem_of_charsOf_eq hts hrs h.symm⟩
  exact hperm.eq_of_pairwise (fun _ _ _ _ h h' => absurd h' h.asymm) hrs hts

/-! ## Equal sets -/

variable {s t : CharSet} {S T : Set Char}

theorem Normal.eq_of_charsOf_eq (hs : s.Normal) (ht : t.Normal)
    (h : charsOf s.ranges.toList = charsOf t.ranges.toList) : s = t := by
  obtain ⟨⟨rs⟩⟩ := s
  obtain ⟨⟨ts⟩⟩ := t
  obtain rfl : rs = ts := CharSet.eq_of_charsOf_eq hs ht h
  rfl

/-- The stored ranges of a normal set are its longest ones. -/
theorem Normal.mem_ranges_iff (hs : s.Normal) :
    v ∈ s.ranges ↔ v.Longest {c | s.contains c = true} := by
  rw [hs.setOf_contains, ← mem_iff_longest hs, Array.mem_toList_iff]

/-- Normal sets are equal if no search tells them apart. -/
theorem Normal.eq_iff_contains (hs : s.Normal) (ht : t.Normal) :
    s = t ↔ ∀ c, s.contains c = t.contains c := by
  constructor
  · rintro rfl c
    rfl
  · intro h
    apply hs.eq_of_charsOf_eq ht
    ext c
    rw [← hs.contains_iff, ← ht.contains_iff, h]

theorem ofRanges_eq_iff : ofRanges vs = ofRanges ws ↔ charsOf vs = charsOf ws := by
  constructor
  · intro h
    rw [← charsOf_ofRanges vs, h, charsOf_ofRanges]
  · intro h
    apply (normal_ofRanges vs).eq_of_charsOf_eq (normal_ofRanges ws)
    rw [charsOf_ofRanges, charsOf_ofRanges, h]

/-- The characters of a list of ranges do not depend on their order or on how often each occurs. -/
theorem charsOf_congr (h : ∀ v, v ∈ vs ↔ v ∈ ws) : charsOf vs = charsOf ws := by
  ext c
  simp only [mem_charsOf, h]

/-- Two ranges that merge have the same characters as their hull. -/
theorem charsOf_hull {u v : CharRange} (h : u.isMergeable v = true) :
    charsOf (vs ++ u :: v :: ws) = charsOf (vs ++ u.hull v :: ws) := by
  ext c
  simp only [charsOf_append, charsOf_cons, Set.mem_union, Set.mem_ofPred_eq,
    CharRange.mem_hull_iff h, or_assoc]

/-- Two sets, whatever their histories, are the same array of ranges if and only if no character is
in one and not in the other. So collecting ranges gives the same set for two lists if and only if
these have the same characters: in any order, with repetitions or without, and whether a range is
whole or in pieces that overlap or touch, be it across the surrogates. -/
theorem Built.eq_iff_contains_eq (hs : Built s S) (ht : Built t T) :
    (s = t ↔ ∀ c, s.contains c = t.contains c) ∧
    (∀ vs ws, CharSet.ofRanges vs = CharSet.ofRanges ws ↔ charsOf vs = charsOf ws) ∧
    (∀ vs ws, (∀ v, v ∈ vs ↔ v ∈ ws) → CharSet.ofRanges vs = CharSet.ofRanges ws) ∧
    ∀ vs ws (u v : CharRange), u.isMergeable v = true →
      CharSet.ofRanges (vs ++ u :: v :: ws) = CharSet.ofRanges (vs ++ u.hull v :: ws) := by
  obtain ⟨hsn, -⟩ := hs.normal_and_charsOf_eq
  obtain ⟨htn, -⟩ := ht.normal_and_charsOf_eq
  refine ⟨hsn.eq_iff_contains htn, fun vs ws => ofRanges_eq_iff, fun vs ws h => ?_,
    fun vs ws u v h => ?_⟩
  · exact ofRanges_eq_iff.2 (charsOf_congr h)
  · exact ofRanges_eq_iff.2 (charsOf_hull h)

/-- The two neighbours of the surrogates make the same set one by one, last one first, as they do
together in a set that is turned over twice. -/
theorem Built.eq_iff_contains_eq_across_surrogates :
    let s := (CharSet.ofRanges [.single '\uE000', .single 'a']).insert (.single '\uD7FF')
    let t := (CharSet.ofRanges [.single 'a', ⟨'\uD7FF', '\uE000', by decide⟩]).complement.complement
    s = t ∧ ∀ c, s.contains c = t.contains c := by
  intro s t
  have h : s = t := by decide +kernel
  exact ⟨h, (Built.eq_iff_contains_eq (.insert _ (.ofRanges _))
    (.complement (.complement (.ofRanges _)))).1.1 h⟩

end CharSet

end RegexPattern
