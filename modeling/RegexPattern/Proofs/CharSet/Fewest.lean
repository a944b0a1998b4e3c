/-
No set can be written with fewer ranges than it stores. Every range of a list with the same
characters lies within one stored range, and each stored range has one of them within it
(`length_le_of_charsOf_eq`); this needs that neighbours across the surrogates count as touching.
-/
import RegexPattern.Proofs.CharSet.Canonical
import Mathlib.Data.List.Perm.Subperm

namespace RegexPattern.CharSet

variable {r : CharRange} {c : Char} {rs vs : List CharRange} {s : CharSet} {S : Set Char}

/-- Of ranges that lie apart, the search for a character gives the one that holds it. -/
theorem find?_contains_eq_some (hrs : rs.Pairwise CharRange.Apart) (hr : r ∈ rs) (hc : c ∈ r) :
    rs.find? (·.contains c) = some r := by
  cases hfind : rs.find? (·.contains c) with
  | none => exact absurd hc (List.find?_eq_none.1 hfind r hr)
  | some u =>
    have hcu := List.find?_some hfind
    rw [eq_of_mem_of_mem hrs hr (List.mem_of_find?_eq_some hfind) hc hcu]

/-- No list of ranges with the same characters is shorter than one whose ranges lie apart. -/
theorem length_le_of_charsOf_eq (hrs : rs.Pairwise CharRange.Apart)
    (h : charsOf vs = charsOf rs) : rs.length ≤ vs.length := by
  -- Each range of `vs` stands for the one it starts in; so every range of `rs` is stood for.
  have hsub : rs ⊆ vs.filterMap fun v => rs.find? (·.contains v.first) := by
    intro r hr
    obtain ⟨v, hv, hrv⟩ : r.first ∈ charsOf vs := h ▸ ⟨r, hr, r.first_mem⟩
    obtain ⟨u, hu, hfirst, hlast⟩ := exists_around hrs fun c hc => h ▸ ⟨v, hv, hc⟩
    have hru : r.first ∈ u := CharRange.mem_of_around hfirst hlast hrv
    obtain rfl := eq_of_mem_of_mem hrs hr hu r.first_mem hru
    have hvr : v.first ∈ r := CharRange.mem_of_around hfirst hlast v.first_mem
    exact List.mem_filterMap.2 ⟨v, hv, find?_contains_eq_some hrs hr hvr⟩
  calc
    rs.length ≤ (vs.filterMap fun v => rs.find? (·.contains v.first)).length :=
      ((nodup_of_pairwise_apart hrs).subperm hsub).length_le
    _ ≤ vs.length := List.length_filterMap_le _ _

/-- Whatever a set was built from, no list of ranges that has just its characters is shorter than
the one it stores. So collecting ranges never gives more of them. -/
theorem Built.stores_fewest_ranges (h : Built s S) :
    (∀ vs : List CharRange, (∀ c, c ∈ charsOf vs ↔ s.contains c = true) →
      s.ranges.size ≤ vs.length) ∧
    ∀ vs, (CharSet.ofRanges vs).ranges.size ≤ vs.length := by
  obtain ⟨hs, -⟩ := h.normal_and_charsOf_eq
  constructor
  · intro vs hvs
    apply length_le_of_charsOf_eq hs
    rw [← hs.setOf_contains]
    exact Set.ext hvs
  · intro vs
    exact length_le_of_charsOf_eq (normal_ofRanges vs) (charsOf_ofRanges vs).symm

/-- Two of three ranges overlap across the surrogates and are stored as one. -/
theorem Built.stores_fewest_ranges_across_surrogates :
    let s := (CharSet.ofRanges [.single '\uE000', .single 'a']).insert (.single '\uD7FF')
    let vs := [.single 'a', .single '\uE000', ⟨'\uD7FF', '\uE000', by decide⟩]
    (∀ c, c ∈ charsOf vs ↔ s.contains c = true) ∧ s.ranges.size = 2 ∧
      s.ranges.size ≤ vs.length := by
  intro s vs
  have hsame : s = CharSet.ofRanges vs := by decide +kernel
  have hvs : ∀ c, c ∈ charsOf vs ↔ s.contains c = true := by
    intro c
    rw [hsame, (normal_ofRanges vs).contains_iff, charsOf_ofRanges]
  exact ⟨hvs, by decide +kernel,
    (Built.stores_fewest_ranges (.insert _ (.ofRanges _))).1 vs hvs⟩

end RegexPattern.CharSet
