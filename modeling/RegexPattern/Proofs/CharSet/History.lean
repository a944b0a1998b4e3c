/-
Sets under any history of operations. `Built` runs each operation twice, on the stored ranges and on
a mathematical set of characters, and the two never part: what is stored stays normal and holds
exactly the characters of the mathematical set (`Built.refines`).
-/
import RegexPattern.Proofs.CharSet.Complement
import RegexPattern.Proofs.CharSet.Insert

namespace RegexPattern.CharSet

variable {s t : CharSet} {S T : Set Char} {vs : List CharRange}

/-- Some history of operations stores `s`, and on sets of characters it makes `S`. -/
inductive Built : CharSet → Set Char → Prop
  | empty : Built .empty ∅
  | full : Built .full Set.univ
  | ofRanges (vs : List CharRange) : Built (.ofRanges vs) (charsOf vs)
  | insert {s : CharSet} {S : Set Char} (v : CharRange) :
      Built s S → Built (s.insert v) (S ∪ {c | c ∈ v})
  | extend {s : CharSet} {S : Set Char} (vs : List CharRange) :
      Built s S → Built (s.extend vs) (S ∪ charsOf vs)
  | union {s t : CharSet} {S T : Set Char} : Built s S → Built t T → Built (s.union t) (S ∪ T)
  | complement {s : CharSet} {S : Set Char} : Built s S → Built s.complement Sᶜ
  /-- The ranges of a set are collected again, in any order. -/
  | recollect {s : CharSet} {S : Set Char} {vs : List CharRange} :
      Built s S → vs.Perm s.ranges.toList → Built (.ofRanges vs) S

/-! ## The sets to start from -/

theorem normal_empty : Normal .empty := List.Pairwise.nil

theorem normal_full : Normal .full := List.pairwise_singleton _ _

theorem charsOf_full : charsOf CharSet.full.ranges.toList = Set.univ := by
  ext c
  have hc := c.ordinal.isLt
  have hfirst : CharRange.full.first.ordinal.val = 0 := by decide
  have hlast : CharRange.full.last.ordinal.val + 1 = Char.numCodePoints := by decide
  simp only [CharSet.full, charsOf_cons, charsOf_nil, Set.union_empty, Set.mem_ofPred_eq,
    CharRange.mem_iff_ordinal, Set.mem_univ, iff_true]
  omega

theorem normal_ofRanges (vs : List CharRange) : (ofRanges vs).Normal :=
  (normal_empty.extend vs).1

theorem charsOf_ofRanges (vs : List CharRange) :
    charsOf (ofRanges vs).ranges.toList = charsOf vs := by
  rw [ofRanges, (normal_empty.extend vs).2]
  simp [CharSet.empty]

/-! ## Any history -/

/-- Each operation keeps the ranges normal and does to their characters what it does to a set. -/
theorem Built.normal_and_charsOf_eq (h : Built s S) :
    s.Normal ∧ charsOf s.ranges.toList = S := by
  induction h with
  | empty => exact ⟨normal_empty, charsOf_nil⟩
  | full => exact ⟨normal_full, charsOf_full⟩
  | ofRanges vs => exact ⟨normal_ofRanges vs, charsOf_ofRanges vs⟩
  | insert v _ ih =>
    obtain ⟨hs, rfl⟩ := ih
    exact ⟨hs.insert v, hs.charsOf_insert v⟩
  | extend vs _ ih =>
    obtain ⟨hs, rfl⟩ := ih
    exact hs.extend _
  | union _ _ ihs iht =>
    obtain ⟨hs, rfl⟩ := ihs
    obtain ⟨-, rfl⟩ := iht
    exact hs.extend _
  | complement _ ih =>
    obtain ⟨hs, rfl⟩ := ih
    exact ⟨hs.complement, hs.charsOf_complement⟩
  | recollect _ hperm ih =>
    -- What the ranges hold does not depend on their order.
    obtain ⟨-, rfl⟩ := ih
    refine ⟨normal_ofRanges _, ?_⟩
    rw [charsOf_ofRanges]
    ext c
    simp only [mem_charsOf, hperm.mem_iff]

/-- After any history the stored ranges are in order, apart and not touching, and searching them
finds exactly the characters that the same history makes of sets. -/
theorem Built.refines (h : Built s S) :
    (∀ r ∈ s.ranges, r.first ≤ r.last) ∧
    s.ranges.toList.Pairwise (fun r v => r.compare v = .lt ∧ r.isDisjoint v = true ∧
      r.isTouching v = false ∧ ∃ d, Scalar.next? r.last = some d ∧ d < v.first) ∧
    ∀ c, s.contains c = true ↔ c ∈ S := by
  obtain ⟨hs, rfl⟩ := h.normal_and_charsOf_eq
  refine ⟨fun r _ => r.first_le_last, ?_, fun c => hs.contains_iff⟩
  exact hs.imp fun h => ⟨h.compare_eq_lt, h.isDisjoint, h.isTouching, h⟩

/-- The neighbours on the two sides of the surrogates, inserted one after the other, are one range
that the complement leaves out. -/
theorem Built.refines_across_surrogates :
    let s :=
      ((CharSet.ofRanges [.single '\uE000', .single 'a']).insert (.single '\uD7FF')).complement
    s.ranges = #[⟨'\x00', '`', by decide⟩, ⟨'b', '\uD7FE', by decide⟩,
        ⟨'\uE001', Scalar.greatest, by decide⟩] ∧
      (∀ r ∈ s.ranges, r.first ≤ r.last) ∧
      s.ranges.toList.Pairwise (fun r v => r.compare v = .lt ∧ r.isDisjoint v = true ∧
        r.isTouching v = false ∧ ∃ d, Scalar.next? r.last = some d ∧ d < v.first) ∧
      ∀ c, s.contains c = true ↔
        c ∈ (charsOf [.single '\uE000', .single 'a'] ∪ {c | c ∈ CharRange.single '\uD7FF'})ᶜ :=
  ⟨by decide +kernel, Built.refines (.complement (.insert _ (.ofRanges _)))⟩

end RegexPattern.CharSet
