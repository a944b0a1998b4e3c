/-
Insertion into a normal set. The ranges fall into those that lie apart below the new one, those that
merge with it, and those that lie apart above it (`Normal.exists_insert`); the hull of the middle
part with the new range takes its place. So the set stays normal and gains just the characters of
the new range.
-/
import RegexPattern.Proofs.CharSet.Normal
import Mathlib.Tactic.Tauto

namespace RegexPattern

variable {r s v : CharRange} {c : Char} {rs : List CharRange}

namespace CharRange

/-! ## Hulls -/

theorem hull_first_ordinal :
    (r.hull s).first.ordinal.val = min r.first.ordinal.val s.first.ordinal.val := by
  simp only [hull, Scalar.le_iff]
  split <;> omega

theorem hull_last_ordinal :
    (r.hull s).last.ordinal.val = max r.last.ordinal.val s.last.ordinal.val := by
  simp only [hull, Scalar.le_iff]
  split <;> omega

theorem apart_hull_iff : v.Apart (r.hull s) ↔ v.Apart r ∧ v.Apart s := by
  simp only [apart_iff, hull_first_ordinal]
  omega

theorem hull_apart_iff : (r.hull s).Apart v ↔ r.Apart v ∧ s.Apart v := by
  simp only [apart_iff, hull_last_ordinal]
  omega

/-- The hull of two ranges that merge has no other characters. -/
theorem mem_hull_iff (h : r.isMergeable s = true) : c ∈ r.hull s ↔ c ∈ r ∨ c ∈ s := by
  rw [isMergeable_iff] at h
  have hr := r.first_le_last_ordinal
  have hs := s.first_le_last_ordinal
  simp only [apart_iff, mem_iff_ordinal, hull_first_ordinal, hull_last_ordinal] at *
  omega

theorem apart_foldl_hull_iff :
    ∀ {rs : List CharRange} {r : CharRange},
      v.Apart (rs.foldl hull r) ↔ v.Apart r ∧ ∀ s ∈ rs, v.Apart s
  | [], r => by simp
  | s :: rs, r => by
    rw [List.foldl_cons, apart_foldl_hull_iff, apart_hull_iff]
    simp [and_assoc]

theorem foldl_hull_apart_iff :
    ∀ {rs : List CharRange} {r : CharRange},
      (rs.foldl hull r).Apart v ↔ r.Apart v ∧ ∀ s ∈ rs, s.Apart v
  | [], r => by simp
  | s :: rs, r => by
    rw [List.foldl_cons, foldl_hull_apart_iff, hull_apart_iff]
    simp [and_assoc]

/-- The hull of ranges that all merge with the first has no other characters. -/
theorem mem_foldl_hull_iff :
    ∀ {rs : List CharRange} {r : CharRange}, (∀ s ∈ rs, r.isMergeable s = true) →
      (c ∈ rs.foldl hull r ↔ c ∈ r ∨ c ∈ charsOf rs)
  | [], r, _ => by simp
  | s :: rs, r, h => by
    have hs := h s (by simp)
    rw [List.foldl_cons, mem_foldl_hull_iff, mem_hull_iff hs, charsOf_cons, Set.mem_union, or_assoc]
    · rfl
    · -- What merges with the first range merges with a hull of it.
      intro u hu
      have hru := h u (by simp [hu])
      rw [isMergeable_iff] at hru ⊢
      rw [hull_apart_iff, apart_hull_iff]
      exact ⟨fun h => hru.1 h.1, fun h => hru.2 h.1⟩

end CharRange

namespace CharSet

variable {s : CharSet} {S : Set Char} {vs : List CharRange}

/-! ## The tests of the two searches -/

theorem liesBelow_iff : liesBelow v r = true ↔ r.Apart v := by
  unfold liesBelow CharRange.Apart
  cases Scalar.next? r.last with
  | none => simp
  | some d => simp

theorem startsWithin_iff : startsWithin v r = true ↔ ¬v.Apart r := by
  rw [startsWithin, Bool.or_eq_true, decide_eq_true_eq, beq_iff_eq, Scalar.le_iff, eq_comm,
    Scalar.next?_eq_some_iff, CharRange.apart_iff]
  omega

theorem liesBelow_of_apart {r t : CharRange} (h : r.Apart t) (ht : liesBelow v t = true) :
    liesBelow v r = true := by
  rw [liesBelow_iff] at ht ⊢
  exact h.trans ht

theorem startsWithin_of_apart {r t : CharRange} (h : r.Apart t) (ht : startsWithin v t = true) :
    startsWithin v r = true := by
  rw [startsWithin_iff] at ht ⊢
  exact fun hr => ht (hr.trans h)

/-- What lies below a range starts before its end. -/
theorem startsWithin_of_liesBelow (h : liesBelow v r = true) : startsWithin v r = true := by
  rw [startsWithin_iff]
  exact (liesBelow_iff.1 h).asymm

/-- On a normal set each of the two tests holds in front and nowhere else, and the front part of the
first one lies inside that of the second. -/
theorem Normal.exists_parts (hs : s.Normal) (v : CharRange) :
    ∃ L M T, s.ranges.toList = L ++ (M ++ T) ∧
      (∀ r ∈ L, liesBelow v r = true) ∧ (∀ r ∈ M ++ T, liesBelow v r = false) ∧
      (∀ r ∈ L ++ M, startsWithin v r = true) ∧ ∀ r ∈ T, startsWithin v r = false := by
  obtain ⟨F, T, hFT, hF, hT⟩ := exists_front (R := CharRange.Apart) (p := startsWithin v)
    (fun _ _ => startsWithin_of_apart) s.ranges.toList hs
  rw [Normal, hFT, List.pairwise_append] at hs
  obtain ⟨L, M, rfl, hL, hM⟩ := exists_front (R := CharRange.Apart) (p := liesBelow v)
    (fun _ _ => liesBelow_of_apart) F hs.1
  rw [List.append_assoc] at hFT
  refine ⟨L, M, T, hFT, hL, fun r hr => ?_, hF, hT⟩
  rcases List.mem_append.1 hr with hr | hr
  · exact hM r hr
  · -- What starts above `v` does not lie below it.
    have hv := hT r hr
    cases hb : liesBelow v r with
    | false => rfl
    | true => rw [startsWithin_of_liesBelow hb] at hv; cases hv

/-- Insertion puts the hull of the ranges between the two ends in their place. -/
theorem ranges_insert {L M T : List CharRange} (hLMT : s.ranges.toList = L ++ (M ++ T))
    (hL : ∀ r ∈ L, liesBelow v r = true) (hMT : ∀ r ∈ M ++ T, liesBelow v r = false)
    (hLM : ∀ r ∈ L ++ M, startsWithin v r = true) (hT : ∀ r ∈ T, startsWithin v r = false) :
    (s.insert v).ranges.toList = L ++ M.foldl CharRange.hull v :: T := by
  have hi := splitPoint_eq_length hLMT hL hMT
  have hj := splitPoint_eq_length (L := L ++ M) (by rw [hLMT, List.append_assoc]) hLM hT
  obtain ⟨⟨rs⟩⟩ := s
  obtain rfl : rs = L ++ (M ++ T) := hLMT
  have hskip : L.drop (L.length + M.length) = [] := List.drop_eq_nil_of_le (by omega)
  have hrest : T.take (L.length + (M.length + T.length) - (L.length + M.length)) = T :=
    List.take_of_length_le (by omega)
  simp only [insert, hi, hj]
  simp [List.extract_eq_take_drop, List.drop_append, hskip, hrest]

/-- On a normal set the two ends of the part that is replaced are in order and within the ranges. -/
theorem Normal.splitPoints_le (hs : s.Normal) (v : CharRange) :
    splitPoint (liesBelow v) s.ranges ≤ splitPoint (startsWithin v) s.ranges ∧
      splitPoint (startsWithin v) s.ranges ≤ s.ranges.size := by
  obtain ⟨L, M, T, hLMT, hL, hMT, hLM, hT⟩ := hs.exists_parts v
  rw [splitPoint_eq_length hLMT hL hMT,
    splitPoint_eq_length (L := L ++ M) (by rw [hLMT, List.append_assoc]) hLM hT,
    ← Array.length_toList, hLMT]
  simp only [List.length_append]
  omega

/-- The ranges of a normal set around a range that is inserted, and what becomes of them. -/
theorem Normal.exists_insert (hs : s.Normal) (v : CharRange) :
    ∃ L M T, s.ranges.toList = L ++ (M ++ T) ∧ (∀ r ∈ L, r.Apart v) ∧
      (∀ r ∈ M, v.isMergeable r = true) ∧ (∀ r ∈ T, v.Apart r) ∧
      (s.insert v).ranges.toList = L ++ M.foldl CharRange.hull v :: T := by
  obtain ⟨L, M, T, hLMT, hL, hMT, hLM, hT⟩ := hs.exists_parts v
  refine ⟨L, M, T, hLMT, fun r hr => ?_, fun r hr => ?_, fun r hr => ?_,
    ranges_insert hLMT hL hMT hLM hT⟩
  · exact liesBelow_iff.1 (hL r hr)
  · have hbelow := hMT r (by simp [hr])
    rw [← Bool.not_eq_true, liesBelow_iff] at hbelow
    exact CharRange.isMergeable_iff.2 ⟨startsWithin_iff.1 (hLM r (by simp [hr])), hbelow⟩
  · have habove := hT r hr
    rwa [← Bool.not_eq_true, startsWithin_iff, not_not] at habove

/-! ## What insertion keeps and adds -/

theorem Normal.insert (hs : s.Normal) (v : CharRange) : (s.insert v).Normal := by
  obtain ⟨L, M, T, hLMT, hL, hM, hT, hi⟩ := hs.exists_insert v
  rw [Normal, hLMT, List.pairwise_append, List.pairwise_append] at hs
  obtain ⟨hLs, ⟨hMs, hTs, hMT⟩, hLMTs⟩ := hs
  rw [Normal, hi, List.pairwise_append, List.pairwise_cons]
  refine ⟨hLs, ⟨fun r hr => ?_, hTs⟩, fun r hr u hu => ?_⟩
  · exact CharRange.foldl_hull_apart_iff.2 ⟨hT r hr, fun m hm => hMT m hm r hr⟩
  · rcases List.mem_cons.1 hu with rfl | hu
    · exact CharRange.apart_foldl_hull_iff.2 ⟨hL r hr, fun m hm => hLMTs r hr m (by simp [hm])⟩
    · exact hLMTs r hr u (by simp [hu])

theorem Normal.charsOf_insert (hs : s.Normal) (v : CharRange) :
    charsOf (s.insert v).ranges.toList = charsOf s.ranges.toList ∪ {c | c ∈ v} := by
  obtain ⟨L, M, T, hLMT, -, hM, -, hi⟩ := hs.exists_insert v
  ext c
  rw [hi, hLMT]
  simp only [charsOf_append, charsOf_cons, Set.mem_union, Set.mem_ofPred_eq,
    CharRange.mem_foldl_hull_iff hM]
  tauto

/-- Inserting one range after another. -/
theorem Normal.extend : ∀ (vs : List CharRange) {s : CharSet}, s.Normal →
    (s.extend vs).Normal ∧
      charsOf (s.extend vs).ranges.toList = charsOf s.ranges.toList ∪ charsOf vs
  | [], s, hs => ⟨hs, by simp [CharSet.extend]⟩
  | v :: vs, s, hs => by
    obtain ⟨h, hc⟩ := (hs.insert v).extend vs
    refine ⟨h, ?_⟩
    rw [hs.charsOf_insert, Set.union_assoc, ← charsOf_cons] at hc
    exact hc

end CharSet

end RegexPattern
