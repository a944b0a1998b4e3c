/-
What insertion does to each range of a set. The two binary searches ask for the ends of ranges and
their neighbours; they cut out exactly the ranges that merge with the new one, and nothing else
moves (`Normal.ranges_insert_eq`).
-/
import RegexPattern.Proofs.CharSet.Guarded

namespace RegexPattern

variable {r s v : CharRange}

/-! ## Ranges that do not merge -/

namespace CharRange

theorem isMergeable_comm : r.isMergeable s = s.isMergeable r := by
  rw [Bool.eq_iff_iff, isMergeable_iff, isMergeable_iff, and_comm]

theorem Apart.isBefore (h : r.Apart s) : r.isBefore s = true := by
  rw [apart_iff] at h
  rw [CharRange.isBefore, decide_eq_true_eq, Scalar.lt_iff]
  omega

theorem Apart.isBefore_eq_false (h : r.Apart s) : s.isBefore r = false := by
  rw [apart_iff] at h
  have := r.first_le_last_ordinal
  have := s.first_le_last_ordinal
  rw [CharRange.isBefore, decide_eq_false_iff_not, Scalar.lt_iff]
  omega

theorem Apart.isMergeable_eq_false (h : r.Apart s) : r.isMergeable s = false := by
  rw [← Bool.not_eq_true, isMergeable_iff]
  exact fun hm => hm.1 h

end CharRange

namespace CharSet

variable {s : CharSet} {S : Set Char}

/-! ## Insertion, range by range -/

theorem filter_eq_of_forall {α : Type} {p : α → Bool} {xs : List α} {keep : Bool}
    (h : ∀ x ∈ xs, p x = keep) : xs.filter p = if keep then xs else [] := by
  cases keep with
  | true => exact List.filter_eq_self.2 h
  | false => exact List.filter_eq_nil_iff.2 fun x hx => by simp [h x hx]

/-- A test that is the same for all elements of a part keeps whole parts. -/
theorem filter_parts {α : Type} {p : α → Bool} {L M T : List α} (a b c : Bool)
    (hL : ∀ x ∈ L, p x = a) (hM : ∀ x ∈ M, p x = b) (hT : ∀ x ∈ T, p x = c) :
    (L ++ (M ++ T)).filter p =
      (if a then L else []) ++ ((if b then M else []) ++ if c then T else []) := by
  rw [List.filter_append, List.filter_append, filter_eq_of_forall hL, filter_eq_of_forall hM,
    filter_eq_of_forall hT]

/-- The ranges before the new one that do not merge with it stay in front of it, those behind it
that do not merge stay behind it, and its hull with the others is all that comes between. -/
theorem Normal.ranges_insert_eq (hs : s.Normal) (v : CharRange) :
    (s.insert v).ranges.toList =
      s.ranges.toList.filter (fun r => r.isBefore v && !r.isMergeable v) ++
        (s.ranges.toList.filter (·.isMergeable v)).foldl CharRange.hull v ::
        s.ranges.toList.filter (fun r => v.isBefore r && !r.isMergeable v) := by
  obtain ⟨L, M, T, hLMT, hL, hM, hT, hi⟩ := hs.exists_insert v
  have hLm : ∀ r ∈ L, r.isMergeable v = false := fun r hr => (hL r hr).isMergeable_eq_false
  have hMm : ∀ r ∈ M, r.isMergeable v = true := fun r hr => by
    rw [CharRange.isMergeable_comm, hM r hr]
  have hTm : ∀ r ∈ T, r.isMergeable v = false := fun r hr => by
    rw [CharRange.isMergeable_comm, (hT r hr).isMergeable_eq_false]
  -- Each test is passed by one of the three parts and by neither of the other two.
  have hfront : s.ranges.toList.filter (fun r => r.isBefore v && !r.isMergeable v) = L := by
    rw [hLMT, filter_parts true false false]
    · simp
    · exact fun r hr => by simp [(hL r hr).isBefore, hLm r hr]
    · exact fun r hr => by simp [hMm r hr]
    · exact fun r hr => by simp [(hT r hr).isBefore_eq_false]
  have hmerged : s.ranges.toList.filter (·.isMergeable v) = M := by
    rw [hLMT, filter_parts false true false hLm hMm hTm]
    simp
  have hback : s.ranges.toList.filter (fun r => v.isBefore r && !r.isMergeable v) = T := by
    rw [hLMT, filter_parts false false true]
    · simp
    · exact fun r hr => by simp [(hL r hr).isBefore_eq_false]
    · exact fun r hr => by simp [hMm r hr]
    · exact fun r hr => by simp [(hT r hr).isBefore, hTm r hr]
  rw [hi, hfront, hmerged, hback]

/-- Whatever a set was built from, insertion never fails on it, and it puts the hull of the new
range and all ranges that merge with it between those that lie before and those that lie behind,
which stay as they are. -/
theorem Built.insert_merges_mergeable (h : Built s S) (v : CharRange) :
    s.insert? v = some (s.insert v) ∧
    (s.insert v).ranges.toList =
      s.ranges.toList.filter (fun r => r.isBefore v && !r.isMergeable v) ++
        (s.ranges.toList.filter (·.isMergeable v)).foldl CharRange.hull v ::
        s.ranges.toList.filter (fun r => v.isBefore r && !r.isMergeable v) := by
  obtain ⟨hs, -⟩ := h.normal_and_charsOf_eq
  exact ⟨hs.insert?_eq v, hs.ranges_insert_eq v⟩

/-- A range that starts behind the surrogates touches the one that ends before them and overlaps two
more, up to the greatest character; the range in front of these does not merge with it. -/
theorem Built.insert_merges_mergeable_up_to_greatest :
    let s := CharSet.ofRanges [⟨'a', 'b', by decide⟩, ⟨'e', '\uD7FF', by decide⟩,
      ⟨'\uE100', '\uE200', by decide⟩, ⟨'\uF000', Scalar.greatest, by decide⟩]
    let v : CharRange := ⟨'\uE000', '\uF100', by decide⟩
    (s.insert v).ranges.toList = [⟨'a', 'b', by decide⟩, ⟨'e', Scalar.greatest, by decide⟩] ∧
    s.insert? v = some (s.insert v) ∧
    (s.insert v).ranges.toList =
      s.ranges.toList.filter (fun r => r.isBefore v && !r.isMergeable v) ++
        (s.ranges.toList.filter (·.isMergeable v)).foldl CharRange.hull v ::
        s.ranges.toList.filter (fun r => v.isBefore r && !r.isMergeable v) := by
  intro s v
  exact ⟨by decide +kernel, Built.insert_merges_mergeable (.ofRanges _) v⟩

end CharSet

end RegexPattern
