/-
The searches in a set. On normal sets each of the three tests that are searched for holds on the
front ranges and on no other (`Normal.isSplit`), so binary search stops where a scan from the front
does. The end of the slice that insertion replaces never comes before its start, and every step of
an insertion in place stays within the array (`insertInPlace?_eq`).
-/
import RegexPattern.Proofs.CharSet.Guarded

namespace RegexPattern

/-! ## Split points -/

section Split

variable {α : Type} {p : α → Bool} {k : Nat}

/-- The first `k` elements pass the test and none behind them does. -/
structure IsSplit (p : α → Bool) (xs : List α) (k : Nat) : Prop where
  le_length : k ≤ xs.length
  front : ∀ x ∈ xs.take k, p x = true
  back : ∀ x ∈ xs.drop k, p x = false

/-- A test that is passed below whatever passes it splits a sorted list. -/
theorem exists_isSplit {R : α → α → Prop} (hp : ∀ x y, R x y → p y = true → p x = true)
    {xs : List α} (h : xs.Pairwise R) : ∃ k, IsSplit p xs k := by
  obtain ⟨L, T, rfl, hL, hT⟩ := exists_front hp xs h
  exact ⟨L.length, by simp, by simpa using hL, by simpa using hT⟩

/-- Binary search finds the split point. -/
theorem IsSplit.splitPoint_eq {xs : Array α} (h : IsSplit p xs.toList k) : splitPoint p xs = k := by
  rw [splitPoint_eq_length (List.take_append_drop k xs.toList).symm h.front h.back,
    List.length_take, Nat.min_eq_left h.le_length]

/-- A scan from the front finds the split point too, and there is no other. -/
theorem IsSplit.findIdx_eq {xs : List α} (h : IsSplit p xs k) : xs.findIdx (!p ·) = k := by
  have hfront : (xs.take k).findIdx (!p ·) = (xs.take k).length :=
    List.findIdx_eq_length_of_false fun x hx => by simp [h.front x hx]
  have hback : (xs.drop k).findIdx (!p ·) = 0 := by
    cases hd : xs.drop k with
    | nil => rfl
    | cons x T =>
      have hx := h.back x (by simp [hd])
      simp [List.findIdx_cons, hx]
  calc xs.findIdx (!p ·) = (xs.take k ++ xs.drop k).findIdx (!p ·) := by
        rw [List.take_append_drop]
    _ = (xs.take k).length := by
        rw [List.findIdx_append, hfront, if_neg (Nat.lt_irrefl _), hback, Nat.zero_add]
    _ = k := by rw [List.length_take, Nat.min_eq_left h.le_length]

end Split

/-! ## Steps in place -/

section InPlace

variable {α : Type}

/-- The elements from `i` up to `j`, which have to be in order and within the array. -/
def slice? (xs : Array α) (i j : Nat) : Option (Array α) :=
  if i ≤ j ∧ j ≤ xs.size then some (xs.extract i j) else none

/-- Moves the elements from `i` on up by one to make room for `x`; `i` must not lie behind the end
of the array. -/
def insertAt? (xs : Array α) (i : Nat) (x : α) : Option (Array α) :=
  if h : i ≤ xs.size then some (xs.insertIdx i x h) else none

/-- Puts `ys` in the place of the elements from `i` up to `j`, which have to be in order and within
the array. -/
def splice? (xs : Array α) (i j : Nat) (ys : Array α) : Option (Array α) :=
  if i ≤ j ∧ j ≤ xs.size then some (xs.extract 0 i ++ ys ++ xs.extract j xs.size) else none

theorem insertIdx_eq_extract {xs : Array α} {i : Nat} {x : α} (h : i ≤ xs.size) :
    xs.insertIdx i x h = (xs.extract 0 i).push x ++ xs.extract i xs.size := by
  obtain ⟨L, T, hLT, rfl, hi⟩ := List.exists_of_modifyTailIdx (List.cons x) (l := xs.toList) h
  obtain ⟨xs⟩ := xs
  obtain rfl : xs = L ++ T := hLT
  apply Array.toList_inj.1
  rw [Array.toList_insertIdx]
  refine hi.trans ?_
  simp [List.extract_eq_take_drop]

end InPlace

namespace CharSet

variable {s : CharSet} {S : Set Char} {v : CharRange}

/-- Insertion step by step, each step with its bounds checked: where the slice to replace is empty
the new range is put in between, otherwise its hull with the slice takes the place of the slice. -/
def insertInPlace? (s : CharSet) (v : CharRange) : Option CharSet :=
  let i := splitPoint (liesBelow v) s.ranges
  let j := splitPoint (startsWithin v) s.ranges
  if i = j then (insertAt? s.ranges i v).map CharSet.mk
  else
    (slice? s.ranges i j).bind fun merging =>
      (splice? s.ranges i j #[merging.foldl CharRange.hull v]).map CharSet.mk

/-- One check of the slice stands for the checks of all steps, on any set. -/
theorem insertInPlace?_eq (s : CharSet) (v : CharRange) : s.insertInPlace? v = s.insert? v := by
  simp only [insertInPlace?, insert?, CharSet.insert]
  generalize splitPoint (liesBelow v) s.ranges = i
  generalize splitPoint (startsWithin v) s.ranges = j
  by_cases hij : i = j
  · subst hij
    -- An empty slice leaves nothing to merge with.
    have hslice : s.ranges.extract i i = #[] := Array.extract_empty_of_stop_le_start (Nat.le_refl i)
    rw [if_pos rfl, insertAt?, hslice]
    by_cases hi : i ≤ s.ranges.size
    · rw [dif_pos hi, if_pos ⟨Nat.le_refl i, hi⟩, insertIdx_eq_extract]
      rfl
    · rw [dif_neg hi, if_neg fun h => hi h.2]
      rfl
  · rw [if_neg hij, slice?]
    by_cases h : i ≤ j ∧ j ≤ s.ranges.size
    · simp only [splice?, if_pos h, Option.bind_some, Option.map_some, Array.append_singleton]
    · rw [if_neg h, if_neg h]
      rfl

/-! ## Searching normal sets -/

theorem Normal.isSplit (hs : s.Normal) {p : CharRange → Bool}
    (hp : ∀ r t : CharRange, r.Apart t → p t = true → p r = true) :
    IsSplit p s.ranges.toList (splitPoint p s.ranges) := by
  obtain ⟨k, hk⟩ := exists_isSplit hp hs
  rwa [hk.splitPoint_eq]

/-- Whatever a set was built from, the tests of `contains` and `insert` each split its ranges, and
every way to find the split point finds what a scan from the front finds. The slice to replace lies
within the ranges, so no step of an insertion is out of bounds, and looking for a character comes to
the same as asking range by range. -/
theorem Built.searches_split_ranges (h : Built s S) (v : CharRange) (c : Char) :
    (∀ p ∈ [fun r : CharRange => decide (r.last < c), liesBelow v, startsWithin v],
      IsSplit p s.ranges.toList (splitPoint p s.ranges) ∧
      ∀ k, IsSplit p s.ranges.toList k → k = s.ranges.toList.findIdx (!p ·)) ∧
    splitPoint (liesBelow v) s.ranges ≤ splitPoint (startsWithin v) s.ranges ∧
    splitPoint (startsWithin v) s.ranges ≤ s.ranges.size ∧
    s.insertInPlace? v = some (s.insert v) ∧
    s.contains c = s.ranges.toList.any (·.contains c) := by
  obtain ⟨hs, -⟩ := h.normal_and_charsOf_eq
  obtain ⟨hij, hj⟩ := hs.splitPoints_le v
  refine ⟨fun p hp => ⟨hs.isSplit ?_, fun k hk => hk.findIdx_eq.symm⟩, hij, hj, ?_,
    hs.contains_eq_any c⟩
  · -- Each of the tests is passed below whatever passes it.
    simp only [List.mem_cons, List.not_mem_nil, or_false] at hp
    rcases hp with rfl | rfl | rfl
    · intro r t hrt ht
      exact decide_eq_true (hrt.last_lt (of_decide_eq_true ht))
    · exact fun r t => liesBelow_of_apart
    · exact fun r t => startsWithin_of_apart
  · rw [insertInPlace?_eq, hs.insert?_eq]

/-- A range behind the surrogates touches the range that ends before them and the one that starts
right after it; the two are the slice that gives way. -/
theorem Built.searches_split_ranges_across_surrogates :
    let s := CharSet.ofRanges [⟨'a', 'b', by decide⟩, ⟨'e', '\uD7FF', by decide⟩,
      ⟨'\uE002', '\uE100', by decide⟩, ⟨'\uF000', Scalar.greatest, by decide⟩]
    let v : CharRange := ⟨'\uE000', '\uE001', by decide⟩
    let c := '\uE050'
    (splitPoint (fun r => r.last < c) s.ranges = 2 ∧ splitPoint (liesBelow v) s.ranges = 1 ∧
      splitPoint (startsWithin v) s.ranges = 3 ∧
      s.insertInPlace? v = some ⟨#[⟨'a', 'b', by decide⟩, ⟨'e', '\uE100', by decide⟩,
        ⟨'\uF000', Scalar.greatest, by decide⟩]⟩) ∧
    (∀ p ∈ [fun r : CharRange => decide (r.last < c), liesBelow v, startsWithin v],
      IsSplit p s.ranges.toList (splitPoint p s.ranges) ∧
      ∀ k, IsSplit p s.ranges.toList k → k = s.ranges.toList.findIdx (!p ·)) ∧
    splitPoint (liesBelow v) s.ranges ≤ splitPoint (startsWithin v) s.ranges ∧
    splitPoint (startsWithin v) s.ranges ≤ s.ranges.size ∧
    s.insertInPlace? v = some (s.insert v) ∧
    s.contains c = s.ranges.toList.any (·.contains c) := by
  intro s v c
  exact ⟨by decide +kernel, Built.searches_split_ranges (.ofRanges _) v c⟩

end CharSet

end RegexPattern
