/-
The normal form of a set: every range lies below the next with a character between them (`Apart`).
On a normal set each test that binary search makes holds on the front ranges and on no other, so a
character is found just where some range holds it (`Normal.contains_iff`).
-/
import RegexPattern.CharSet
import Mathlib.Data.Set.Basic

namespace RegexPattern

variable {r s t v : CharRange} {c d : Char}

/-! ## Positions -/

namespace Scalar

theorem lt_iff : c < d ↔ c.ordinal.val < d.ordinal.val := Char.lt_iff_ordinal_lt

theorem le_iff : c ≤ d ↔ c.ordinal.val ≤ d.ordinal.val := Char.le_iff_ordinal_le

/-- There is a character at every position. -/
theorem exists_ordinal_eq {n : Nat} (h : n < Char.numCodePoints) :
    ∃ c : Char, c.ordinal.val = n :=
  ⟨Char.ofOrdinal ⟨n, h⟩, by rw [Char.ordinal_ofOrdinal]⟩

end Scalar

namespace CharRange

theorem first_le_last_ordinal (r : CharRange) : r.first.ordinal.val ≤ r.last.ordinal.val :=
  Scalar.le_iff.1 r.first_le_last

theorem mem_iff_ordinal :
    c ∈ r ↔ r.first.ordinal.val ≤ c.ordinal.val ∧ c.ordinal.val ≤ r.last.ordinal.val := by
  rw [mem_iff, Scalar.le_iff, Scalar.le_iff]

theorem isDisjoint_iff : r.isDisjoint s = true ↔
    r.last.ordinal.val < s.first.ordinal.val ∨ s.last.ordinal.val < r.first.ordinal.val := by
  simp only [isDisjoint, isBefore, Bool.or_eq_true, decide_eq_true_eq, Scalar.lt_iff]

theorem isTouching_iff : r.isTouching s = true ↔
    s.first.ordinal.val = r.last.ordinal.val + 1 ∨
      r.first.ordinal.val = s.last.ordinal.val + 1 := by
  simp only [isTouching, Bool.or_eq_true, beq_iff_eq, Scalar.next?_eq_some_iff]

/-! ## Ranges apart -/

/-- `r` lies below `s`, with a character between them. -/
def Apart (r s : CharRange) : Prop := ∃ d, Scalar.next? r.last = some d ∧ d < s.first

theorem apart_iff : r.Apart s ↔ r.last.ordinal.val + 1 < s.first.ordinal.val := by
  constructor
  · rintro ⟨d, hd, hlt⟩
    rw [Scalar.next?_eq_some_iff] at hd
    rw [Scalar.lt_iff] at hlt
    omega
  · intro h
    have hs := s.first.ordinal.isLt
    obtain ⟨d, hd⟩ := Scalar.exists_ordinal_eq (n := r.last.ordinal.val + 1) (by omega)
    exact ⟨d, Scalar.next?_eq_some_iff.2 hd, Scalar.lt_iff.2 (hd ▸ h)⟩

theorem Apart.trans (h : r.Apart s) (h' : s.Apart t) : r.Apart t := by
  rw [apart_iff] at *
  have := s.first_le_last_ordinal
  omega

theorem Apart.asymm (h : r.Apart s) : ¬s.Apart r := by
  rw [apart_iff] at *
  have := r.first_le_last_ordinal
  have := s.first_le_last_ordinal
  omega

/-- What lies below a range that ends before a character ends before it too. -/
theorem Apart.last_lt (h : r.Apart s) (hs : s.last < c) : r.last < c := by
  rw [apart_iff] at h
  rw [Scalar.lt_iff] at hs ⊢
  have := s.first_le_last_ordinal
  omega

theorem Apart.compare_eq_lt (h : r.Apart s) : r.compare s = .lt := by
  rw [apart_iff] at h
  have hr := r.first_le_last_ordinal
  have hlt : r.first < s.first := Scalar.lt_iff.2 (by omega)
  rw [CharRange.compare, show Ord.compare r.first s.first = .lt from compareOfLessAndEq_eq_lt.2 hlt]
  rfl

theorem Apart.isDisjoint (h : r.Apart s) : r.isDisjoint s = true := by
  rw [apart_iff] at h
  rw [isDisjoint_iff]
  omega

theorem Apart.isTouching (h : r.Apart s) : r.isTouching s = false := by
  rw [apart_iff] at h
  have hr := r.first_le_last_ordinal
  have hs := s.first_le_last_ordinal
  rw [← Bool.not_eq_true, isTouching_iff]
  omega

/-- Two ranges merge unless one of them lies below the other, with a character between them. -/
theorem isMergeable_iff : r.isMergeable s = true ↔ ¬r.Apart s ∧ ¬s.Apart r := by
  have hr := r.first_le_last_ordinal
  have hs := s.first_le_last_ordinal
  rw [isMergeable, Bool.or_eq_true, Bool.not_eq_true', ← Bool.not_eq_true, isDisjoint_iff,
    isTouching_iff, apart_iff, apart_iff]
  omega

/-- Two ranges merge if neither starts further than right behind the end of the other. -/
theorem isMergeable_iff_ordinal : r.isMergeable s = true ↔
    s.first.ordinal.val ≤ r.last.ordinal.val + 1 ∧
      r.first.ordinal.val ≤ s.last.ordinal.val + 1 := by
  rw [isMergeable_iff, apart_iff, apart_iff]
  omega

end CharRange

/-! ## Characters of several ranges -/

/-- The characters that some range of a list holds. -/
def charsOf (rs : List CharRange) : Set Char := {c | ∃ r ∈ rs, c ∈ r}

theorem mem_charsOf {rs : List CharRange} : c ∈ charsOf rs ↔ ∃ r ∈ rs, c ∈ r := Iff.rfl

@[simp] theorem charsOf_nil : charsOf [] = ∅ := by
  ext c; simp [mem_charsOf]

@[simp] theorem charsOf_cons (r : CharRange) (rs : List CharRange) :
    charsOf (r :: rs) = {c | c ∈ r} ∪ charsOf rs := by
  ext c; simp [mem_charsOf]

@[simp] theorem charsOf_append (rs rs' : List CharRange) :
    charsOf (rs ++ rs') = charsOf rs ∪ charsOf rs' := by
  ext c; simp [mem_charsOf, or_and_right, exists_or]

/-! ## Binary search -/

/-- A test that is passed below whatever passes it is passed on a front part of a sorted list. -/
theorem exists_front {α : Type} {R : α → α → Prop} {p : α → Bool}
    (hp : ∀ x y, R x y → p y = true → p x = true) :
    ∀ xs : List α, xs.Pairwise R →
      ∃ L T, xs = L ++ T ∧ (∀ x ∈ L, p x = true) ∧ ∀ x ∈ T, p x = false
  | [], _ => ⟨[], [], rfl, by simp, by simp⟩
  | x :: xs, h => by
    obtain ⟨hx, hxs⟩ := List.pairwise_cons.1 h
    cases hpx : p x with
    | false =>
      refine ⟨[], x :: xs, rfl, by simp, fun y hy => ?_⟩
      rcases List.mem_cons.1 hy with rfl | hy
      · exact hpx
      · cases hpy : p y with
        | false => rfl
        | true => rw [hp x y (hx y hy) hpy] at hpx; cases hpx
    | true =>
      obtain ⟨L, T, rfl, hL, hT⟩ := exists_front hp xs hxs
      refine ⟨x :: L, T, rfl, fun y hy => ?_, hT⟩
      rcases List.mem_cons.1 hy with rfl | hy
      · exact hpx
      · exact hL y hy

/-- Binary search finds the end of that front part. -/
theorem splitPoint_eq_length {α : Type} {p : α → Bool} {xs : Array α} {L T : List α}
    (h : xs.toList = L ++ T) (hL : ∀ x ∈ L, p x = true) (hT : ∀ x ∈ T, p x = false) :
    splitPoint p xs = L.length := by
  obtain ⟨xs⟩ := xs
  obtain rfl : xs = L ++ T := h
  apply splitPoint_eq
  · simp
  · intro i hi hlt
    rw [List.getElem_toArray, List.getElem_append_left hlt]
    exact hL _ (List.getElem_mem _)
  · intro i hi hle
    rw [List.getElem_toArray, List.getElem_append_right hle]
    exact hT _ (List.getElem_mem _)

namespace CharSet

/-! ## Normal sets -/

/-- The ranges lie one below the other, with a character between any two. -/
def Normal (s : CharSet) : Prop := s.ranges.toList.Pairwise CharRange.Apart

variable {s : CharSet}

/-- The ranges of a normal set that end before `c` come first, and the search looks at the range
right behind them and at no other. -/
theorem Normal.exists_search (hs : s.Normal) (c : Char) :
    ∃ L T, s.ranges.toList = L ++ T ∧ (∀ r ∈ L, r.last.ordinal.val < c.ordinal.val) ∧
      (∀ r ∈ T, c.ordinal.val ≤ r.last.ordinal.val) ∧
      (s.contains c = true ↔ ∃ r ∈ T.head?, r.first ≤ c) := by
  obtain ⟨L, T, hLT, hL, hT⟩ := exists_front (R := CharRange.Apart) (p := fun r => r.last < c)
    (fun x y hxy hy => decide_eq_true (hxy.last_lt (of_decide_eq_true hy))) s.ranges.toList hs
  have hget : s.ranges[L.length]? = T.head? := by
    rw [← Array.getElem?_toList, hLT, List.getElem?_append_right (Nat.le_refl _), Nat.sub_self,
      List.head?_eq_getElem?]
  refine ⟨L, T, hLT, fun r hr => ?_, fun r hr => ?_, ?_⟩
  · exact Scalar.lt_iff.1 (of_decide_eq_true (hL r hr))
  · have := of_decide_eq_false (hT r hr)
    rw [Scalar.lt_iff] at this
    omega
  · rw [contains, splitPoint_eq_length hLT hL hT, hget]
    cases T.head? <;> simp

/-- In a normal set the search finds the characters of the ranges and no others. -/
theorem Normal.contains_iff (hs : s.Normal) :
    s.contains c = true ↔ c ∈ charsOf s.ranges.toList := by
  obtain ⟨L, T, hLT, hL, hT, hc⟩ := hs.exists_search c
  rw [hc, hLT, charsOf_append, Set.mem_union]
  have hleft : c ∉ charsOf L := by
    rintro ⟨r, hr, hc⟩
    have := hL r hr
    have := (CharRange.mem_iff_ordinal.1 hc).2
    omega
  constructor
  · rintro ⟨r, hr, hfirst⟩
    have hr : r ∈ T := List.mem_of_mem_head? hr
    have hlast := hT r hr
    rw [Scalar.le_iff] at hfirst
    exact .inr ⟨r, hr, CharRange.mem_iff_ordinal.2 ⟨hfirst, hlast⟩⟩
  · rintro (h | ⟨r, hr, hmem⟩)
    · exact absurd h hleft
    · rw [CharRange.mem_iff_ordinal] at hmem
      cases T with
      | nil => cases hr
      | cons u T =>
        refine ⟨u, rfl, ?_⟩
        rw [Scalar.le_iff]
        rcases List.mem_cons.1 hr with rfl | hr
        · exact hmem.1
        · -- The range in front of it ends at `c` or later, so a later one cannot hold `c`.
          rw [Normal, hLT] at hs
          have hTs := (List.pairwise_append.1 hs).2.1
          have := CharRange.apart_iff.1 ((List.pairwise_cons.1 hTs).1 r hr)
          have := hT u (by simp)
          omega

theorem Normal.setOf_contains (hs : s.Normal) :
    {c | s.contains c = true} = charsOf s.ranges.toList := by
  ext c
  exact hs.contains_iff

/-- Binary search comes to the same as asking range by range. -/
theorem Normal.contains_eq_any (hs : s.Normal) (c : Char) :
    s.contains c = s.ranges.toList.any (·.contains c) := by
  rw [Bool.eq_iff_iff, hs.contains_iff, List.any_eq_true]
  rfl

end CharSet

end RegexPattern
