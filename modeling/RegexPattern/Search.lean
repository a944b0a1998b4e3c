/-
Binary search for the place where a test that holds at first stops holding. On an array whose
elements pass the test up to some point and fail it from there on, `splitPoint` is that point.
-/
namespace RegexPattern

/-- Halves the index interval from `lo` to `hi`, keeping the half that holds the split point. -/
def splitPoint.search {α : Type} (p : α → Bool) (xs : Array α) (lo hi : Nat) (h : hi ≤ xs.size) :
    Nat :=
  if hlt : lo < hi then
    if p (xs[(lo + hi) / 2]) then search p xs ((lo + hi) / 2 + 1) hi h
    else search p xs lo ((lo + hi) / 2) (by omega)
  else lo
termination_by hi - lo

/-- The number of leading elements that pass `p`, found by binary search. -/
def splitPoint {α : Type} (p : α → Bool) (xs : Array α) : Nat :=
  splitPoint.search p xs 0 xs.size (Nat.le_refl _)

/-! ## The split point -/

/-- Where everything below `k` passes and nothing from `k` on does, the search between two bounds
around `k` finds `k`. -/
theorem splitPoint.search_eq {α : Type} {p : α → Bool} {xs : Array α} {k : Nat}
    (below : ∀ i (h : i < xs.size), i < k → p xs[i] = true)
    (above : ∀ i (h : i < xs.size), k ≤ i → p xs[i] = false)
    (lo hi : Nat) (h : hi ≤ xs.size) (hlo : lo ≤ k) (hhi : k ≤ hi) :
    splitPoint.search p xs lo hi h = k := by
  fun_induction splitPoint.search p xs lo hi h with
  | case1 lo hi h hlt hp ih =>
    apply ih _ hhi
    rcases Nat.lt_or_ge ((lo + hi) / 2) k with hk | hk
    · exact hk
    · rw [above _ _ hk] at hp; cases hp
  | case2 lo hi h hlt hp ih =>
    apply ih hlo
    rcases Nat.lt_or_ge ((lo + hi) / 2) k with hk | hk
    · rw [below _ _ hk] at hp; exact absurd rfl hp
    · exact hk
  | case3 lo hi h hlt => omega

/-- The split point is where the test stops holding. -/
theorem splitPoint_eq {α : Type} {p : α → Bool} {xs : Array α} {k : Nat} (hk : k ≤ xs.size)
    (below : ∀ i (h : i < xs.size), i < k → p xs[i] = true)
    (above : ∀ i (h : i < xs.size), k ≤ i → p xs[i] = false) : splitPoint p xs = k :=
  splitPoint.search_eq below above 0 xs.size _ (Nat.zero_le _) hk

end RegexPattern
