/-
What programs that draw numbers do on every branch. `Ensures` asks of each branch that it ends with
a value and of the value that it has a property; so a fault on any branch is ruled out. `Ends` asks
something of the faults as well. Both are shown of a program part by part (`Ensures.bind`,
`Ends.bind`) and hold of its runs on every source of numbers (`Ensures.runBy`, `Ends.runBy`).
-/
import RegexPattern.Random.Draw

namespace RegexPattern.Random.Draw

variable {α γ : Type} {d : Draw α} {f : α → Draw γ} {P P' : α → Prop} {Q : γ → Prop}
  {R R' : Except Fault α → Prop} {S : Except Fault γ → Prop}

/-- On every branch the program ends with a value for which `P` holds. -/
def Ensures (d : Draw α) (P : α → Prop) : Prop :=
  match d with
  | done a => P a
  | fault _ => False
  | pick n _ next => ∀ i : Fin n, (next i).Ensures P

/-- On every branch what the program ends with, a value or a fault, has the property `R`. -/
def Ends (d : Draw α) (R : Except Fault α → Prop) : Prop :=
  match d with
  | done a => R (.ok a)
  | fault e => R (.error e)
  | pick n _ next => ∀ i : Fin n, (next i).Ends R

/-! ## Programs put together -/

theorem ensures_pure {a : α} (h : P a) : (pure a : Draw α).Ensures P := h

theorem Ensures.bind (h : d.Ensures P) (hf : ∀ a, P a → (f a).Ensures Q) :
    (d >>= f).Ensures Q := by
  induction d with
  | done a => exact hf a h
  | fault e => exact h.elim
  | pick n pos next ih => exact fun i => ih i (h i)

theorem Ensures.mono (h : d.Ensures P) (hP : ∀ a, P a → P' a) : d.Ensures P' := by
  induction d with
  | done a => exact hP a h
  | fault e => exact h.elim
  | pick n pos next ih => exact fun i => ih i (h i)

theorem Ends.bind (h : d.Ends R) (hvalue : ∀ a, R (.ok a) → (f a).Ends S)
    (hfault : ∀ e, R (.error e) → S (.error e)) : (d >>= f).Ends S := by
  induction d with
  | done a => exact hvalue a h
  | fault e => exact hfault e h
  | pick n pos next ih => exact fun i => ih i (h i)

theorem Ends.mono (h : d.Ends R) (hR : ∀ r, R r → R' r) : d.Ends R' := by
  induction d with
  | done a => exact hR _ h
  | fault e => exact hR _ h
  | pick n pos next ih => exact fun i => ih i (h i)

/-- Where no fault has the property there is none. -/
theorem Ends.ensures (h : d.Ends R) (hfault : ∀ e, ¬R (.error e)) :
    d.Ensures fun a => R (.ok a) := by
  induction d with
  | done a => exact h
  | fault e => exact hfault e h
  | pick n pos next ih => exact fun i => ih i (h i)

/-- Whatever numbers are drawn, the run ends with a value that has the property. -/
theorem Ensures.runBy {sample : Sampler γ} (h : d.Ensures P) (s : γ) :
    ∃ a, (d.runBy sample s).1 = .ok a ∧ P a := by
  induction d generalizing s with
  | done a => exact ⟨a, rfl, h⟩
  | fault e => exact h.elim
  | pick n pos next ih => exact ih (sample n pos s).1 (h _) (sample n pos s).2

/-- Whatever numbers are drawn, what the run ends with has the property. -/
theorem Ends.runBy {sample : Sampler γ} (h : d.Ends R) (s : γ) : R (d.runBy sample s).1 := by
  induction d generalizing s with
  | done a => exact h
  | fault e => exact h
  | pick n pos next ih => exact ih (sample n pos s).1 (h _) (sample n pos s).2

/-! ## Numbers -/

/-- Below its end, or at its start if it is empty. -/
theorem ensures_range (lo hi : Nat) :
    (range lo hi).Ensures fun n => lo ≤ n ∧ n < max hi (lo + 1) := by
  unfold range
  split
  · intro i
    have hi := i.isLt
    show lo ≤ lo + i ∧ lo + i < _
    omega
  · show lo ≤ lo ∧ lo < _
    omega

/-- Either answer may come. -/
theorem ensures_chance (favourable cases : Nat) :
    (chance favourable cases).Ensures fun _ => True :=
  (ensures_range 0 cases).bind fun _ _ => trivial

/-! ## Elements -/

theorem ensures_choose {xs : Array α} (h : xs ≠ #[]) : (choose xs).Ensures (· ∈ xs) := by
  rw [choose, dif_pos (Array.size_pos_iff.2 h)]
  exact fun i => xs.getElem_mem i.isLt

end RegexPattern.Random.Draw
