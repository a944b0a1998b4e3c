/-
How deep a text is nested. The state behind a text has as many open groups as the text has opening
parentheses more than closing ones, and it is inside a class just if the text has an opening square
bracket more than closing ones (`Reached.nested`). Each character that is taken opens or closes one
of these or leaves both as they are (`Takes.nested`), since no bracket is a literal.
-/
import RegexPattern.Proofs.Parser.Run

namespace RegexPattern.Parser

variable {β σ : Type} {b : SymbolBuilder β σ} {n : Nat} {c d : Char} {s s' : State σ}
  {l l' : Level σ} {f : Focus σ} {k : OpenClass} {es : List Event} {events : Array Event}
  {w : List Char}

/-- Whether a class is open. -/
def Focus.inClass : Focus σ → Bool
  | .atom => false
  | .factor _ _ => false
  | _ => true

/-- What is open in `s` is what the text `w` opens and does not close. -/
structure Nested (w : List Char) (s : State σ) : Prop where
  groups : w.count '(' = w.count ')' + s.outer.length
  classes : w.count '[' = w.count ']' + s.focus.inClass.toNat

/-! ## One character -/

theorem Opens.inClass (h : Opens n f l c es l') : f.inClass = false := by
  cases h <;> rfl

theorem Focus.inClass_of_openClass? (h : f.openClass? = some k) : f.inClass = true := by
  cases f with
  | atom => cases h
  | factor t starred => cases h
  | _ => rfl

theorem count_of_isLiteral (h : isLiteral c = true) (hd : d ∈ reserved) : [c].count d = 0 :=
  List.count_eq_zero.2 fun hc => ne_of_isLiteral h hd (List.mem_singleton.1 hc).symm

theorem Takes.length_outer (h : Takes b n s c es s') :
    s'.outer.length + [c].count ')' = s.outer.length + [c].count '(' := by
  have hliteral : isLiteral c = true → [c].count ')' = [c].count '(' := fun hc => by
    rw [count_of_isLiteral hc (by decide), count_of_isLiteral hc (by decide)]
  cases h with
  | emptyWord => rw [hliteral isLiteral_emptyWordMark]
  | literal _ hc => rw [hliteral hc]
  | entry _ hc => rw [hliteral hc]
  | rangeEnd hc => rw [hliteral hc]
  | _ => rfl

theorem Takes.toNat_inClass (h : Takes b n s c es s') :
    s'.focus.inClass.toNat + [c].count ']' = s.focus.inClass.toNat + [c].count '[' := by
  have hliteral : isLiteral c = true → [c].count ']' = [c].count '[' := fun hc => by
    rw [count_of_isLiteral hc (by decide), count_of_isLiteral hc (by decide)]
  cases h with
  | emptyWord h => rw [hliteral isLiteral_emptyWordMark, h.inClass]; rfl
  | emptySet h => rw [h.inClass]; rfl
  | group h => rw [h.inClass]; rfl
  | charClass h => rw [h.inClass]; rfl
  | literal h hc => rw [hliteral hc, h.inClass]; rfl
  | entry hk hc => rw [hliteral hc, Focus.inClass_of_openClass? hk]; rfl
  | classEnd hk => rw [Focus.inClass_of_openClass? hk]; rfl
  | rangeEnd hc => rw [hliteral hc]; rfl
  | _ => rfl

/-- A class ends at the first closing bracket and starts at an opening one. -/
theorem Takes.inClass_eq (h : Takes b n s c es s') :
    s'.focus.inClass = if s.focus.inClass then c != ']' else c == '[' := by
  have hstep := h.toNat_inClass
  rw [List.count_singleton, List.count_singleton] at hstep
  cases hs : s.focus.inClass with
  | true =>
    by_cases hc : c = ']'
    · subst hc
      simpa [hs] using hstep
    · cases hs' : s'.focus.inClass with
      | true => simp [hc]
      | false => simp [hs, hs', hc] at hstep; omega
  | false =>
    by_cases hc : c = '['
    · subst hc
      simpa [hs] using hstep
    · cases hs' : s'.focus.inClass with
      | true => simp [hs, hs', hc] at hstep
      | false => simp [hc]

theorem Takes.nested (h : Takes b n s c es s') (hs : Nested w s) : Nested (w ++ [c]) s' where
  groups := by
    have hstep := h.length_outer
    have hgroups := hs.groups
    rw [List.count_append, List.count_append]
    omega
  classes := by
    have hstep := h.toNat_inClass
    have hclasses := hs.classes
    rw [List.count_append, List.count_append]
    omega

/-! ## A whole text -/

theorem Reached.nested (h : Reached b w s events) : Nested w s := by
  induction h with
  | start => exact ⟨rfl, rfl⟩
  | next _ hc ih => exact hc.nested ih

theorem Reaches.nested (h : Reaches b w s) : Nested w s := by
  obtain ⟨events, h⟩ := h
  exact h.nested

end RegexPattern.Parser
