/-
The checks of a pattern against the parser as it is. All but the last hold of every pattern
(`Check.ofPattern_regular`): no symbol fails to be made, results are repeated, errors lie within the
pattern, trees are not too large, and the lenient mode follows the strict one. So the only violation
there can be is the refusal of a pattern that is known to be well-formed. Memory is taken to hold
every tree, and the call stack the recursion of size, depth, equality and disposal of trees, which
goes as deep as the tree.
-/
import RegexPattern.Fuzz.Check
import RegexPattern.Proofs.CharSet.Guarded
import RegexPattern.Proofs.Parser.Bounds

namespace RegexPattern.Fuzz

open RegexPattern.Parser

variable {σ : Type} {t : Trial σ} {r : Result σ} {mode : Mode} {p : String}

/-! ## Regular trials -/

namespace Trial

/-- The results are such that all checks but the one for acceptance are passed. -/
structure Regular (t : Trial σ) : Prop where
  brokeOff_eq : t.brokeOff = false
  again_eq : t.again = t.lenient
  lenient_offset_le : ∀ e, t.lenient = .error e → e.offset ≤ t.pattern.length
  strict_offset_le : ∀ e, t.strict = .error e → e.offset ≤ t.pattern.length
  size_le : ∀ tree, t.lenient = .ok tree → tree.size ≤ 2 * t.pattern.length
  lenient_eq : ∀ tree, t.strict = .ok tree → t.lenient = .ok tree

theorem Regular.completion?_eq_none (h : t.Regular) : t.completion? = none := by
  unfold completion?
  rw [h.brokeOff_eq]
  rfl

theorem offset?_eq_none (h : ∀ e, r = .error e → e.offset ≤ t.pattern.length) :
    t.offset? r = none := by
  unfold offset?
  cases r with
  | ok tree => rfl
  | error e => exact if_pos (h e rfl)

theorem Regular.size?_eq_none (h : t.Regular) : t.size? = none := by
  unfold size?
  split
  · next tree htree => exact if_pos (h.size_le tree htree)
  · rfl

theorem acceptance?_eq_some_iff {v : Violation} : t.acceptance? mode = some v ↔
    ∃ e, t.result mode = .error e ∧ v = .rejectedValid t.pattern e := by
  unfold acceptance?
  cases t.result mode with
  | ok tree => simp
  | error e => simp [eq_comm]

variable [DecidableEq σ]

theorem Regular.repetition?_eq_none (h : t.Regular) : t.repetition? = none := if_pos h.again_eq

theorem Regular.agreement?_eq_none (h : t.Regular) : t.agreement? = none := by
  unfold agreement?
  split
  · next tree htree => exact if_pos ((h.lenient_eq tree htree).trans htree.symm)
  · rfl

/-- All that is left to find is a well-formed pattern that is not accepted. -/
theorem Regular.violation?_eq (h : t.Regular) (mode : Mode) (wellFormed : Bool) :
    t.violation? mode wellFormed = if wellFormed then t.acceptance? mode else none := by
  rw [violation?, h.completion?_eq_none, h.repetition?_eq_none,
    offset?_eq_none h.lenient_offset_le, offset?_eq_none h.strict_offset_le, h.size?_eq_none,
    h.agreement?_eq_none]
  rfl

end Trial

/-! ## The parser on trial -/

namespace Check

theorem ofPattern_regular (p : String) : (ofPattern p).trial.Regular where
  brokeOff_eq := breaksOff_eq_false (fun _ _ => ⟨_, CharClass.guarded_build _ _⟩) p
  again_eq := rfl
  lenient_offset_le e (h : parse .lenient p = .error e) := offset_le_of_result_eq_error h
  strict_offset_le e (h : parse .strict p = .error e) := offset_le_of_result_eq_error h
  size_le tree (h : parse .lenient p = .ok tree) := Nat.le_of_lt (size_lt_of_result_eq_ok h)
  lenient_eq tree (h : parse .strict p = .ok tree) :=
    show parse .lenient p = .ok tree from result_eq_ok_of_strict h

theorem result_trial (p : String) (mode : Mode) :
    (ofPattern p).trial.result mode = parse mode p := by cases mode <;> rfl

theorem violation?_eq (p : String) (mode : Mode) (wellFormed : Bool) :
    (ofPattern p).violation? mode wellFormed =
      if wellFormed then (ofPattern p).trial.acceptance? mode else none :=
  (ofPattern_regular p).violation?_eq mode wellFormed

/-- A check finds a violation exactly if the pattern is known to be well-formed and the parser
refuses it in the given mode. The violation is that refusal, with the pattern and the error. -/
theorem finds_exactly_refusals (p : String) (mode : Mode) (wellFormed : Bool) (v : Violation) :
    (ofPattern p).violation? mode wellFormed = some v ↔
      wellFormed = true ∧ ∃ e, parse mode p = .error e ∧ v = .rejectedValid p e := by
  rw [violation?_eq]
  cases wellFormed with
  | false => simp
  | true =>
    rw [if_pos rfl, Trial.acceptance?_eq_some_iff, result_trial]
    simp only [true_and]
    rfl

end Check

end RegexPattern.Fuzz
