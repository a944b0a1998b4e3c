/-
What a search for a pattern finds. `Spans` says what part of a text a pattern stands for, between
two places; `testBit_ends` that the places carried through a pattern are those where such a part
ends, and `occursIn_iff` that the pattern is found just if there is such a part.
-/
import Mathlib.Logic.Function.Iterate
import Mathlib.Logic.Relation
import RegexPattern.Log.Pattern

namespace RegexPattern.Log.Pattern

variable {text : List Char} {p : Pattern} {i j k n S : Nat}

/-- The characters before and after a place in a text that has `before` before it. -/
def neighbours (before : Option Char) (text : List Char) (i : Nat) : Option Char × Option Char :=
  (if i = 0 then before else text[i - 1]?, text[i]?)

/-- The pattern stands for the part of the text from place `i` to place `j`. -/
def Spans (text : List Char) : Pattern → Nat → Nat → Prop
  | empty, i, j => i = j
  | char accepts, i, j => j = i + 1 ∧ ∃ c, text[i]? = some c ∧ accepts c = true
  | look holds, i, j => i = j ∧ i ≤ text.length ∧
      holds (neighbours none text i).1 (neighbours none text i).2 = true
  | concat first second, i, j => ∃ k, first.Spans text i k ∧ second.Spans text k j
  | either first second, i, j => first.Spans text i j ∨ second.Spans text i j
  | star body, i, j => Relation.ReflTransGen (body.Spans text) i j

/-- A part does not end before it starts, nor behind the text unless it starts there. -/
theorem Spans.le (h : p.Spans text i j) : i ≤ j ∧ j ≤ max i text.length := by
  induction p generalizing i j with
  | empty =>
    have h : i = j := h
    omega
  | char accepts =>
    obtain ⟨rfl, c, hc, -⟩ := h
    obtain ⟨hi, -⟩ := List.getElem?_eq_some_iff.1 hc
    omega
  | look holds =>
    obtain ⟨rfl, hi, -⟩ := h
    omega
  | concat first second ih ih' =>
    obtain ⟨k, h, h'⟩ := h
    have hfirst := ih h
    have hsecond := ih' h'
    omega
  | either first second ih ih' => exact h.elim ih ih'
  | star body ih =>
    induction h with
    | refl => omega
    | tail _ hstep hsteps =>
      have hstep := ih hstep
      omega

/-! ## Places -/

theorem testBit_double_add (n : Nat) (b : Bool) (i : Nat) :
    (2 * n + b.toNat).testBit i = if i = 0 then b else n.testBit (i - 1) := by
  cases i with
  | zero => cases b <;> simp [Nat.testBit_zero]
  | succ i =>
    rw [Nat.testBit_succ, if_neg (Nat.succ_ne_zero i), Nat.add_sub_cancel]
    congr 1
    cases b <;> simp <;> omega

theorem testBit_charPlaces (accepts : Char → Bool) :
    (charPlaces accepts text).testBit i = true ↔ ∃ c, text[i]? = some c ∧ accepts c = true := by
  induction text generalizing i with
  | nil => simp [charPlaces]
  | cons c cs ih =>
    rw [charPlaces, testBit_double_add]
    cases i with
    | zero => simp
    | succ i => simpa using ih

theorem testBit_lookPlaces (holds : Option Char → Option Char → Bool) (before : Option Char) :
    (lookPlaces holds before text).testBit i = true ↔ i ≤ text.length ∧
      holds (neighbours before text i).1 (neighbours before text i).2 = true := by
  induction text generalizing before i with
  | nil =>
    have hbit := testBit_double_add 0 (holds before none) i
    rw [Nat.mul_zero, Nat.zero_add] at hbit
    rw [lookPlaces, hbit]
    cases i <;> simp [neighbours]
  | cons c cs ih =>
    rw [lookPlaces, testBit_double_add]
    cases i with
    | zero => simp [neighbours]
    | succ i =>
      rw [if_neg (Nat.succ_ne_zero i), Nat.add_sub_cancel, ih]
      cases i <;> simp [neighbours]

/-! ## Repetition -/

/-- It makes no difference whether the steps end when nothing changes any more. -/
theorem settle_eq_iterate (f : Nat → Nat) (n S : Nat) : settle f n S = f^[n] S := by
  induction n generalizing S with
  | zero => rfl
  | succ n ih =>
    rw [settle, Function.iterate_succ_apply]
    split
    · next h => rw [h, Function.iterate_fixed h]
    · exact ih _

section

variable {f : Nat → Nat} {R : Nat → Nat → Prop}
  (hf : ∀ S j, (f S).testBit j = true ↔ ∃ i, S.testBit i = true ∧ R i j)
include hf

/-- Steps that take in more places take in only what is reached. -/
theorem exists_of_testBit_iterate (h : ((fun s => s ||| f s)^[n] S).testBit j = true) :
    ∃ i, S.testBit i = true ∧ Relation.ReflTransGen R i j := by
  induction n generalizing j with
  | zero => exact ⟨j, h, .refl⟩
  | succ n ih =>
    rw [Function.iterate_succ_apply', Nat.testBit_or, Bool.or_eq_true, hf] at h
    rcases h with h | ⟨k, hk, hstep⟩
    · exact ih h
    · obtain ⟨i, hi, hsteps⟩ := ih hk
      exact ⟨i, hi, hsteps.tail hstep⟩

/-- If there is no way back, as many steps take in a place as it is ahead: those that stay where
they are can be left out. -/
theorem testBit_iterate_of_reach (hle : ∀ i j, R i j → i ≤ j) (hi : S.testBit i = true)
    (h : Relation.ReflTransGen R i j) :
    i ≤ j ∧ ∀ n, j ≤ i + n → ((fun s => s ||| f s)^[n] S).testBit j = true := by
  induction h with
  | refl =>
    refine ⟨Nat.le_refl i, fun n _ => ?_⟩
    induction n with
    | zero => exact hi
    | succ n ih =>
      rw [Function.iterate_succ_apply', Nat.testBit_or, ih (Nat.le_add_right i n)]
      rfl
  | @tail j k _ hstep ih =>
    have hjk := hle j k hstep
    refine ⟨Nat.le_trans ih.1 hjk, fun n hn => ?_⟩
    rcases Nat.eq_or_lt_of_le hjk with rfl | hlt
    · exact ih.2 n hn
    · obtain ⟨m, rfl⟩ : ∃ m, n = m + 1 := ⟨n - 1, by omega⟩
      rw [Function.iterate_succ_apply', Nat.testBit_or, Bool.or_eq_true, hf]
      exact .inr ⟨j, ih.2 m (by omega), hstep⟩

end

/-! ## Search -/

/-- The places where the pattern ends are those where a part of the text ends that it stands for and
that starts at one of the places given. -/
theorem testBit_ends (p : Pattern) (S j : Nat) :
    (p.ends text S).testBit j = true ↔ ∃ i, S.testBit i = true ∧ p.Spans text i j := by
  induction p generalizing S j with
  | empty => simp [ends, Spans]
  | char accepts =>
    rw [ends, Nat.testBit_shiftLeft, Nat.testBit_and]
    simp only [Bool.and_eq_true, decide_eq_true_eq, testBit_charPlaces, Spans]
    constructor
    · rintro ⟨hj, hS, hc⟩
      exact ⟨j - 1, hS, by omega, hc⟩
    · rintro ⟨i, hS, rfl, hc⟩
      exact ⟨by omega, hS, hc⟩
  | look holds =>
    rw [ends, Nat.testBit_and]
    simp only [Bool.and_eq_true, testBit_lookPlaces, Spans]
    constructor
    · rintro ⟨hS, h⟩
      exact ⟨j, hS, rfl, h⟩
    · rintro ⟨i, hS, rfl, h⟩
      exact ⟨hS, h⟩
  | concat first second ih ih' =>
    simp only [ends, Spans, ih', ih]
    constructor
    · rintro ⟨k, ⟨i, hS, h⟩, h'⟩
      exact ⟨i, hS, k, h, h'⟩
    · rintro ⟨i, hS, k, h, h'⟩
      exact ⟨k, ⟨i, hS, h⟩, h'⟩
  | either first second ih ih' =>
    simp only [ends, Spans, Nat.testBit_or, Bool.or_eq_true, ih, ih', and_or_left, exists_or]
  | star body ih =>
    rw [ends, settle_eq_iterate]
    constructor
    · exact exists_of_testBit_iterate ih
    · rintro ⟨i, hS, h⟩
      have hle : j ≤ max i text.length := (Spans.le (p := .star body) h).2
      exact (testBit_iterate_of_reach ih (fun i j h => h.le.1) hS h).2 _ (by omega)

/-- A pattern is found in a text just if it stands for a part of it. -/
theorem occursIn_iff (p : Pattern) (text : String) :
    p.occursIn text = true ↔ ∃ i ≤ text.length, ∃ j, p.Spans text.toList i j := by
  have hall : ∀ i, (1 <<< (text.toList.length + 1) - 1).testBit i = true ↔ i ≤ text.length := by
    intro i
    rw [Nat.one_shiftLeft, Nat.testBit_two_pow_sub_one, decide_eq_true_eq, String.length_toList, Nat.lt_succ_iff]
  unfold occursIn
  rw [bne_iff_ne]
  constructor
  · intro h
    obtain ⟨j, hj⟩ := Nat.exists_testBit_of_ne_zero h
    obtain ⟨i, hi, hspans⟩ := (testBit_ends p _ j).1 hj
    exact ⟨i, (hall i).1 hi, j, hspans⟩
  · rintro ⟨i, hi, j, hspans⟩ h
    have hj := (testBit_ends p _ j).2 ⟨i, (hall i).2 hi, hspans⟩
    rw [h, Nat.zero_testBit] at hj
    cases hj

end RegexPattern.Log.Pattern
