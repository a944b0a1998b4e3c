/-
Patterns put together from patterns. The trees of the parts do not carry over, since a concatenation
and a union nest to the left: behind another pattern the first branch of a union goes on the last one
of that pattern. But the derivations do (`Grammar.Union.exists_append`). What cannot be put behind a
pattern is what is foreign there: the mark of the empty set, and a star behind a star.
-/
import RegexPattern.Proofs.Parser.Bounds
import RegexPattern.Proofs.Parser.Completeness
import Mathlib.Data.List.Basic

namespace RegexPattern.Parser

open Grammar

variable {β σ : Type} {b : SymbolBuilder β σ} {sym : Polarity → List CharRange → σ} {n : Nat}
  {c : Char} {s : State σ} {outer : List (Level σ)} {l : Level σ} {t u : Tree σ} {starred : Bool}
  {es : List Event} {a v w : List Char} {p q : String}

/-! ## Derivations behind one another -/

theorem Grammar.Union.ne_nil (h : Union sym w t) : w ≠ [] :=
  List.ne_nil_of_length_pos (Nat.lt_of_lt_of_le t.weight_pos h.weight_le)

theorem Grammar.Concat.ne_nil (h : Concat sym w t) : w ≠ [] :=
  List.ne_nil_of_length_pos (Nat.lt_of_lt_of_le t.weight_pos h.weight_le)

theorem Grammar.Repetition.atom_ne (h : Repetition sym a w t)
    (hw : w.head? ≠ some emptySetMark) : a ≠ [emptySetMark] := by
  rintro rfl
  cases h with
  | once => exact hw rfl
  | starred => exact hw rfl

theorem Grammar.Union.exists_bar : ∀ {v : List Char} {u : Tree σ}, Union sym v u →
    Union sym w t → ∃ x, Union sym (w ++ '|' :: v) x
  | _, _, .one hv, hw => ⟨_, hw.more hv⟩
  | _, _, .more hv hbranch, hw => by
    obtain ⟨x, hx⟩ := hv.exists_bar hw
    exact ⟨_, by simpa using hx.more hbranch⟩

theorem Grammar.Concat.exists_append : ∀ {v : List Char} {u : Tree σ}, Concat sym v u →
    v.head? ≠ some emptySetMark → Concat sym w t → ∃ x, Concat sym (w ++ v) x
  | _, _, .one hv, hhead, hw => ⟨_, hw.more hv (hv.atom_ne hhead)⟩
  | _, _, .more hv hfactor ha, hhead, hw => by
    rw [List.head?_append_of_ne_nil _ hv.ne_nil] at hhead
    obtain ⟨x, hx⟩ := hv.exists_append hhead hw
    exact ⟨_, by simpa using hx.more hfactor ha⟩

theorem Grammar.Union.exists_append_concat (h : Union sym w t) (hv : Concat sym v u)
    (hhead : v.head? ≠ some emptySetMark) : ∃ x, Union sym (w ++ v) x := by
  -- It is the last branch of the union that goes on.
  cases h with
  | one hw =>
    obtain ⟨x, hx⟩ := hv.exists_append hhead hw
    exact ⟨x, .one hx⟩
  | more hw hbranch =>
    obtain ⟨x, hx⟩ := hv.exists_append hhead hbranch
    exact ⟨_, by simpa using hw.more hx⟩

theorem Grammar.Union.exists_append : ∀ {v : List Char} {u : Tree σ}, Union sym v u →
    v.head? ≠ some emptySetMark → Union sym w t → ∃ x, Union sym (w ++ v) x
  | _, _, .one hv, hhead, hw => hw.exists_append_concat hv hhead
  | _, _, .more hv hbranch, hhead, hw => by
    rw [List.head?_append_of_ne_nil _ hv.ne_nil] at hhead
    obtain ⟨x, hx⟩ := hv.exists_append hhead hw
    exact ⟨_, by simpa using hx.more hbranch⟩

/-! ## What is foreign behind a pattern -/

theorem foreign_emptySetMark : Foreign starred emptySetMark where
  noStar h := absurd h.1 (by decide)
  noFactor := startsFactor_of_mem_reserved (by decide) (by decide) (by decide)
  noBar := by decide

theorem foreign_star : Foreign true '*' where
  noStar h := absurd h.2 (by decide)
  noFactor := startsFactor_of_mem_reserved (by decide) (by decide) (by decide)
  noBar := by decide

theorem Takes.starred_iff (h : Takes b n s c es ⟨outer, l, .factor t starred⟩) :
    starred = true ↔ c = '*' := by
  cases h with
  | emptyWord | emptySet | close | classEnd => decide
  | literal _ hc => simpa using ne_of_isLiteral hc (by decide)
  | star => simp

/-- A pattern ends with a star if and only if it leaves a factor that is starred. -/
theorem Reaches.starred_iff (h : Reaches b w ⟨outer, l, .factor t starred⟩) :
    starred = true ↔ w.getLast? = some '*' := by
  obtain ⟨events, h⟩ := h
  cases h with
  | next _ hc => rw [hc.starred_iff, List.getLast?_concat, Option.some.injEq]

/-- No pattern goes on behind another one with a character that is foreign there. -/
theorem Foreign.not_accepted (h : Foreign starred c)
    (hp : Reaches b p.toList ⟨[], l, .factor t starred⟩) (hq : q.toList.head? = some c) :
    ¬∃ u, (analyze b .strict (p ++ q)).result = .ok u := by
  rintro ⟨u, hu⟩
  obtain ⟨v, hv⟩ := List.head?_eq_some_iff.1 hq
  obtain ⟨e, he⟩ := (Refused.stopped hp h).exists_strict_eq_error v
  rw [← hv, ← String.toList_append, String.ofList_toList, hu] at he
  cases he

/-! ## Whole patterns -/

theorem strict_group (h : (analyze b .strict p).result = .ok t) :
    (analyze b .strict ("(" ++ p ++ ")")).result = .ok t := by
  rw [strict_eq_ok_iff_union] at h ⊢
  simpa using Union.one (.one (.once (.group h)))

theorem strict_star_iff (h : (analyze b .strict p).result = .ok t) :
    (∃ v, (analyze b .strict (p ++ "*")).result = .ok v) ↔ p.toList.getLast? ≠ some '*' := by
  obtain ⟨l, u, starred, hp, -⟩ := strict_eq_ok_iff.1 h
  rw [ne_eq, ← hp.starred_iff]
  cases starred with
  | true => simpa using foreign_star.not_accepted hp (q := "*") rfl
  | false =>
    have hstar := hp.next .star
    have htext : (p ++ "*").toList = p.toList ++ ['*'] := String.toList_append
    refine iff_of_true ⟨_, strict_eq_ok_iff.2 ⟨l, .star u, true, ?_, rfl⟩⟩ (by decide)
    exact htext ▸ hstar

/-- Patterns that are accepted as a whole make patterns that are, too: in parentheses, where the tree
stays the same, and with a bar between them. One can be put right behind another one unless it
starts with the mark of the empty set, and a star can be put behind one unless it ends with a star. -/
theorem accepted_patterns_compose (hp : (analyze b .strict p).result = .ok t)
    (hq : (analyze b .strict q).result = .ok u) :
    (analyze b .strict ("(" ++ p ++ ")")).result = .ok t ∧
    (∃ v, (analyze b .strict (p ++ "|" ++ q)).result = .ok v) ∧
    ((∃ v, (analyze b .strict (p ++ q)).result = .ok v) ↔
      q.toList.head? ≠ some emptySetMark) ∧
    ((∃ v, (analyze b .strict (p ++ "*")).result = .ok v) ↔ p.toList.getLast? ≠ some '*') := by
  have hpu := strict_eq_ok_iff_union.1 hp
  have hqu := strict_eq_ok_iff_union.1 hq
  refine ⟨strict_group hp, ?_, ⟨fun hpq hhead => ?_, fun hhead => ?_⟩, strict_star_iff hp⟩
  · obtain ⟨x, hx⟩ := hqu.exists_bar hpu
    exact ⟨x, strict_eq_ok_iff_union.2 (by simpa using hx)⟩
  · obtain ⟨l, u', starred, hreach, -⟩ := strict_eq_ok_iff.1 hp
    exact foreign_emptySetMark.not_accepted hreach hhead hpq
  · obtain ⟨x, hx⟩ := hqu.exists_append hhead hpu
    exact ⟨x, strict_eq_ok_iff_union.2 (by simpa using hx)⟩

/-- The star of the first pattern keeps a second one from it, and its last branch goes on with the
first one of the second pattern. -/
theorem accepted_patterns_compose_across_branches :
    let a : Tree (List SymbolBuilder.Call) := .literal [⟨.including, [.single 'a']⟩]
    let b : Tree (List SymbolBuilder.Call) := .literal [⟨.including, [.single 'b']⟩]
    let accepts := fun p t => (analyze SymbolBuilder.recording .strict p).result = .ok t
    accepts "∅|a*" (.alternate .emptySet (.star a)) ∧
    accepts "ε|b" (.alternate .emptyWord b) ∧
    accepts "∅|a*ε|b" (.alternate (.alternate .emptySet (.concat (.star a) .emptyWord)) b) ∧
    accepts "(∅|a*)" (.alternate .emptySet (.star a)) ∧
    (∃ t, accepts "∅|a*|ε|b" t) ∧ (∃ t, accepts "∅|a*ε|b" t) ∧ ¬∃ t, accepts "∅|a**" t := by
  intro a b accepts
  have hp : accepts "∅|a*" (.alternate .emptySet (.star a)) := by decide +kernel
  have hq : accepts "ε|b" (.alternate .emptyWord b) := by decide +kernel
  obtain ⟨hgroup, hbar, happend, hstar⟩ := accepted_patterns_compose hp hq
  refine ⟨hp, hq, by decide +kernel, hgroup, hbar, happend.2 (by decide), ?_⟩
  exact fun h => hstar.1 h (by decide)

end RegexPattern.Parser
