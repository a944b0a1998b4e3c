/-
How much a result can amount to. Every leaf of a tree takes a character of its text at least, and
every star takes its own (`Grammar.Union.weight_le`). The other nodes are fewer than the leaves, and
no way from the root to a leaf has more of them than there are leaves beside it. So a tree has fewer
than two nodes for each character that was read for it (`size_lt_of_result_eq_ok`), and is no deeper
than these are many (`depth_le_of_result_eq_ok`). An error lies within the pattern or at its end
(`offset_le_of_result_eq_error`).
-/
import RegexPattern.Proofs.Parser.Modes
import RegexPattern.Proofs.Parser.Prefix

namespace RegexPattern

/-! ## Leaves and stars -/

namespace Tree

variable {σ : Type}

/-- The number of leaves and stars. -/
def weight : Tree σ → Nat
  | emptySet => 1
  | emptyWord => 1
  | literal _ => 1
  | concat first second => first.weight + second.weight
  | alternate first second => first.weight + second.weight
  | star body => body.weight + 1

theorem size_lt_weight (t : Tree σ) : t.size < 2 * t.weight := by
  induction t with
  | emptySet | emptyWord | literal => simp [size, weight]
  | concat first second ihfirst ihsecond | alternate first second ihfirst ihsecond =>
    simp only [size, weight]
    omega
  | star body ih =>
    simp only [size, weight]
    omega

theorem weight_pos (t : Tree σ) : 0 < t.weight := by
  have := t.size_lt_weight
  omega

theorem depth_le_weight (t : Tree σ) : t.depth ≤ t.weight := by
  induction t with
  | emptySet | emptyWord | literal => simp [depth, weight]
  | concat first second ihfirst ihsecond | alternate first second ihfirst ihsecond =>
    -- Beside the deeper part there is a leaf in the other one.
    have hfirst := first.weight_pos
    have hsecond := second.weight_pos
    simp only [depth, weight]
    omega
  | star body ih =>
    simp only [depth, weight]
    omega

end Tree

namespace Parser

open Grammar

variable {β σ : Type} {b : SymbolBuilder β σ} {sym : Polarity → List CharRange → σ} {t : Tree σ}
  {r : Reading σ} {mode : Mode} {e : ParseError} {p : String} {cs : List Char}

mutual

theorem Grammar.Union.weight_le : ∀ {w : List Char} {t : Tree σ}, Union sym w t →
    t.weight ≤ w.length
  | _, _, .one h => h.weight_le
  | _, _, .more h h' => by
    have hfirst := h.weight_le
    have hsecond := h'.weight_le
    simp only [Tree.weight, List.length_append, List.length_cons]
    omega

theorem Grammar.Concat.weight_le : ∀ {w : List Char} {t : Tree σ}, Concat sym w t →
    t.weight ≤ w.length
  | _, _, .one h => h.weight_le
  | _, _, .more h h' _ => by
    have hfirst := h.weight_le
    have hsecond := h'.weight_le
    simp only [Tree.weight, List.length_append]
    omega

theorem Grammar.Repetition.weight_le : ∀ {a w : List Char} {t : Tree σ}, Repetition sym a w t →
    t.weight ≤ w.length
  | _, _, _, .once h => h.weight_le
  | _, _, _, .starred h => by
    have hbody := h.weight_le
    simp only [Tree.weight, List.length_append, List.length_singleton]
    omega

theorem Grammar.Atom.weight_le : ∀ {a : List Char} {t : Tree σ}, Atom sym a t →
    t.weight ≤ a.length
  | _, _, .emptyWord => Nat.le_refl _
  | _, _, .emptySet => Nat.le_refl _
  | _, _, .literal _ _ => Nat.le_refl _
  | _, _, .group h => by
    have hinner := h.weight_le
    simp only [List.length_append, List.length_cons]
    omega
  | _, _, .charClass _ => by
    simp only [Tree.weight, List.length_append, List.length_cons]
    omega

end

/-- A tree that is given is that of the text which was taken for it. -/
theorem Reads.exists_union (h : Reads b cs r) (ht : r.result mode = .ok t) :
    ∃ w, w <+: cs ∧ Union b.build w t := by
  cases h with
  | whole hw => cases ht; exact ⟨cs, List.prefix_refl cs, hw.union⟩
  | unfinished hw hu => cases ht
  | @refused w v c _ hc =>
    cases hc with
    | stopped hw hc =>
      -- Only the lenient mode makes do with what comes before the refused character.
      cases mode with
      | lenient => cases ht; exact ⟨w, List.prefix_append w _, hw.union⟩
      | strict => cases ht
    | failed hw hc => cases ht

theorem weight_le_of_result_eq_ok (h : (analyze b mode p).result = .ok t) :
    t.weight ≤ p.length := by
  obtain ⟨r, hr⟩ := exists_reads b p.toList
  rw [hr.result_eq] at h
  obtain ⟨w, hw, hu⟩ := hr.exists_union h
  rw [← String.length_toList]
  exact Nat.le_trans hu.weight_le hw.length_le

/-- A tree has fewer than two nodes for each character of its pattern. -/
theorem size_lt_of_result_eq_ok (h : (analyze b mode p).result = .ok t) :
    t.size < 2 * p.length := by
  have hsize := t.size_lt_weight
  have hweight := weight_le_of_result_eq_ok h
  omega

theorem depth_le_of_result_eq_ok (h : (analyze b mode p).result = .ok t) :
    t.depth ≤ p.length :=
  Nat.le_trans t.depth_le_weight (weight_le_of_result_eq_ok h)

/-! ## Offsets -/

/-- An error lies within its pattern or at its end. -/
theorem offset_le_of_result_eq_error (h : (analyze b mode p).result = .error e) :
    e.offset ≤ p.length := by
  obtain ⟨r, hr⟩ := exists_reads b p.toList
  rw [hr.result_eq] at h
  -- What the lenient analysis refuses, the strict one refuses with the same error.
  have hstrict : r.result .strict = .error e := by
    cases mode with
    | lenient => exact Reading.strict_of_lenient h
    | strict => exact h
  obtain ⟨w, hw, -, hp⟩ := hr.exists_culprit hstrict
  have hle : w.length ≤ p.length := by
    rw [← String.length_toList]
    rcases hp with hp | ⟨c, v, hp, -⟩
    · exact hp ▸ Nat.le_refl _
    · rw [hp, List.length_append]; omega
  have hoffset := e.offset_le_culprit
  omega

end Parser

end RegexPattern
