/-
The two modes beside each other. They differ on a pattern only where the reading stops before its
end: the lenient analysis gives the tree of what has been read, and the strict one refuses the
character that comes next. What has been read is then the longest prefix that the strict analysis
accepts.
-/
import RegexPattern.Proofs.Parser.Run

namespace RegexPattern.Parser

variable {β σ : Type} {b : SymbolBuilder β σ} {t : Tree σ} {offset : Nat} {c : Char}
  {cs v w : List Char} {r : Reading σ} {e : ParseError}

/-! ## Readings in both modes -/

theorem Reading.lenient_of_strict (h : r.result .strict = .ok t) : r.result .lenient = .ok t := by
  cases r with
  | whole u => exact h
  | stopped u offset c => cases h
  | failed e => cases h

theorem Reading.strict_of_lenient (h : r.result .lenient = .error e) :
    r.result .strict = .error e := by
  cases r with
  | whole u => cases h
  | stopped u offset c => cases h
  | failed e => exact h

/-- Only a reading that stops makes a difference. -/
theorem Reading.exists_stopped (hs : ∀ t, r.result .strict ≠ .ok t)
    (hl : ∀ e, r.result .lenient ≠ .error e) : ∃ t offset c, r = .stopped t offset c := by
  cases r with
  | whole t => exact absurd rfl (hs t)
  | stopped t offset c => exact ⟨t, offset, c, rfl⟩
  | failed e => exact absurd rfl (hl e)

/-- What is accepted as a whole is accepted in either mode, with the same tree. -/
theorem result_eq_ok_of_strict {p : String} {mode : Mode}
    (h : (analyze b .strict p).result = .ok t) : (analyze b mode p).result = .ok t := by
  obtain ⟨r, hr⟩ := exists_reads b p.toList
  rw [hr.result_eq] at h ⊢
  cases mode with
  | lenient => exact Reading.lenient_of_strict h
  | strict => exact h

/-! ## Readings that stop -/

/-- A reading stops behind a text that is a whole pattern. -/
theorem Reads.exists_of_stopped (h : Reads b cs (.stopped t offset c)) :
    ∃ w v, cs = w ++ c :: v ∧ offset = w.length ∧ Reads b w (.whole t) ∧
      Refused b w c (.stopped t offset c) := by
  cases h with
  | @refused w v _ _ h =>
    cases h with
    | stopped hw hc => exact ⟨w, v, rfl, rfl, .whole hw, .stopped hw hc⟩

/-- No text that goes on behind a character that is refused is a pattern. -/
theorem Refused.exists_strict_eq_error (h : Refused b w c (.stopped t offset c)) (v : List Char) :
    ∃ e, (analyze b .strict (String.ofList (w ++ c :: v))).result = .error e := by
  have hr : Reads b (String.ofList (w ++ c :: v)).toList (.stopped t offset c) := by
    rw [String.toList_ofList]
    exact .refused h
  exact ⟨_, hr.result_eq⟩

/-! ## Both analyses -/

/-- What the strict analysis accepts, the lenient one accepts with the same tree; what the lenient
one refuses, the strict one refuses with the same error; and on any other pattern the lenient one
gives the tree of the longest prefix that the strict one accepts, and the strict one refuses the
character behind that. -/
theorem lenient_reads_longest_strict_prefix (b : SymbolBuilder β σ) (p : String) :
    (∀ t, (analyze b .strict p).result = .ok t → (analyze b .lenient p).result = .ok t) ∧
    (∀ e, (analyze b .lenient p).result = .error e → (analyze b .strict p).result = .error e) ∧
    ((∀ t, (analyze b .strict p).result ≠ .ok t) → (∀ e, (analyze b .lenient p).result ≠ .error e) →
      ∃ t offset c, (analyze b .lenient p).result = .ok t ∧
        (analyze b .strict p).result = .error ⟨.trailingInput c, offset⟩ ∧
        offset < p.length ∧ p.toList[offset]? = some c ∧
        (analyze b .strict (String.ofList (p.toList.take offset))).result = .ok t ∧
        ∀ j, offset < j → j ≤ p.length →
          ∃ e, (analyze b .strict (String.ofList (p.toList.take j))).result = .error e) := by
  obtain ⟨r, hr⟩ := exists_reads b p.toList
  rw [hr.result_eq, hr.result_eq]
  refine ⟨fun t => Reading.lenient_of_strict, fun e => Reading.strict_of_lenient, fun hs hl => ?_⟩
  obtain ⟨t, offset, c, rfl⟩ := Reading.exists_stopped hs hl
  obtain ⟨w, v, hp, hoff, hw, hc⟩ := hr.exists_of_stopped
  subst hoff
  have htake : p.toList.take w.length = w := by rw [hp]; simp
  refine ⟨t, w.length, c, rfl, rfl, ?_, ?_, ?_, fun j hj _ => ?_⟩
  · rw [← String.length_toList, hp]; simp
  · rw [hp]; simp
  · rw [htake]
    have hw' : Reads b (String.ofList w).toList (.whole t) := by rwa [String.toList_ofList]
    exact hw'.result_eq
  · -- A longer prefix has the refused character in it.
    obtain ⟨k, rfl⟩ : ∃ k, j = w.length + (k + 1) := ⟨j - w.length - 1, by omega⟩
    rw [hp, List.take_length_add_append, List.take_succ_cons]
    exact hc.exists_strict_eq_error _

end RegexPattern.Parser
