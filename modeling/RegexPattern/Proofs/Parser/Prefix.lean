/-
Errors are found at the first impossible character. Whatever has been read without one can be
completed to a pattern (`State.completion`: end what the parser is in the middle of, then close the
open groups), while no pattern begins with a text up to and with a character that is refused. The
place of that character is the `culprit` of the error. What stands behind the culprit is never
looked at.
-/
import RegexPattern.Proofs.Parser.Soundness

namespace RegexPattern

/-- The place of the character that gives an error away. An inverted range is reported where it
starts, two characters before its end gives it away. -/
def ParseError.culprit (e : ParseError) : Nat :=
  match e.cause with
  | .invertedRange _ _ => e.offset + 2
  | _ => e.offset

theorem ParseError.offset_le_culprit (e : ParseError) : e.offset ≤ e.culprit := by
  unfold ParseError.culprit
  split <;> omega

namespace Parser

variable {β σ : Type} {b : SymbolBuilder β σ} {sym : Polarity → List CharRange → σ} {n : Nat}
  {c : Char} {s : State σ} {outer : List (Level σ)} {l : Level σ} {f : Focus σ} {t : Tree σ}
  {starred : Bool} {r : Reading σ} {e : ParseError} {w p : List Char}

/-! ## Completion -/

/-- Ends what the parser is in the middle of. -/
def Focus.completion : Focus σ → List Char
  | .atom => [emptyWordMark]
  | .factor _ _ => []
  | .classRange _ first => [first, ']']
  | _ => [']']

/-- Ends what the parser is in the middle of, and closes the open groups. -/
def State.completion (s : State σ) : List Char :=
  s.focus.completion ++ List.replicate s.outer.length ')'

theorem Reaches.focus_completion (h : Reaches b w ⟨outer, l, f⟩) :
    ∃ l' t starred, Reaches b (w ++ f.completion) ⟨outer, l', .factor t starred⟩ := by
  cases f with
  | atom => exact ⟨_, _, _, h.next (.emptyWord .first)⟩
  | factor t starred => exact ⟨l, t, starred, by simpa [Focus.completion] using h⟩
  | classStart => exact ⟨_, _, _, h.next (.classEnd rfl)⟩
  | classEntry k => exact ⟨_, _, _, h.next (.classEnd rfl)⟩
  | classLiteral k first => exact ⟨_, _, _, h.next (.classEnd rfl)⟩
  | classRange k first =>
    -- The start of the range is a literal, so the range may end with it, too.
    obtain ⟨hfirst, -⟩ := h.stateText.exists_range_start
    have hend := h.next (.rangeEnd (r := .single first) hfirst)
    exact ⟨_, _, _, by simpa [Focus.completion, CharRange.single] using hend.next (.classEnd rfl)⟩

theorem Reaches.outer_completion : ∀ {outer : List (Level σ)} {l : Level σ} {t : Tree σ}
    {starred : Bool} {w : List Char}, Reaches b w ⟨outer, l, .factor t starred⟩ →
    ∃ l' u starred', Reaches b (w ++ List.replicate outer.length ')')
      ⟨[], l', .factor u starred'⟩
  | [], l, t, starred, w, h => ⟨l, t, starred, by simpa using h⟩
  | l' :: outer, l, t, starred, w, h => by
    obtain ⟨l'', u, starred', hr⟩ := (h.next .close).outer_completion
    exact ⟨l'', u, starred', by simpa [List.replicate_succ] using hr⟩

/-- What has been read can be completed to a pattern. -/
theorem Reaches.completion (h : Reaches b w s) :
    ∃ t, (analyze b .strict (String.ofList (w ++ s.completion))).result = .ok t := by
  obtain ⟨outer, l, f⟩ := s
  obtain ⟨l', t, starred, hf⟩ := h.focus_completion
  obtain ⟨l'', u, starred', ho⟩ := hf.outer_completion
  refine ⟨_, strict_eq_ok_iff.2 ⟨l'', u, starred', ?_, rfl⟩⟩
  simpa [State.completion] using ho

/-! ## The culprit -/

theorem Unfinished.culprit_eq (h : Unfinished n s e) : e.culprit = n := by
  cases h <;> rfl

theorem Fails.culprit_eq (h : Fails w.length s c e) (hs : StateText sym s w) :
    e.culprit = w.length := by
  cases h with
  | inverted =>
    -- The opening bracket, the start of the range and the dash have been read.
    obtain ⟨-, z, rfl⟩ := hs.exists_range_start
    simp only [ParseError.culprit, List.length_append, List.length_cons]
    omega
  | _ => rfl

theorem Refused.reaches (h : Refused b w c r) : ∃ s, Reaches b w s := by
  cases h with
  | stopped h => exact ⟨_, h⟩
  | failed h => exact ⟨_, h⟩

/-- A character that is refused makes the strict analysis fail, and is the culprit. -/
theorem Refused.strict_eq_error (h : Refused b w c r) :
    ∃ e, r.result .strict = .error e ∧ e.culprit = w.length := by
  cases h with
  | stopped h hc => exact ⟨_, rfl, rfl⟩
  | failed h hc => exact ⟨_, rfl, hc.culprit_eq h.stateText⟩

/-- Where the strict analysis fails, all before the culprit has been taken, and the culprit is
refused, if it is not the end of the text. -/
theorem Reads.exists_culprit (h : Reads b p r) (he : r.result .strict = .error e) :
    ∃ w, e.culprit = w.length ∧ (∃ s, Reaches b w s) ∧
      (p = w ∨ ∃ c v, p = w ++ c :: v ∧ Refused b w c r) := by
  cases h with
  | whole h => cases he
  | unfinished h hu => cases he; exact ⟨p, hu.culprit_eq, ⟨_, h⟩, .inl rfl⟩
  | @refused w v c _ h =>
    obtain ⟨e', he', hw⟩ := h.strict_eq_error
    rw [he] at he'
    cases he'
    exact ⟨w, hw, h.reaches, .inr ⟨c, v, rfl, h⟩⟩

/-- Where the strict analysis fails, the text before the culprit begins some pattern, and the text
up to and with the culprit, if it is a character, begins none. -/
theorem strict_fails_at_first_impossible {p : String}
    (h : (analyze b .strict p).result = .error e) :
    e.culprit ≤ p.length ∧
    (∃ q : String, p.toList.take e.culprit <+: q.toList ∧
      ∃ t, (analyze b .strict q).result = .ok t) ∧
    (e.culprit < p.length → ∀ q : String, p.toList.take (e.culprit + 1) <+: q.toList →
      ∀ t, (analyze b .strict q).result ≠ .ok t) := by
  obtain ⟨r, hr⟩ := exists_reads b p.toList
  rw [hr.result_eq] at h
  obtain ⟨w, hw, ⟨s, hs⟩, hp⟩ := hr.exists_culprit h
  obtain ⟨t, ht⟩ := hs.completion
  rw [← String.length_toList, hw]
  rcases hp with hp | ⟨c, v, hp, hc⟩
  · -- The text ends too early, and there is no character to blame.
    rw [hp]
    exact ⟨Nat.le_refl _, ⟨_, by simp, t, ht⟩, fun hlt => absurd hlt (Nat.lt_irrefl _)⟩
  · rw [hp]
    refine ⟨by simp, ⟨_, by simp, t, ht⟩, ?_⟩
    -- The refused character decides the reading of `q`, too, whatever comes behind it.
    rintro - q ⟨v', hq⟩ t ht
    obtain ⟨e', he', -⟩ := hc.strict_eq_error
    have hq' : q.toList = w ++ c :: v' := by
      rw [← hq]
      simp [List.take_append, List.take_of_length_le]
    rw [(hq' ▸ Reads.refused hc : Reads b q.toList r).result_eq, he'] at ht
    cases ht

/-- The range from `z` to `a` is reported at the `z`, but it is the `a` that cannot stand there. -/
theorem strict_fails_at_first_impossible_inverted :
    (analyze SymbolBuilder.recording .strict "x[bz-a]").result =
      .error ⟨.invertedRange 'z' 'a', 3⟩ ∧
    5 ≤ "x[bz-a]".length ∧
    (∃ q : String, "x[bz-a]".toList.take 5 <+: q.toList ∧
      ∃ t, (analyze SymbolBuilder.recording .strict q).result = .ok t) ∧
    (5 < "x[bz-a]".length → ∀ q : String, "x[bz-a]".toList.take 6 <+: q.toList →
      ∀ t, (analyze SymbolBuilder.recording .strict q).result ≠ .ok t) := by
  have h : (analyze SymbolBuilder.recording .strict "x[bz-a]").result =
      .error ⟨.invertedRange 'z' 'a', 3⟩ := by decide +kernel
  exact ⟨h, strict_fails_at_first_impossible h⟩

/-! ## Behind the culprit -/

/-- Where the strict analysis fails on a character, that character settles the reading: in either
mode the result stays the same whatever is put in the place of the text behind it. -/
theorem result_ignores_rest_behind_culprit {p : String}
    (h : (analyze b .strict p).result = .error e) (hlt : e.culprit < p.length) (mode : Mode)
    (rest : String) :
    (analyze b mode (String.ofList (p.toList.take (e.culprit + 1)) ++ rest)).result =
      (analyze b mode p).result := by
  obtain ⟨r, hr⟩ := exists_reads b p.toList
  rw [hr.result_eq] at h ⊢
  obtain ⟨w, hw, -, hp⟩ := hr.exists_culprit h
  rw [← String.length_toList, hw] at hlt
  rw [hw]
  rcases hp with hp | ⟨c, v, hp, hc⟩
  · rw [hp] at hlt
    exact absurd hlt (Nat.lt_irrefl _)
  · have hrest : (String.ofList (p.toList.take (w.length + 1)) ++ rest).toList =
        w ++ c :: rest.toList := by
      rw [hp]
      simp [List.take_append, List.take_of_length_le]
    exact (hrest ▸ Reads.refused hc : Reads b _ r).result_eq

/-- The second star ends the expression, whether a group is opened or left open behind it. -/
theorem result_ignores_rest_behind_second_star :
    (analyze SymbolBuilder.recording .strict "a**(b)").result = .error ⟨.trailingInput '*', 2⟩ ∧
    2 < "a**(b)".length ∧
    (analyze SymbolBuilder.recording .lenient
        (String.ofList ("a**(b)".toList.take 3) ++ "[z-")).result =
      (analyze SymbolBuilder.recording .lenient "a**(b)").result := by
  have h : (analyze SymbolBuilder.recording .strict "a**(b)").result =
      .error ⟨.trailingInput '*', 2⟩ := by decide +kernel
  have hlt : 2 < "a**(b)".length := by decide
  exact ⟨h, hlt, result_ignores_rest_behind_culprit h hlt .lenient "[z-"⟩

end Parser

end RegexPattern
