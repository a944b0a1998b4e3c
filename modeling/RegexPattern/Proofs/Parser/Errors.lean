/-
What an error says about its text. Every cause tells what stands at the offset of the error and what
has been read before it (`ParseError.Cause.Describes`): an atom was due, a group is open, or a class
is. All of this is in the state that meets the character or the end of the text, which is why it
holds however deep the error lies.
-/
import RegexPattern.Proofs.Parser.Bounds
import RegexPattern.Proofs.Parser.Nesting

namespace RegexPattern

/-- At offset `n` an atom has to start: the text, a group or a branch starts there. -/
def AtomDue (cs : List Char) (n : Nat) : Prop :=
  n = 0 ∨ cs[n - 1]? = some '(' ∨ cs[n - 1]? = some '|'

/-- What a cause says about the text `cs` if it is given at offset `n` in this mode. -/
def ParseError.Cause.Describes (mode : Parser.Mode) (cs : List Char) (n : Nat) :
    ParseError.Cause → Prop
  | unexpectedEnd => n = cs.length ∧ AtomDue cs n
  | unknownCharacter c =>
    cs[n]? = some c ∧ isLiteral c = false ∧ c ∉ [emptyWordMark, emptySetMark, '(', '['] ∧
      AtomDue cs n
  | expectedCharacter expected found =>
    expected = ')' ∧ found = cs[n]? ∧ found ≠ some ')' ∧
      (cs.take n).count ')' < (cs.take n).count '('
  | expectedLiteral found =>
    found = cs[n]? ∧ (∀ c ∈ found, isLiteral c = false) ∧
      (cs.take n).count '[' = (cs.take n).count ']' + 1
  | invertedRange first last =>
    cs[n]? = some first ∧ cs[n + 1]? = some '-' ∧ cs[n + 2]? = some last ∧
      isLiteral first = true ∧ isLiteral last = true ∧ last < first
  | trailingInput c =>
    mode = .strict ∧ cs[n]? = some c ∧ isLiteral c = false ∧ c ∉ ['(', '[', '|']

namespace Parser

open ParseError.Cause

variable {β σ : Type} {b : SymbolBuilder β σ} {c : Char} {s : State σ} {outer : List (Level σ)}
  {l l' : Level σ} {f : Focus σ} {starred : Bool} {k : OpenClass} {first : Char} {r : Reading σ}
  {mode : Mode} {e : ParseError} {w v : List Char} {p : String}

/-! ## What the state knows -/

theorem getElem?_behind (w v : List Char) (i : Nat) : (w ++ v)[w.length + i]? = v[i]? := by
  rw [List.getElem?_append_right (Nat.le_add_right _ _), Nat.add_sub_cancel_left]

theorem getElem?_length_append (w v : List Char) : (w ++ v)[w.length]? = v.head? := by
  rw [List.head?_eq_getElem?]
  exact getElem?_behind w v 0

theorem atomDue_behind (hc : c = '(' ∨ c = '|') (w v : List Char) :
    AtomDue (w ++ [c] ++ v) (w ++ [c]).length := by
  have hlast : (w ++ [c] ++ v)[(w ++ [c]).length - 1]? = some c := by simp
  rcases hc with rfl | rfl
  · exact .inr (.inl hlast)
  · exact .inr (.inr hlast)

/-- Where an atom has to start, nothing has been read or what opens a group or a branch. -/
theorem Reaches.atomDue (h : Reaches b w ⟨outer, l, .atom⟩) (v : List Char) :
    AtomDue (w ++ v) w.length := by
  obtain ⟨u, x, y, rfl, ho, ⟨u', v', rfl, hbranches, hfactors⟩, rfl, hnone⟩ := h.stateText
  obtain ⟨branches, factors⟩ := l
  obtain rfl : factors = none := hnone
  obtain rfl : v' = [] := hfactors
  rw [List.append_nil, List.append_nil]
  cases branches with
  | some t =>
    obtain ⟨z, rfl, -⟩ := hbranches
    rw [← List.append_assoc]
    exact atomDue_behind (.inr rfl) _ _
  | none =>
    obtain rfl : u' = [] := hbranches
    rw [List.append_nil]
    cases outer with
    | nil =>
      obtain rfl : u = [] := ho
      exact .inl rfl
    | cons l' outer =>
      obtain ⟨x, y, rfl, -⟩ := ho
      exact atomDue_behind (.inl rfl) _ _

theorem Reaches.describes_group (h : Reaches b w ⟨l' :: outer, l, f⟩)
    (hv : v.head? ≠ some ')') :
    (expectedCharacter ')' v.head?).Describes mode (w ++ v) w.length := by
  have hgroups := h.nested.groups
  refine ⟨rfl, (getElem?_length_append w v).symm, hv, ?_⟩
  rw [List.take_left]
  simp only [List.length_cons] at hgroups
  omega

theorem Reaches.describes_class (h : Reaches b w ⟨outer, l, f⟩) (hf : f.inClass = true)
    (hv : ∀ c ∈ v.head?, isLiteral c = false) :
    (expectedLiteral v.head?).Describes mode (w ++ v) w.length := by
  have hclasses := h.nested.classes
  refine ⟨(getElem?_length_append w v).symm, hv, ?_⟩
  rw [List.take_left, hclasses, hf]
  rfl

theorem Reaches.describes_range (h : Reaches b w ⟨outer, l, .classRange k first⟩)
    (hc : isLiteral c = true) (hlt : c < first) :
    (invertedRange first c).Describes mode (w ++ c :: v) (w.length - 2) := by
  -- The error lies two characters back, at the start of the range.
  obtain ⟨hfirst, z, rfl⟩ := h.stateText.exists_range_start
  have hoffset : (z ++ [first, '-']).length - 2 = z.length := by
    rw [List.length_append]
    exact Nat.add_sub_cancel _ _
  have hget : ∀ i, (z ++ [first, '-'] ++ c :: v)[z.length + i]? = (first :: '-' :: c :: v)[i]? := by
    intro i
    rw [List.append_assoc]
    exact getElem?_behind z _ i
  rw [hoffset]
  exact ⟨hget 0, hget 1, hget 2, hfirst, hc, hlt⟩

/-! ## What ends a reading -/

theorem Fails.describes (h : Fails w.length s c e) (hr : Reaches b w s) (v : List Char) :
    e.cause.Describes mode (w ++ c :: v) e.offset := by
  cases h with
  | atom h1 h2 h3 h4 h5 =>
    exact ⟨getElem?_length_append w _, h5, by simp [h1, h2, h3, h4], hr.atomDue _⟩
  | unclosed _ hne => exact hr.describes_group (v := c :: v) (by simpa using hne)
  | entry hk _ hlit =>
    exact hr.describes_class (v := c :: v) (Focus.inClass_of_openClass? hk) (by simpa using hlit)
  | rangeEnd hlit => exact hr.describes_class (v := c :: v) rfl (by simpa using hlit)
  | inverted hlit hlt => exact hr.describes_range hlit hlt

theorem Unfinished.describes (h : Unfinished w.length s e) (hr : Reaches b w s) :
    e.cause.Describes mode w e.offset := by
  -- The end of the text is an empty rest of it.
  suffices e.cause.Describes mode (w ++ []) e.offset by rwa [List.append_nil] at this
  cases h with
  | atom => exact ⟨by rw [List.append_nil], hr.atomDue []⟩
  | unclosed => exact hr.describes_group (v := []) (by simp)
  | entry hk => exact hr.describes_class (v := []) (Focus.inClass_of_openClass? hk) (by simp)
  | rangeEnd => exact hr.describes_class (v := []) rfl (by simp)

theorem Foreign.describes (h : Foreign starred c) (w v : List Char) :
    (trailingInput c).Describes .strict (w ++ c :: v) w.length := by
  obtain ⟨hlit, hparen, hbracket⟩ := startsFactor_eq_false_iff.1 h.noFactor
  exact ⟨rfl, getElem?_length_append w _, hlit, by simp [hparen, hbracket, h.noBar]⟩

theorem Reads.describes (h : Reads b w r) (he : r.result mode = .error e) :
    e.cause.Describes mode w e.offset := by
  cases h with
  | whole h => cases he
  | unfinished h hu => cases he; exact hu.describes h
  | @refused w v c _ h =>
    cases h with
    | stopped h hc =>
      -- Only the strict mode makes an error of this.
      cases mode with
      | lenient => cases he
      | strict => cases he; exact hc.describes w v
    | failed h hc => cases he; exact hc.describes h v

/-! ## Whole patterns -/

/-- An error lies within its pattern or at its end, and its cause says what is true of the pattern at
that place. -/
theorem error_describes_pattern (h : (analyze b mode p).result = .error e) :
    e.offset ≤ p.length ∧ e.cause.Describes mode p.toList e.offset := by
  refine ⟨offset_le_of_result_eq_error h, ?_⟩
  obtain ⟨r, hr⟩ := exists_reads b p.toList
  rw [hr.result_eq] at h
  exact hr.describes h

/-- The last bracket stands where the outer group has to be closed; the inner one is closed. -/
theorem error_describes_pattern_in_group :
    (analyze SymbolBuilder.recording .lenient "(a|(b)[^b]*]").result =
      .error ⟨.expectedCharacter ')' (some ']'), 11⟩ ∧
    11 ≤ "(a|(b)[^b]*]".length ∧
    (expectedCharacter ')' (some ']')).Describes .lenient "(a|(b)[^b]*]".toList 11 := by
  have h : (analyze SymbolBuilder.recording .lenient "(a|(b)[^b]*]").result =
      .error ⟨.expectedCharacter ')' (some ']'), 11⟩ := by decide +kernel
  exact ⟨h, error_describes_pattern h⟩

end Parser

end RegexPattern
