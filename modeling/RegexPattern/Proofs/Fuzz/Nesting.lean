/-
How deep the groups of drawn patterns are nested. A text drawn with some levels left opens no more
groups at a time than these, closes each that it opens, and consists of letters of the alphabet and
of marks (`Nests`). Texts behind one another keep all this, and parentheses around one take one
level more (`Nests.group`), which is what the generator hands down. Without a level it draws neither
a group nor a bar.
-/
import RegexPattern.Proofs.Fuzz.WellFormed

namespace RegexPattern.Fuzz

open RegexPattern.Random RegexPattern.Parser

variable {γ : Type} {alphabet : Array Char} {depth : Nat} {c : Char} {u v w : List Char}
  {inner : Option (Unit → Draw (List Char))} {piece : Draw (List Char)}

/-! ## Texts with nested groups -/

/-- At every place of the text at most `depth` groups are open, and none is at its end. -/
structure Balanced (depth : Nat) (w : List Char) : Prop where
  within : ∀ u, u <+: w → u.count ')' ≤ u.count '(' ∧ u.count '(' ≤ u.count ')' + depth
  closed : w.count '(' = w.count ')'

/-- The text is balanced and flat without a level, and its characters are letters of the alphabet
and marks. -/
structure Nests (alphabet : Array Char) (depth : Nat) (w : List Char) : Prop where
  balanced : Balanced depth w
  flat : depth = 0 → '(' ∉ w ∧ '|' ∉ w
  chars : ∀ c ∈ w, c ∈ alphabet ∨ c ∈ emptyWordMark :: reserved

/-- What begins a text put together begins its first part, or is that and begins the second. -/
theorem isPrefix_append (h : u <+: w ++ v) : u <+: w ∨ ∃ x, u = w ++ x ∧ x <+: v := by
  obtain ⟨y, hy⟩ := h
  rcases List.append_eq_append_iff.1 hy with ⟨x, hx, -⟩ | ⟨x, hx, hxy⟩
  · exact .inl ⟨x, hx.symm⟩
  · exact .inr ⟨x, hx, y, hxy.symm⟩

/-- What begins a group is nothing, or ends within it, or is all of it. -/
theorem isPrefix_group (h : u <+: '(' :: w ++ [')']) :
    u = [] ∨ (∃ x, u = '(' :: x ∧ x <+: w) ∨ u = '(' :: w ++ [')'] := by
  rcases List.prefix_concat_iff.1 h with rfl | h
  · exact .inr (.inr rfl)
  · exact (List.prefix_cons_iff.1 h).imp_right .inl

theorem count_open (w : List Char) :
    ('(' :: w).count '(' = w.count '(' + 1 ∧ ('(' :: w).count ')' = w.count ')' :=
  ⟨List.count_cons_self, List.count_cons_of_ne (by decide)⟩

theorem count_group (w : List Char) : ('(' :: w ++ [')']).count '(' = w.count '(' + 1 ∧
    ('(' :: w ++ [')']).count ')' = w.count ')' + 1 := by
  rw [List.cons_append, (count_open _).1, (count_open _).2, List.count_append, List.count_append]
  exact ⟨rfl, rfl⟩

theorem balanced_of_not_mem (hopen : '(' ∉ w) (hclose : ')' ∉ w) : Balanced depth w := by
  have hcount : ∀ u, u <+: w → u.count '(' = 0 ∧ u.count ')' = 0 := fun u hu =>
    ⟨List.count_eq_zero.2 fun h => hopen (hu.subset h),
      List.count_eq_zero.2 fun h => hclose (hu.subset h)⟩
  constructor
  · intro u hu
    rw [(hcount u hu).1, (hcount u hu).2]
    exact ⟨Nat.le_refl 0, Nat.zero_le _⟩
  · rw [(hcount w (List.prefix_refl w)).1, (hcount w (List.prefix_refl w)).2]

theorem Balanced.append (h : Balanced depth w) (h' : Balanced depth v) :
    Balanced depth (w ++ v) := by
  have hclosed := h.closed
  constructor
  · intro u hu
    rcases isPrefix_append hu with hu | ⟨x, rfl, hx⟩
    · exact h.within u hu
    · have hwithin := h'.within x hx
      rw [List.count_append, List.count_append]
      omega
  · rw [List.count_append, List.count_append, hclosed, h'.closed]

/-- Parentheses around a text are one level more. -/
theorem Balanced.group (h : Balanced depth w) : Balanced (depth + 1) ('(' :: w ++ [')']) := by
  have hclosed := h.closed
  obtain ⟨hopens, hcloses⟩ := count_group w
  constructor
  · intro u hu
    rcases isPrefix_group hu with rfl | ⟨x, rfl, hx⟩ | rfl
    · exact ⟨Nat.le_refl 0, Nat.zero_le _⟩
    · have hwithin := h.within x hx
      rw [(count_open x).1, (count_open x).2]
      omega
    · omega
  · omega

theorem Nests.append (h : Nests alphabet depth w) (h' : Nests alphabet depth v) :
    Nests alphabet depth (w ++ v) where
  balanced := h.balanced.append h'.balanced
  flat h0 := by
    have hw := h.flat h0
    have hv := h'.flat h0
    simp [hw, hv]
  chars c hc := (List.mem_append.1 hc).elim (h.chars c) (h'.chars c)

theorem Nests.group (h : Nests alphabet depth w) :
    Nests alphabet (depth + 1) ('(' :: w ++ [')']) where
  balanced := h.balanced.group
  flat h0 := by cases h0
  chars c hc := by
    have hc : c = '(' ∨ c ∈ w ∨ c = ')' := by simpa using hc
    rcases hc with rfl | hc | rfl
    · exact .inr (by decide)
    · exact h.chars c hc
    · exact .inr (by decide)

/-- A bar goes with a level that is left, though it opens nothing. -/
theorem Nests.bar (h : Nests alphabet (depth + 1) w) : Nests alphabet (depth + 1) ('|' :: w) where
  balanced := (balanced_of_not_mem (by decide) (by decide) : Balanced (depth + 1) ['|']).append
    h.balanced
  flat h0 := by cases h0
  chars c hc := by
    rcases List.mem_cons.1 hc with rfl | hc
    · exact .inr (by decide)
    · exact h.chars c hc

/-! ## Texts without groups -/

/-- The marks for which a level has to be left. -/
def levelMarks : List Char := ['(', ')', '|']

/-- The text consists of letters of the alphabet and of marks that need no level. -/
def Flat (alphabet : Array Char) (w : List Char) : Prop :=
  ∀ c ∈ w, (c ∈ alphabet ∨ c ∈ emptyWordMark :: reserved) ∧ c ∉ levelMarks

/-- No level is needed for it. -/
theorem Flat.nests (h : Flat alphabet w) : Nests alphabet depth w := by
  have hnot : ∀ c ∈ levelMarks, c ∉ w := fun c hc hw => (h c hw).2 hc
  exact ⟨balanced_of_not_mem (hnot _ (by decide)) (hnot _ (by decide)),
    fun _ => ⟨hnot _ (by decide), hnot _ (by decide)⟩, fun c hc => (h c hc).1⟩

theorem flat_nil : Flat alphabet [] := fun _ hc => by cases hc

theorem Flat.append (h : Flat alphabet w) (h' : Flat alphabet v) : Flat alphabet (w ++ v) :=
  fun c hc => (List.mem_append.1 hc).elim (h c) (h' c)

theorem flat_marks (h : w ⊆ (emptyWordMark :: reserved).filter (· ∉ levelMarks)) :
    Flat alphabet w := by
  intro c hc
  obtain ⟨hmark, hflat⟩ := List.mem_filter.1 (h hc)
  exact ⟨.inr hmark, of_decide_eq_true hflat⟩

theorem flat_letter (hlit : isLiteral c = true) (hc : c ∈ alphabet) : Flat alphabet [c] := by
  intro d hd
  rw [List.mem_singleton.1 hd]
  have hsub : levelMarks ⊆ reserved := by decide
  exact ⟨.inl hc, fun h => not_mem_reserved hlit (hsub h)⟩

/-! ## The parts of a pattern -/

namespace Grammar

/-- What texts behind one another keep holds of all pieces in a row. -/
theorem ensures_pieces_of_append {P : List Char → Prop} (hnil : P [])
    (happend : ∀ {w v}, P w → P v → P (w ++ v)) (h : piece.Ensures P) (n : Nat) :
    (pieces piece n).Ensures P := by
  have hpiece : piece.Ensures fun v => ∀ w, P w → P (w ++ v) :=
    h.mono fun v hv w hw => happend hw hv
  exact (ensures_pieces hpiece n).mono fun v hv => hv [] hnil

section
variable (halphabet : alphabet ≠ #[]) (hlit : ∀ c ∈ alphabet, isLiteral c = true)
include halphabet hlit

theorem ensures_flat_entry : (entry alphabet).Ensures (Flat alphabet) := by
  have hdash : Flat alphabet ['-'] := flat_marks (by decide)
  have hrange : ∀ a ∈ alphabet, ∀ b ∈ alphabet, Flat alphabet [a, '-', b] := fun a ha b hb =>
    ((flat_letter (hlit a ha) ha).append hdash).append (flat_letter (hlit b hb) hb)
  refine (Draw.ensures_choose halphabet).bind fun a ha => ?_
  refine (Draw.ensures_chance 1 2).bind fun wide _ => ?_
  cases wide with
  | false => exact Draw.ensures_pure (flat_letter (hlit a ha) ha)
  | true =>
    refine (Draw.ensures_choose halphabet).bind fun b hb => Draw.ensures_pure ?_
    split
    · exact hrange a ha b hb
    · exact hrange b hb a ha

theorem ensures_flat_charClass : (charClass alphabet).Ensures (Flat alphabet) := by
  refine (Draw.ensures_chance 1 3).bind fun negated _ => ?_
  refine (Draw.ensures_range 0 4).bind fun n _ => ?_
  refine (ensures_pieces_of_append flat_nil Flat.append (ensures_flat_entry halphabet hlit) n).bind
    fun v hv => Draw.ensures_pure ?_
  refine (Flat.append (flat_marks ?_) hv).append (flat_marks (by decide))
  cases negated <;> decide

section
variable (hinner : ∀ group ∈ inner,
  (group ()).Ensures fun w => Nests alphabet depth ('(' :: w ++ [')']))
include hinner

/-- An atom needs the levels that the groups around what `inner` gives need. -/
theorem ensures_nests_atom :
    (atom alphabet inner).Ensures (Nests alphabet depth) := by
  refine (Draw.ensures_range 0 _).bind fun kind hkind => ?_
  match kind, inner with
  | 0, _ =>
    exact (Draw.ensures_choose halphabet).bind fun c hc =>
      Draw.ensures_pure (flat_letter (hlit c hc) hc).nests
  | 1, _ => exact (ensures_flat_charClass halphabet hlit).mono fun _ hw => hw.nests
  | 2, _ => exact Draw.ensures_pure (flat_marks (by decide)).nests
  | n + 3, none =>
    -- Without groups a number below three is drawn.
    have hlt : n + 3 < 3 := hkind.2
    omega
  | n + 3, some group => exact (hinner group rfl).bind fun w hw => Draw.ensures_pure hw

theorem ensures_nests_repetition :
    (repetition alphabet inner).Ensures (Nests alphabet depth) := by
  refine (ensures_nests_atom halphabet hlit hinner).bind fun a ha => ?_
  refine (Draw.ensures_chance 1 4).bind fun starred _ => ?_
  cases starred with
  | false => exact Draw.ensures_pure ha
  | true => exact Draw.ensures_pure (ha.append (flat_marks (by decide)).nests)

theorem ensures_nests_concat :
    (concat alphabet inner).Ensures (Nests alphabet depth) := by
  have hrep := ensures_nests_repetition halphabet hlit hinner
  have hrest : ∀ first, Nests alphabet depth first →
      (do
        let n ← Draw.range 0 3
        return first ++ (← pieces (repetition alphabet inner) n) :
          Draw (List Char)).Ensures (Nests alphabet depth) := fun first hfirst =>
    (Draw.ensures_range 0 3).bind fun n _ =>
      (ensures_pieces_of_append flat_nil.nests Nests.append hrep n).bind fun v hv =>
        Draw.ensures_pure (hfirst.append hv)
  refine (Draw.ensures_chance 1 10).bind fun empty _ => ?_
  cases empty with
  | false => exact hrep.bind hrest
  | true => exact hrest _ (flat_marks (by decide)).nests

end

/-- A union nests as many groups as there are levels left. -/
theorem ensures_nests_union : ∀ depth, (union alphabet depth).Ensures (Nests alphabet depth)
  | 0 => ensures_nests_concat halphabet hlit (by simp)
  | depth + 1 => by
    have hconcat : (concat alphabet (some fun _ => union alphabet depth)).Ensures
        (Nests alphabet (depth + 1)) :=
      ensures_nests_concat halphabet hlit fun group hgroup => by
        cases hgroup
        exact (ensures_nests_union depth).mono fun _ hw => hw.group
    have hbranch : (do return '|' :: (← concat alphabet (some fun _ => union alphabet depth)) :
        Draw (List Char)).Ensures (Nests alphabet (depth + 1)) :=
      hconcat.bind fun _ hw => Draw.ensures_pure hw.bar
    refine (Draw.ensures_range 1 4).bind fun n _ => ?_
    refine hconcat.bind fun first hfirst => ?_
    exact (ensures_pieces_of_append flat_nil.nests Nests.append hbranch (n - 1)).bind fun v hv =>
      Draw.ensures_pure (hfirst.append hv)

end

end Grammar

/-! ## Whole patterns -/

/-- Over an alphabet of literals the generator draws a pattern, on any source of numbers. Whatever
begins the pattern closes no more groups than it opens and leaves at most `depth` open, and the
whole leaves none open. Without a level there is neither a group nor a bar, and there are only
letters of the alphabet and marks. -/
theorem Generator.grammar_draws_nested_pattern (sample : Sampler γ) (s : γ) (depth : Nat)
    (halphabet : alphabet ≠ #[]) (hlit : ∀ c ∈ alphabet, isLiteral c = true) :
    ∃ p, ((Generator.grammar depth alphabet).generate.runBy sample s).1 = .ok p ∧
      (∀ u, u <+: p.toList →
        u.count ')' ≤ u.count '(' ∧ u.count '(' ≤ u.count ')' + depth) ∧
      p.toList.count '(' = p.toList.count ')' ∧
      (depth = 0 → '(' ∉ p.toList ∧ '|' ∉ p.toList) ∧
      ∀ c ∈ p.toList, c ∈ alphabet ∨ c ∈ emptyWordMark :: reserved := by
  have hgenerate : (Generator.grammar depth alphabet).generate.Ensures fun p =>
      Nests alphabet depth p.toList :=
    (Grammar.ensures_nests_union halphabet hlit depth).bind fun w hw =>
      Draw.ensures_pure (by rwa [String.toList_ofList])
  obtain ⟨p, hp, hnests⟩ := hgenerate.runBy s
  exact ⟨p, hp, hnests.balanced.within, hnests.balanced.closed, hnests.flat, hnests.chars⟩

/-- Two levels over two letters, one of which is also a mark, and no level over the same. -/
theorem Generator.grammar_draws_nested_pattern_two_levels :
    let alphabet := #['a', emptyWordMark]
    let nested := "ε*([^aa-ε](ε*)ε)*[a-ε]"
    let flat := "εε*[^a-ε]*"
    (alphabet ≠ #[] ∧ ∀ c ∈ alphabet, isLiteral c = true) ∧
      (((Generator.grammar 2 alphabet).generate.runBy Source.sample (Source.seeded 4)).1 =
          .ok nested ∧
        (∀ u, u <+: nested.toList →
          u.count ')' ≤ u.count '(' ∧ u.count '(' ≤ u.count ')' + 2) ∧
        nested.toList.count '(' = nested.toList.count ')' ∧
        ∀ c ∈ nested.toList, c ∈ alphabet ∨ c ∈ emptyWordMark :: reserved) ∧
      (((Generator.grammar 0 alphabet).generate.runBy Source.sample (Source.seeded 9)).1 =
          .ok flat ∧
        '(' ∉ flat.toList ∧ '|' ∉ flat.toList ∧
        ∀ c ∈ flat.toList, c ∈ alphabet ∨ c ∈ emptyWordMark :: reserved) := by
  intro alphabet nested flat
  have hne : alphabet ≠ #[] := by decide
  have hlit : ∀ c ∈ alphabet, isLiteral c = true := by
    have ha : isLiteral 'a' = true := by decide +kernel
    simpa [alphabet] using ⟨ha, isLiteral_emptyWordMark⟩
  obtain ⟨p, hp, hwithin, hclosed, -, hchars⟩ := Generator.grammar_draws_nested_pattern
    Source.sample (Source.seeded 4) 2 hne hlit
  obtain rfl : p = nested := by
    have hdrawn : ((Generator.grammar 2 alphabet).generate.runBy Source.sample
        (Source.seeded 4)).1.toOption = some nested := by decide +kernel
    rw [hp] at hdrawn
    exact Option.some.inj hdrawn
  obtain ⟨q, hq, -, -, hflat, hchars'⟩ := Generator.grammar_draws_nested_pattern
    Source.sample (Source.seeded 9) 0 hne hlit
  obtain rfl : q = flat := by
    have hdrawn : ((Generator.grammar 0 alphabet).generate.runBy Source.sample
        (Source.seeded 9)).1.toOption = some flat := by decide +kernel
    rw [hq] at hdrawn
    exact Option.some.inj hdrawn
  obtain ⟨hgroup, hbar⟩ := hflat rfl
  exact ⟨⟨hne, hlit⟩, ⟨hp, hwithin, hclosed, hchars⟩, hq, hgroup, hbar, hchars'⟩

end RegexPattern.Fuzz
