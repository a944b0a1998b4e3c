/-
Patterns drawn from the grammar are well-formed. Each part of the generator draws, on every branch,
a text that derives from its rule; for the loops that means a text that may be put behind any text of
the rule (`ensures_pieces`). Groups are shown by induction on the levels that are left, and without
a level no group is drawn. So whatever numbers are drawn, the pattern is accepted as a whole.
-/
import RegexPattern.CharClass
import RegexPattern.Fuzz.Generator
import RegexPattern.Proofs.Parser.Completeness
import RegexPattern.Proofs.Random.Ensures
import RegexPattern.Random.Source

namespace RegexPattern.Fuzz

open RegexPattern.Random RegexPattern.Parser RegexPattern.Parser.Grammar

variable {β σ γ : Type} {sym : Polarity → List CharRange → σ} {alphabet : Array Char}
  {inner : Option (Unit → Draw (List Char))} {piece : Draw (List Char)} {R : List Char → Prop}

namespace Grammar

/-! ## Pieces -/

/-- If each piece may be put behind what has the property, all of them in a row may. -/
theorem ensures_pieces (h : piece.Ensures fun v => ∀ w, R w → R (w ++ v)) :
    ∀ n, (pieces piece n).Ensures fun v => ∀ w, R w → R (w ++ v)
  | 0 => Draw.ensures_pure fun w hw => by simpa using hw
  | n + 1 => by
    refine h.bind fun first hfirst => (ensures_pieces h n).bind fun rest hrest => ?_
    intro w hw
    rw [← List.append_assoc]
    exact hrest _ (hfirst w hw)

/-- A letter is an atom: the mark of the empty word, or a literal. -/
theorem exists_atom_of_isLiteral {c : Char} (h : isLiteral c = true) :
    (∃ t, Atom sym [c] t) ∧ [c] ≠ [emptySetMark] := by
  constructor
  · by_cases hc : c = emptyWordMark
    · rw [hc]; exact ⟨_, .emptyWord⟩
    · exact ⟨_, .literal h hc⟩
  · intro hc
    exact ne_of_isLiteral (d := emptySetMark) h (by decide) (List.singleton_inj.1 hc)

section
variable (halphabet : alphabet ≠ #[]) (hlit : ∀ c ∈ alphabet, isLiteral c = true)
include halphabet hlit

/-! ## Classes -/

theorem ensures_entry :
    (entry alphabet).Ensures fun v => ∃ r, Item v r := by
  refine (Draw.ensures_choose halphabet).bind fun a ha => ?_
  refine (Draw.ensures_chance 1 2).bind fun wide _ => ?_
  cases wide with
  | false => exact Draw.ensures_pure ⟨_, .single (hlit a ha)⟩
  | true =>
    refine (Draw.ensures_choose halphabet).bind fun b hb => Draw.ensures_pure ?_
    -- The two letters are put in order, so they are the bounds of a range.
    by_cases hab : a ≤ b
    · rw [if_pos hab]
      exact ⟨⟨a, b, hab⟩, Item.range (r := ⟨a, b, hab⟩) (hlit a ha) (hlit b hb)⟩
    · have hba : b ≤ a := (Char.le_total a b).resolve_left hab
      rw [if_neg hab]
      exact ⟨⟨b, a, hba⟩, Item.range (r := ⟨b, a, hba⟩) (hlit b hb) (hlit a ha)⟩

theorem ensures_charClass :
    (charClass alphabet).Ensures fun a => (∃ t, Atom sym a t) ∧ a ≠ [emptySetMark] := by
  have hentry : (entry alphabet).Ensures fun v =>
      ∀ w, (∃ rs, Items w rs) → ∃ rs, Items (w ++ v) rs :=
    (ensures_entry halphabet hlit).mono fun v ⟨_, hv⟩ w ⟨_, hw⟩ => ⟨_, hw.more hv⟩
  refine (Draw.ensures_chance 1 3).bind fun negated _ => ?_
  refine (Draw.ensures_range 0 4).bind fun n _ => ?_
  refine (ensures_pieces hentry n).bind fun v hv => ?_
  obtain ⟨rs, hrs⟩ := hv [] ⟨_, .none⟩
  have hatom : ∀ polarity, Atom sym ('[' :: hat polarity ++ v ++ [']'])
      (.literal (sym polarity rs)) := fun _ => .charClass hrs
  cases negated with
  | false => exact Draw.ensures_pure ⟨⟨_, hatom .including⟩, by simp⟩
  | true => exact Draw.ensures_pure ⟨⟨_, hatom .excluding⟩, by simp⟩

/-! ## Expressions -/

theorem ensures_atom
    (hinner : ∀ group ∈ inner, (group ()).Ensures fun w => ∃ t, Union sym w t) :
    (atom alphabet inner).Ensures fun a => (∃ t, Atom sym a t) ∧ a ≠ [emptySetMark] := by
  refine (Draw.ensures_range 0 _).bind fun kind hkind => ?_
  match kind, inner with
  | 0, _ =>
    exact (Draw.ensures_choose halphabet).bind fun c hc =>
      Draw.ensures_pure (exists_atom_of_isLiteral (hlit c hc))
  | 1, _ => exact ensures_charClass halphabet hlit
  | 2, _ => exact Draw.ensures_pure ⟨⟨_, .emptyWord⟩, by decide⟩
  | n + 3, none =>
    -- Without groups a number below three is drawn.
    have hlt : n + 3 < 3 := hkind.2
    omega
  | n + 3, some group =>
    refine (hinner group rfl).bind fun w ⟨t, ht⟩ => ?_
    exact Draw.ensures_pure ⟨⟨t, .group ht⟩, by simp⟩

theorem ensures_repetition
    (hinner : ∀ group ∈ inner, (group ()).Ensures fun w => ∃ t, Union sym w t) :
    (repetition alphabet inner).Ensures fun w =>
      ∃ a t, Repetition sym a w t ∧ a ≠ [emptySetMark] := by
  refine (ensures_atom halphabet hlit hinner).bind fun a ⟨⟨t, ht⟩, ha⟩ => ?_
  refine (Draw.ensures_chance 1 4).bind fun starred _ => ?_
  cases starred with
  | false => exact Draw.ensures_pure ⟨a, t, .once ht, ha⟩
  | true => exact Draw.ensures_pure ⟨a, .star t, .starred ht, ha⟩

theorem ensures_concat
    (hinner : ∀ group ∈ inner, (group ()).Ensures fun w => ∃ t, Union sym w t) :
    (concat alphabet inner).Ensures fun w => ∃ t, Concat sym w t := by
  have hrep := ensures_repetition halphabet hlit hinner
  have hmore : (repetition alphabet inner).Ensures fun v =>
      ∀ w, (∃ t, Concat sym w t) → ∃ t, Concat sym (w ++ v) t :=
    hrep.mono fun v ⟨_, _, hv, ha⟩ w ⟨_, hw⟩ => ⟨_, hw.more hv ha⟩
  -- What comes behind the first factor, which is drawn in one of two ways.
  have hrest : ∀ first, (∃ t, Concat sym first t) →
      (do
        let n ← Draw.range 0 3
        return first ++ (← pieces (repetition alphabet inner) n) :
          Draw (List Char)).Ensures fun w => ∃ t, Concat sym w t := fun first hfirst =>
    (Draw.ensures_range 0 3).bind fun n _ =>
      (ensures_pieces hmore n).bind fun v hv => Draw.ensures_pure (hv first hfirst)
  refine (Draw.ensures_chance 1 10).bind fun empty _ => ?_
  cases empty with
  | false => exact hrep.bind fun first ⟨_, _, hfirst, _⟩ => hrest first ⟨_, .one hfirst⟩
  | true => exact hrest _ ⟨_, .one (.once .emptySet)⟩

/-- A union drawn with any number of levels left derives from the grammar. -/
theorem ensures_union :
    ∀ depth, (union alphabet depth).Ensures fun w => ∃ t, Union sym w t
  | 0 =>
    (ensures_concat halphabet hlit (by simp)).mono fun w ⟨t, ht⟩ => ⟨t, .one ht⟩
  | depth + 1 => by
    have hconcat : (concat alphabet (some fun _ => union alphabet depth)).Ensures
        fun w => ∃ t, Concat sym w t :=
      ensures_concat halphabet hlit fun group hgroup => by
        cases hgroup
        exact ensures_union depth
    have hbranch : (do return '|' :: (← concat alphabet (some fun _ => union alphabet depth)) :
        Draw (List Char)).Ensures fun v =>
          ∀ w, (∃ t, Union sym w t) → ∃ t, Union sym (w ++ v) t :=
      hconcat.bind fun v ⟨_, hv⟩ => Draw.ensures_pure fun w ⟨_, hw⟩ => ⟨_, hw.more hv⟩
    refine (Draw.ensures_range 1 4).bind fun n _ => ?_
    refine hconcat.bind fun first ⟨t, ht⟩ => ?_
    exact (ensures_pieces hbranch (n - 1)).bind fun v hv =>
      Draw.ensures_pure (hv first ⟨t, .one ht⟩)

end

end Grammar

/-! ## Whole patterns -/

/-- On every branch the pattern is accepted as a whole, whatever its symbols are made of. -/
theorem Generator.ensures_grammar (b : SymbolBuilder β σ) (depth : Nat)
    (halphabet : alphabet ≠ #[]) (hlit : ∀ c ∈ alphabet, isLiteral c = true) :
    (Generator.grammar depth alphabet).generate.Ensures fun p =>
      ∃ t, (analyze b .strict p).result = .ok t := by
  have hunion : (Grammar.union alphabet depth).Ensures fun w => ∃ t, Union b.build w t :=
    Grammar.ensures_union halphabet hlit depth
  refine hunion.bind fun w ⟨t, ht⟩ => Draw.ensures_pure ⟨t, strict_eq_ok_iff_union.2 ?_⟩
  rwa [String.toList_ofList]

/-- Over an alphabet of literals the generator draws a pattern, on any source of numbers, and the
strict analysis accepts it. -/
theorem Generator.grammar_draws_accepted_pattern (b : SymbolBuilder β σ) (sample : Sampler γ)
    (s : γ) (depth : Nat) (halphabet : alphabet ≠ #[])
    (hlit : ∀ c ∈ alphabet, isLiteral c = true) :
    ∃ p, ((Generator.grammar depth alphabet).generate.runBy sample s).1 = .ok p ∧
      ∃ t, (analyze b .strict p).result = .ok t :=
  (Generator.ensures_grammar b depth halphabet hlit).runBy s

/-- The mark of the empty word is a letter like any other, also as the end of a range. -/
theorem Generator.grammar_draws_accepted_pattern_with_mark :
    let p := "ε*([^aa-ε](ε*)ε)*[a-ε]"
    #['a', emptyWordMark] ≠ #[] ∧ (∀ c ∈ #['a', emptyWordMark], isLiteral c = true) ∧
      ((Generator.grammar 2 #['a', emptyWordMark]).generate.runBy Source.sample
          (Source.seeded 4)).1 = .ok p ∧
        ∃ t, (analyze CharClass.builder .strict p).result = .ok t := by
  intro p
  have hne : #['a', emptyWordMark] ≠ #[] := by decide
  have hlit : ∀ c ∈ #['a', emptyWordMark], isLiteral c = true := by
    have ha : isLiteral 'a' = true := by decide +kernel
    simpa using ⟨ha, isLiteral_emptyWordMark⟩
  obtain ⟨q, hq, haccepted⟩ := Generator.grammar_draws_accepted_pattern CharClass.builder
    Source.sample (Source.seeded 4) 2 hne hlit
  obtain rfl : q = p := by
    have hdrawn : ((Generator.grammar 2 #['a', emptyWordMark]).generate.runBy Source.sample
        (Source.seeded 4)).1.toOption = some p := by decide +kernel
    rw [hq] at hdrawn
    exact Option.some.inj hdrawn
  exact ⟨hne, hlit, hq, haccepted⟩

end RegexPattern.Fuzz
