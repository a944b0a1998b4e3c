/-
From a derivation to a run: a text that derives from a rule of the grammar is taken wherever that
rule may start, and leaves behind the tree of the derivation. With the converse from `Soundness`,
the strict analysis accepts exactly the patterns that derive from a union, each with the tree of its
derivation, of which there is only one.
-/
import RegexPattern.Proofs.Parser.Soundness
import Mathlib.Data.Set.Subsingleton

namespace RegexPattern.Parser

open Grammar

variable {β σ : Type} {b : SymbolBuilder β σ} {sym : Polarity → List CharRange → σ}
  {outer : List (Level σ)} {l l' : Level σ} {f : Focus σ} {t u : Tree σ} {starred : Bool}
  {polarity : Polarity} {a v w : List Char} {rs : List CharRange}

/-! ## Entries of a class -/

/-- Entries of a class are taken wherever one may stand, and add their ranges to it. -/
theorem Grammar.Items.reaches (h : Items w rs) (hv : Reaches b v ⟨outer, l, f⟩)
    (hf : f.openClass? = some ⟨polarity, #[]⟩) :
    ∃ f', Reaches b (v ++ w) ⟨outer, l, f'⟩ ∧ f'.openClass? = some ⟨polarity, rs.toArray⟩ := by
  induction h with
  | none => exact ⟨f, by simpa using hv, hf⟩
  | @more w x rs r _ hi ih =>
    obtain ⟨f', hw, hf'⟩ := ih
    cases hi with
    | single hc =>
      refine ⟨_, by simpa using hw.next (.entry hf' hc), ?_⟩
      simp [Focus.openClass?, OpenClass.push]
    | range hfirst hlast =>
      -- The first literal is taken as an entry of its own until the dash shows that it is not.
      have hdash := (hw.next (.entry hf' hfirst)).next .dash
      refine ⟨_, by simpa using hdash.next (.rangeEnd hlast), ?_⟩
      simp [Focus.openClass?, OpenClass.push]

/-! ## Expressions -/

/-- An atom with the text `a` may start in the focus `f`, which makes the level `l'`. -/
def Ready (f : Focus σ) (l : Level σ) (a : List Char) (l' : Level σ) : Prop :=
  ∀ c v n, a = c :: v → ∃ es, Opens n f l c es l'

theorem ready_atom : Ready .atom l a l := fun _ _ _ _ => ⟨_, .first⟩

theorem ready_factor (h : Atom sym a u) (ha : a ≠ [emptySetMark]) :
    Ready (.factor t starred) l a (l.addFactor t) := by
  intro c v n hcv
  obtain ⟨c', v', rfl, hc⟩ := h.starts ha
  cases hcv
  exact ⟨_, .next hc⟩

theorem Grammar.Repetition.atom (h : Repetition sym a w t) : ∃ u, Atom sym a u := by
  cases h with
  | once h => exact ⟨_, h⟩
  | starred h => exact ⟨_, h⟩

mutual

/-- A union is taken where a union starts, and leaves it open with its tree. -/
theorem Grammar.Union.reaches : ∀ {w : List Char} {t : Tree σ}, Union b.build w t →
    ∀ {v : List Char} {outer : List (Level σ)}, Reaches b v ⟨outer, .blank, .atom⟩ →
      ∃ l u starred, Reaches b (v ++ w) ⟨outer, l, .factor u starred⟩ ∧ l.tree u = t
  | _, _, .one h, v, outer, hv => by
    obtain ⟨factors, u, starred, hr, rfl⟩ := h.reaches hv
    exact ⟨⟨none, factors⟩, u, starred, hr, rfl⟩
  | _, _, .more h h', v, outer, hv => by
    obtain ⟨l, u, starred, hr, rfl⟩ := h.reaches hv
    obtain ⟨factors, u', starred', hr', rfl⟩ := h'.reaches (hr.next .bar)
    exact ⟨⟨some (l.tree u), factors⟩, u', starred', by simpa using hr', rfl⟩

/-- A concatenation is taken where a branch starts, and leaves it open with its tree. -/
theorem Grammar.Concat.reaches : ∀ {w : List Char} {t : Tree σ}, Concat b.build w t →
    ∀ {v : List Char} {outer : List (Level σ)} {branches : Option (Tree σ)},
      Reaches b v ⟨outer, ⟨branches, none⟩, .atom⟩ →
      ∃ factors u starred, Reaches b (v ++ w) ⟨outer, ⟨branches, factors⟩, .factor u starred⟩ ∧
        Level.branch ⟨branches, factors⟩ u = t
  | _, _, .one h, v, outer, branches, hv => by
    obtain ⟨starred, hr⟩ := h.reaches hv ready_atom
    exact ⟨none, _, starred, hr, rfl⟩
  | _, _, .more h h' ha, v, outer, branches, hv => by
    obtain ⟨factors, u, starred, hr, rfl⟩ := h.reaches hv
    obtain ⟨_, hatom⟩ := h'.atom
    obtain ⟨starred', hr'⟩ := h'.reaches hr (ready_factor hatom ha)
    exact ⟨_, _, starred', by simpa [Level.addFactor] using hr', rfl⟩

/-- A repetition is taken where its atom may start. -/
theorem Grammar.Repetition.reaches : ∀ {a w : List Char} {t : Tree σ},
    Repetition b.build a w t →
    ∀ {v : List Char} {outer : List (Level σ)} {l l' : Level σ} {f : Focus σ},
      Reaches b v ⟨outer, l, f⟩ → Ready f l a l' →
      ∃ starred, Reaches b (v ++ w) ⟨outer, l', .factor t starred⟩
  | _, _, _, .once h, v, outer, l, l', f, hv, hready => ⟨false, h.reaches hv hready⟩
  | _, _, _, .starred h, v, outer, l, l', f, hv, hready =>
    ⟨true, by simpa using (h.reaches hv hready).next .star⟩

/-- An atom is taken where it may start. -/
theorem Grammar.Atom.reaches : ∀ {a : List Char} {t : Tree σ}, Atom b.build a t →
    ∀ {v : List Char} {outer : List (Level σ)} {l l' : Level σ} {f : Focus σ},
      Reaches b v ⟨outer, l, f⟩ → Ready f l a l' →
      Reaches b (v ++ a) ⟨outer, l', .factor t false⟩
  | _, _, .emptyWord, v, outer, l, l', f, hv, hready => by
    obtain ⟨es, ho⟩ := hready _ _ v.length rfl
    exact hv.next (.emptyWord ho)
  | _, _, .emptySet, v, outer, l, l', f, hv, hready => by
    obtain ⟨es, ho⟩ := hready _ _ v.length rfl
    exact hv.next (.emptySet ho)
  | _, _, .literal hc hne, v, outer, l, l', f, hv, hready => by
    obtain ⟨es, ho⟩ := hready _ _ v.length rfl
    exact hv.next (.literal ho hc hne)
  | _, _, .group h, v, outer, l, l', f, hv, hready => by
    obtain ⟨es, ho⟩ := hready _ _ v.length rfl
    obtain ⟨l'', u, starred, hr, rfl⟩ := h.reaches (hv.next (.group ho))
    simpa using hr.next .close
  | _, _, @Atom.charClass _ _ polarity _ _ h, v, outer, l, l', f, hv, hready => by
    obtain ⟨es, ho⟩ := hready _ _ v.length rfl
    have hv' := hv.next (.charClass ho)
    -- Only behind a hat are the entries excluded.
    cases polarity with
    | including =>
      obtain ⟨f', hr, hf'⟩ := h.reaches hv' rfl
      simpa [hat] using hr.next (.classEnd hf')
    | excluding =>
      obtain ⟨f', hr, hf'⟩ := h.reaches (hv'.next .hat) rfl
      simpa [hat] using hr.next (.classEnd hf')

end

/-! ## Whole patterns -/

/-- With any symbols, the strict analysis gives a pattern the trees of its derivations. -/
theorem strict_eq_ok_iff_union {p : String} :
    (analyze b .strict p).result = .ok t ↔ Union b.build p.toList t := by
  rw [strict_eq_ok_iff]
  constructor
  · rintro ⟨l, u, starred, h, rfl⟩
    exact h.union
  · intro h
    obtain ⟨l, u, starred, hr, rfl⟩ := h.reaches Reaches.start
    exact ⟨l, u, starred, hr, rfl⟩

/-- The strict analysis with recorded symbols gives exactly the trees of the grammar in which each
symbol is the one telling it comes from, and no pattern has two of them. -/
theorem strict_exactly_grammar (p : String) :
    (∀ t, (analyze SymbolBuilder.recording .strict p).result = .ok t ↔
      Union (fun polarity ranges => [⟨polarity, ranges⟩]) p.toList t) ∧
    {t : Tree (List SymbolBuilder.Call) |
      Union (fun polarity ranges => [⟨polarity, ranges⟩]) p.toList t}.Subsingleton := by
  have h : ∀ t, (analyze SymbolBuilder.recording .strict p).result = .ok t ↔
      Union (fun polarity ranges => [⟨polarity, ranges⟩]) p.toList t :=
    fun t => strict_eq_ok_iff_union
  refine ⟨h, fun t ht u hu => ?_⟩
  have := ((h t).2 ht).symm.trans ((h u).2 hu)
  cases this
  rfl

end RegexPattern.Parser
