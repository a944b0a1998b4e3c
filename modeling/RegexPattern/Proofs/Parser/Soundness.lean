/-
What a state remembers of the text behind it: every open union, the latest factor and the open class
stand for a piece of the text that derives from their rule of the grammar. The pieces in a row are
the whole text (`StateText`); each character that is taken keeps that so (`Takes.stateText`). Where
an expression may end, nothing is open, and the pieces make a derivation of the text.
-/
import RegexPattern.Proofs.Parser.Grammar
import RegexPattern.Proofs.Parser.Run

namespace RegexPattern.Parser

open Grammar

variable {β σ : Type}

/-! ## Pieces of text -/

section
variable (sym : Polarity → List CharRange → σ)

/-- The closed branches of a union, with the bar behind them. -/
def BranchesText : Option (Tree σ) → List Char → Prop
  | none, w => w = []
  | some t, w => ∃ v, w = v ++ ['|'] ∧ Union sym v t

/-- The factors of the open branch before the latest one. -/
def FactorsText : Option (Tree σ) → List Char → Prop
  | none, w => w = []
  | some t, w => Concat sym w t

/-- What has been read of an open union, without its latest factor. -/
def LevelText (l : Level σ) (w : List Char) : Prop :=
  ∃ u v, w = u ++ v ∧ BranchesText sym l.branches u ∧ FactorsText sym l.factors v

/-- What has been read around the innermost open union, up to the parenthesis that opens it. -/
def OuterText : List (Level σ) → List Char → Prop
  | [], w => w = []
  | l :: outer, w => ∃ u v, w = u ++ v ++ ['('] ∧ OuterText outer u ∧ LevelText sym l v

/-- A repetition that may stand behind the factors of `l`. -/
def FactorText (l : Level σ) (t : Tree σ) (w : List Char) : Prop :=
  ∃ a, Repetition sym a w t ∧ (l.factors ≠ none → a ≠ [emptySetMark])

/-- What has been read of an open class. -/
def ClassText (k : OpenClass) (w : List Char) : Prop :=
  ∃ v, w = '[' :: hat k.polarity ++ v ∧ Items v k.ranges.toList

/-- What has been read of what the parser is in the middle of. -/
def FocusText (l : Level σ) : Focus σ → List Char → Prop
  | .atom, w => w = [] ∧ l.factors = none
  | .factor t false, w => Atom sym w t ∧ (l.factors ≠ none → w ≠ [emptySetMark])
  | .factor t true, w => FactorText sym l t w
  | .classStart, w => w = ['[']
  | .classEntry k, w => ClassText k w
  | .classLiteral k first, w => isLiteral first = true ∧ ∃ v, w = v ++ [first] ∧ ClassText k v
  | .classRange k first, w => isLiteral first = true ∧ ∃ v, w = v ++ [first, '-'] ∧ ClassText k v

/-- The text behind a state: what is open, from the outside in. -/
def StateText (s : State σ) (w : List Char) : Prop :=
  ∃ u v x, w = u ++ v ++ x ∧ OuterText sym s.outer u ∧ LevelText sym s.level v ∧
    FocusText sym s.level s.focus x

end

variable {sym : Polarity → List CharRange → σ} {b : SymbolBuilder β σ} {n : Nat} {c : Char}
  {s s' : State σ} {l l' : Level σ} {f : Focus σ} {t : Tree σ} {starred : Bool} {k : OpenClass}
  {es : List Event} {events : Array Event} {r : CharRange} {v w x : List Char}

/-! ## Unions that grow -/

theorem levelText_blank : LevelText sym .blank [] := ⟨[], [], rfl, rfl, rfl⟩

/-- With a further factor the open branch is a concatenation. -/
theorem FactorText.branch (h : FactorText sym l t x) (hv : FactorsText sym l.factors v) :
    Concat sym (v ++ x) (l.branch t) := by
  obtain ⟨a, hr, ha⟩ := h
  obtain ⟨branches, factors⟩ := l
  cases factors with
  | none =>
    obtain rfl : v = [] := hv
    exact .one hr
  | some first => exact .more hv hr (ha (by simp))

/-- With a further factor the open union is a union. -/
theorem FactorText.tree (h : FactorText sym l t x) (hl : LevelText sym l v) :
    Union sym (v ++ x) (l.tree t) := by
  obtain ⟨u, v, rfl, hu, hv⟩ := hl
  have hb := h.branch hv
  obtain ⟨branches, factors⟩ := l
  cases branches with
  | none =>
    obtain rfl : u = [] := hu
    exact .one hb
  | some first =>
    obtain ⟨u, rfl, hu⟩ := hu
    have := Union.more hu hb
    simpa [Level.tree] using this

theorem FactorText.addFactor (h : FactorText sym l t x) (hl : LevelText sym l v) :
    LevelText sym (l.addFactor t) (v ++ x) := by
  obtain ⟨u, v, rfl, hu, hv⟩ := hl
  exact ⟨u, v ++ x, by simp, hu, h.branch hv⟩

theorem FactorText.closeBranch (h : FactorText sym l t x) (hl : LevelText sym l v) :
    LevelText sym (l.closeBranch t) (v ++ x ++ ['|']) :=
  ⟨v ++ x ++ ['|'], [], by simp, ⟨v ++ x, rfl, h.tree hl⟩, rfl⟩

/-- What has been read of a factor is one, even if a star may follow. -/
theorem FocusText.factorText (h : FocusText sym l (.factor t starred) x) :
    FactorText sym l t x := by
  cases starred with
  | false => exact ⟨x, .once h.1, h.2⟩
  | true => exact h

/-! ## Classes that grow -/

theorem ClassText.push (h : ClassText k w) (hi : Item v r) : ClassText (k.push r) (w ++ v) := by
  obtain ⟨u, rfl, hu⟩ := h
  exact ⟨u ++ v, by simp [OpenClass.push], by simpa [OpenClass.push] using hu.more hi⟩

theorem FocusText.classText (h : FocusText sym l f w) (hk : f.openClass? = some k) :
    ClassText k w := by
  cases f with
  | atom => cases hk
  | factor t starred => cases hk
  | classStart => cases hk; exact ⟨[], h, .none⟩
  | classEntry k => cases hk; exact h
  | classLiteral k first =>
    cases hk
    obtain ⟨hc, v, rfl, hv⟩ := h
    exact hv.push (.single hc)
  | classRange k first => cases hk

theorem ClassText.atom (h : ClassText k w) :
    Atom sym (w ++ [']']) (.literal (sym k.polarity k.ranges.toList)) := by
  obtain ⟨v, rfl, hv⟩ := h
  exact .charClass hv

/-- Where the end of a range has to follow, its start and a dash have been read last. -/
theorem StateText.exists_range_start {outer : List (Level σ)} {first : Char}
    (h : StateText sym ⟨outer, l, .classRange k first⟩ w) :
    isLiteral first = true ∧ ∃ z, w = z ++ [first, '-'] := by
  obtain ⟨u, v, x, rfl, -, -, hfirst, y, rfl, -⟩ := h
  exact ⟨hfirst, u ++ v ++ y, by simp⟩

/-! ## One character -/

/-- Where an atom starts behind a factor, that factor has gone to the open branch, and the atom is
not the mark of the empty set. -/
theorem Opens.levelText (h : Opens n f l c es l') (hl : LevelText sym l v)
    (hf : FocusText sym l f x) :
    LevelText sym l' (v ++ x) ∧ (l'.factors ≠ none → c ≠ emptySetMark) := by
  cases h with
  | first =>
    obtain ⟨rfl, hl'⟩ := hf
    exact ⟨by simpa using hl, fun h => absurd hl' h⟩
  | next hc =>
    refine ⟨hf.factorText.addFactor hl, fun _ hne => ?_⟩
    -- The mark of the empty set does not let a concatenation go on.
    have : startsFactor emptySetMark = false :=
      startsFactor_of_mem_reserved (by decide) (by decide) (by decide)
    rw [hne, this] at hc
    cases hc

/-- Each character that is taken adds itself to the text behind the state. -/
theorem Takes.stateText (h : Takes b n s c es s') (hs : StateText b.build s w) :
    StateText b.build s' (w ++ [c]) := by
  obtain ⟨u, v, x, rfl, ho, hl, hf⟩ := hs
  cases h with
  | emptyWord h =>
    obtain ⟨hl, -⟩ := h.levelText hl hf
    exact ⟨u, v ++ x, _, by simp, ho, hl, .emptyWord, fun _ => by decide⟩
  | emptySet h =>
    obtain ⟨hl, hne⟩ := h.levelText hl hf
    exact ⟨u, v ++ x, _, by simp, ho, hl, .emptySet, fun h => absurd rfl (hne h)⟩
  | group h =>
    obtain ⟨hl, -⟩ := h.levelText hl hf
    exact ⟨u ++ (v ++ x) ++ ['('], [], [], by simp, ⟨u, v ++ x, rfl, ho, hl⟩, levelText_blank,
      rfl, rfl⟩
  | charClass h =>
    obtain ⟨hl, -⟩ := h.levelText hl hf
    exact ⟨u, v ++ x, _, by simp, ho, hl, rfl⟩
  | literal h hc hne =>
    obtain ⟨hl, hset⟩ := h.levelText hl hf
    exact ⟨u, v ++ x, _, by simp, ho, hl, .literal hc hne, fun h => by simpa using hset h⟩
  | star => exact ⟨u, v, x ++ ['*'], by simp, ho, hl, x, .starred hf.1, hf.2⟩
  | bar =>
    exact ⟨u, v ++ x ++ ['|'], [], by simp, ho, hf.factorText.closeBranch hl, rfl, rfl⟩
  | close =>
    -- The union inside becomes an atom of the one around it, which stands where it was left.
    obtain ⟨u, y, rfl, ho, hy⟩ := ho
    refine ⟨u, y, '(' :: (v ++ x) ++ [')'], by simp, ho, hy, .group (hf.factorText.tree hl), ?_⟩
    exact fun _ h => by simp at h
  | hat =>
    obtain rfl : x = ['['] := hf
    exact ⟨u, v, ['[', '^'], by simp, ho, hl, [], rfl, .none⟩
  | entry hk hc => exact ⟨u, v, x ++ [c], by simp, ho, hl, hc, x, rfl, hf.classText hk⟩
  | classEnd hk =>
    -- A class is longer than the mark of the empty set.
    refine ⟨u, v, x ++ [']'], by simp, ho, hl, (hf.classText hk).atom, fun _ h => ?_⟩
    obtain ⟨y, rfl, -⟩ := hf.classText hk
    simp at h
  | dash =>
    obtain ⟨hc, y, rfl, hy⟩ := hf
    exact ⟨u, v, _, by simp, ho, hl, hc, y, rfl, hy⟩
  | rangeEnd hc =>
    obtain ⟨hfirst, y, rfl, hy⟩ := hf
    exact ⟨u, v, _, by simp, ho, hl, hy.push (.range hfirst hc)⟩

/-! ## A whole text -/

theorem Reached.stateText (h : Reached b w s events) : StateText b.build s w := by
  induction h with
  | start => exact ⟨[], [], [], rfl, rfl, levelText_blank, rfl, rfl⟩
  | next _ hc ih => exact hc.stateText ih

theorem Reaches.stateText (h : Reaches b w s) : StateText b.build s w := by
  obtain ⟨events, h⟩ := h
  exact h.stateText

/-- A text that is taken to its end, where an expression may end, derives from the grammar. -/
theorem Reaches.union (h : Reaches b w ⟨[], l, .factor t starred⟩) :
    Union b.build w (l.tree t) := by
  obtain ⟨u, v, x, rfl, rfl, hl, hf⟩ := h.stateText
  exact hf.factorText.tree hl

end RegexPattern.Parser
