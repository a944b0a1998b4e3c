/-
What one character does to a parser, case by case: `Takes` has a rule for each way in which it can
be taken, `Fails` one for each way in which it cannot stand where it is, and a `Foreign` character
after an expression ends it. Every step follows one of these rules (`judged_step`), and every rule
is a step (`Judged.step_eq`); likewise for the end of the pattern. Everything shown of runs rests on
the rules and not on the branches of `State.step`.
-/
import RegexPattern.Parser.Step
import Mathlib.Tactic.SplitIfs

namespace RegexPattern.Parser

variable {β σ : Type}

/-! ## Characters that are taken -/

/-- An atom may start with `c`: at once, or behind a factor, which then goes to the open branch. -/
inductive Opens (n : Nat) : Focus σ → Level σ → Char → List Event → Level σ → Prop
  | first {l : Level σ} {c : Char} : Opens n .atom l c [] l
  | next {l : Level σ} {c : Char} {t : Tree σ} {starred : Bool} : startsFactor c = true →
      Opens n (.factor t starred) l c (Event.atFactor n) (l.addFactor t)

/-- The class that is open where an entry of it or its end may stand, with all entries so far. -/
def Focus.openClass? : Focus σ → Option OpenClass
  | .classStart => some ⟨.including, #[]⟩
  | .classEntry k => some k
  | .classLiteral k first => some (k.push (.single first))
  | _ => none

/-- What may stand in an open class besides a literal. -/
def Focus.classMarks : Focus σ → List Char
  | .classStart => ['^', ']']
  | .classLiteral _ _ => ['-', ']']
  | _ => [']']

/-- The ways in which a parser takes the character at offset `n`, with what happens and the state
it leads to. -/
inductive Takes (b : SymbolBuilder β σ) (n : Nat) :
    State σ → Char → List Event → State σ → Prop
  | emptyWord {outer : List (Level σ)} {l l' : Level σ} {f : Focus σ} {es : List Event} :
      Opens n f l emptyWordMark es l' →
      Takes b n ⟨outer, l, f⟩ emptyWordMark es ⟨outer, l', .factor .emptyWord false⟩
  | emptySet {outer : List (Level σ)} {l l' : Level σ} {f : Focus σ} {es : List Event} :
      Opens n f l emptySetMark es l' →
      Takes b n ⟨outer, l, f⟩ emptySetMark es ⟨outer, l', .factor .emptySet false⟩
  | group {outer : List (Level σ)} {l l' : Level σ} {f : Focus σ} {es : List Event} :
      Opens n f l '(' es l' →
      Takes b n ⟨outer, l, f⟩ '(' (es ++ Event.atUnion (n + 1)) ⟨l' :: outer, .blank, .atom⟩
  | charClass {outer : List (Level σ)} {l l' : Level σ} {f : Focus σ} {es : List Event} :
      Opens n f l '[' es l' →
      Takes b n ⟨outer, l, f⟩ '[' (es ++ [.enter .charClass (n + 1)]) ⟨outer, l', .classStart⟩
  | literal {outer : List (Level σ)} {l l' : Level σ} {f : Focus σ} {es : List Event} {c : Char} :
      Opens n f l c es l' → isLiteral c = true → c ≠ emptyWordMark →
      Takes b n ⟨outer, l, f⟩ c (es ++ Event.atSymbol)
        ⟨outer, l', .factor (.literal (b.build .including [.single c])) false⟩
  | star {outer : List (Level σ)} {l : Level σ} {t : Tree σ} :
      Takes b n ⟨outer, l, .factor t false⟩ '*' [] ⟨outer, l, .factor (.star t) true⟩
  | bar {outer : List (Level σ)} {l : Level σ} {t : Tree σ} {starred : Bool} :
      Takes b n ⟨outer, l, .factor t starred⟩ '|' (Event.atBranch (n + 1))
        ⟨outer, l.closeBranch t, .atom⟩
  | close {outer : List (Level σ)} {l l' : Level σ} {t : Tree σ} {starred : Bool} :
      Takes b n ⟨l' :: outer, l, .factor t starred⟩ ')' [] ⟨outer, l', .factor (l.tree t) false⟩
  | hat {outer : List (Level σ)} {l : Level σ} :
      Takes b n ⟨outer, l, .classStart⟩ '^' [] ⟨outer, l, .classEntry ⟨.excluding, #[]⟩⟩
  | entry {outer : List (Level σ)} {l : Level σ} {f : Focus σ} {k : OpenClass} {c : Char} :
      f.openClass? = some k → isLiteral c = true →
      Takes b n ⟨outer, l, f⟩ c [] ⟨outer, l, .classLiteral k c⟩
  | classEnd {outer : List (Level σ)} {l : Level σ} {f : Focus σ} {k : OpenClass} :
      f.openClass? = some k →
      Takes b n ⟨outer, l, f⟩ ']' Event.atSymbol
        ⟨outer, l, .factor (.literal (b.build k.polarity k.ranges.toList)) false⟩
  | dash {outer : List (Level σ)} {l : Level σ} {k : OpenClass} {first : Char} :
      Takes b n ⟨outer, l, .classLiteral k first⟩ '-' [] ⟨outer, l, .classRange k first⟩
  | rangeEnd {outer : List (Level σ)} {l : Level σ} {k : OpenClass} {r : CharRange} :
      isLiteral r.last = true →
      Takes b n ⟨outer, l, .classRange k r.first⟩ r.last [] ⟨outer, l, .classEntry (k.push r)⟩

/-! ## Characters that are not taken -/

/-- The character neither stars nor continues nor branches what ends with a factor. -/
structure Foreign (starred : Bool) (c : Char) : Prop where
  noStar : ¬(c = '*' ∧ starred = false)
  noFactor : startsFactor c = false
  noBar : c ≠ '|'

/-- The ways in which the character at offset `n` cannot stand where it is. -/
inductive Fails (n : Nat) : State σ → Char → ParseError → Prop
  | atom {outer : List (Level σ)} {l : Level σ} {c : Char} :
      c ≠ emptyWordMark → c ≠ emptySetMark → c ≠ '(' → c ≠ '[' → isLiteral c = false →
      Fails n ⟨outer, l, .atom⟩ c ⟨.unknownCharacter c, n⟩
  | unclosed {outer : List (Level σ)} {l l' : Level σ} {t : Tree σ} {starred : Bool} {c : Char} :
      Foreign starred c → c ≠ ')' →
      Fails n ⟨l' :: outer, l, .factor t starred⟩ c ⟨.expectedCharacter ')' (some c), n⟩
  | entry {outer : List (Level σ)} {l : Level σ} {f : Focus σ} {k : OpenClass} {c : Char} :
      f.openClass? = some k → c ∉ f.classMarks → isLiteral c = false →
      Fails n ⟨outer, l, f⟩ c ⟨.expectedLiteral (some c), n⟩
  | rangeEnd {outer : List (Level σ)} {l : Level σ} {k : OpenClass} {first c : Char} :
      isLiteral c = false →
      Fails n ⟨outer, l, .classRange k first⟩ c ⟨.expectedLiteral (some c), n⟩
  | inverted {outer : List (Level σ)} {l : Level σ} {k : OpenClass} {first c : Char} :
      isLiteral c = true → c < first →
      Fails n ⟨outer, l, .classRange k first⟩ c ⟨.invertedRange first c, n - 2⟩

/-- What the character at offset `n` may do to a parser. -/
inductive Judged (b : SymbolBuilder β σ) (n : Nat) : State σ → Char → Step σ → Prop
  | takes {s s' : State σ} {c : Char} {es : List Event} :
      Takes b n s c es s' → Judged b n s c ⟨es, .next s'⟩
  | stops {l : Level σ} {t : Tree σ} {starred : Bool} {c : Char} :
      Foreign starred c → Judged b n ⟨[], l, .factor t starred⟩ c ⟨[], .stop (l.tree t)⟩
  | fails {s : State σ} {c : Char} {e : ParseError} :
      Fails n s c e → Judged b n s c ⟨[], .fail e⟩

/-- The ways in which a pattern cannot end at offset `n`. -/
inductive Unfinished (n : Nat) : State σ → ParseError → Prop
  | atom {outer : List (Level σ)} {l : Level σ} :
      Unfinished n ⟨outer, l, .atom⟩ ⟨.unexpectedEnd, n⟩
  | unclosed {outer : List (Level σ)} {l l' : Level σ} {t : Tree σ} {starred : Bool} :
      Unfinished n ⟨l' :: outer, l, .factor t starred⟩ ⟨.expectedCharacter ')' none, n⟩
  | entry {outer : List (Level σ)} {l : Level σ} {f : Focus σ} {k : OpenClass} :
      f.openClass? = some k → Unfinished n ⟨outer, l, f⟩ ⟨.expectedLiteral none, n⟩
  | rangeEnd {outer : List (Level σ)} {l : Level σ} {k : OpenClass} {first : Char} :
      Unfinished n ⟨outer, l, .classRange k first⟩ ⟨.expectedLiteral none, n⟩

/-! ## Literals among the other characters -/

variable {b : SymbolBuilder β σ} {n : Nat} {c d : Char} {s s' : State σ} {t : Tree σ}
  {outer : List (Level σ)} {l l' : Level σ} {f g : Focus σ} {k : OpenClass} {es : List Event}
  {e : ParseError} {starred : Bool} {step : Step σ}

theorem ne_of_isLiteral (h : isLiteral c = true) (hd : d ∈ reserved) : c ≠ d :=
  fun hcd => not_mem_reserved h (hcd ▸ hd)

theorem startsFactor_eq_false_iff :
    startsFactor c = false ↔ isLiteral c = false ∧ c ≠ '(' ∧ c ≠ '[' := by
  simp [startsFactor, and_assoc]

/-- Of the characters with a meaning of their own only the opening ones start a factor. -/
theorem startsFactor_of_mem_reserved (h : c ∈ reserved) (hparen : c ≠ '(') (hbracket : c ≠ '[') :
    startsFactor c = false :=
  startsFactor_eq_false_iff.2 ⟨isLiteral_of_mem_reserved h, hparen, hbracket⟩

theorem Focus.close_mem_classMarks : ']' ∈ f.classMarks := by
  cases f <;> simp [Focus.classMarks]

theorem Focus.classMarks_subset : f.classMarks ⊆ reserved := by
  cases f <;> simp [Focus.classMarks, reserved]

/-! ## Every step follows a rule -/

theorem judged_stepAtom (h : Opens n f l c es l') :
    Judged b n ⟨outer, l, f⟩ c
      ⟨es ++ ((State.mk outer l' g).stepAtom b n c).events,
        ((State.mk outer l' g).stepAtom b n c).move⟩ := by
  unfold State.stepAtom
  split_ifs with h1 h2 h3 h4 h5
  · subst h1; simpa using .takes (.emptyWord h)
  · subst h2; simpa using .takes (.emptySet h)
  · subst h3; exact .takes (.group h)
  · subst h4; exact .takes (.charClass h)
  · exact .takes (.literal h h5 h1)
  · rw [Bool.not_eq_true] at h5
    cases h with
    | first => exact .fails (.atom h1 h2 h3 h4 h5)
    -- Behind a factor only what starts one is read as an atom, and this does not.
    | next hc => rw [startsFactor_eq_false_iff.2 ⟨h5, h3, h4⟩] at hc; cases hc

theorem judged_stepEntry (h : f.openClass? = some k) (hc : c ≠ ']' → c ∉ f.classMarks) :
    Judged b n ⟨outer, l, f⟩ c ((State.mk outer l g).stepEntry b k n c) := by
  unfold State.stepEntry
  split_ifs with h1 h2
  · subst h1; exact .takes (.classEnd h)
  · exact .takes (.entry h h2)
  · exact .fails (.entry h (hc h1) (by simpa using h2))

theorem judged_step : Judged b n s c (s.step b n c) := by
  obtain ⟨outer, l, f⟩ := s
  cases f with
  | atom => exact judged_stepAtom .first
  | factor t starred =>
    simp only [State.step, State.stepFactor]
    split_ifs with h1 h2 h3
    · obtain ⟨rfl, rfl⟩ := h1; exact .takes .star
    · exact judged_stepAtom (.next h2)
    · subst h3; exact .takes .bar
    · -- The union ends before `c`: that closes a group, or else it ends the whole expression.
      have hc : Foreign starred c := ⟨h1, by simpa using h2, h3⟩
      unfold State.stepClose
      cases outer with
      | nil => exact .stops hc
      | cons l' outer =>
        simp only
        split_ifs with h4
        · subst h4; exact .takes .close
        · exact .fails (.unclosed hc h4)
  | classStart =>
    simp only [State.step]
    split_ifs with h1
    · subst h1; exact .takes .hat
    · exact judged_stepEntry rfl fun h => by simp [Focus.classMarks, h1, h]
  | classEntry k => exact judged_stepEntry rfl fun h => by simp [Focus.classMarks, h]
  | classLiteral k first =>
    simp only [State.step]
    split_ifs with h1
    · subst h1; exact .takes .dash
    · exact judged_stepEntry rfl fun h => by simp [Focus.classMarks, h1, h]
  | classRange k first =>
    simp only [State.step, State.stepRange]
    split_ifs with h1
    · unfold CharRange.ofBounds?
      by_cases h2 : first ≤ c
      · rw [dif_pos h2]; exact .takes (.rangeEnd (r := ⟨first, c, h2⟩) h1)
      · rw [dif_neg h2]; exact .fails (.inverted h1 (Char.not_le.1 h2))
    · exact .fails (.rangeEnd (by simpa using h1))

/-! ## Every rule is a step -/

/-- Where an atom may start, the step is that of an atom. -/
theorem Opens.step_eq (h : Opens n f l c es l') :
    (State.mk outer l f).step b n c =
      ⟨es ++ ((State.mk outer l' f).stepAtom b n c).events,
        ((State.mk outer l' f).stepAtom b n c).move⟩ := by
  cases h with
  | first => rfl
  | next hc =>
    -- Behind a factor the step asks for a star first, which starts no factor.
    have hstar : c ≠ '*' := fun h => by
      subst h
      rw [startsFactor_of_mem_reserved (by decide) (by decide) (by decide)] at hc
      cases hc
    simp only [State.step, State.stepFactor]
    rw [if_neg (fun h => hstar h.1), if_pos hc]

/-- Where an entry of a class may stand, the step is that of an entry. -/
theorem step_eq_stepEntry (h : f.openClass? = some k) (hc : c ∈ f.classMarks → c = ']') :
    (State.mk outer l f).step b n c = (State.mk outer l f).stepEntry b k n c := by
  -- The two marks that the step asks for before it takes an entry.
  have hne : ∀ d ∈ f.classMarks, d ≠ ']' → c ≠ d := fun d hd hd' hcd =>
    hd' (hcd ▸ hc (hcd ▸ hd))
  cases f with
  | atom => cases h
  | factor t starred => cases h
  | classStart =>
    cases h
    simp only [State.step]
    rw [if_neg (hne '^' (by simp [Focus.classMarks]) (by decide))]
  | classEntry k => cases h; rfl
  | classLiteral k first =>
    cases h
    simp only [State.step]
    rw [if_neg (hne '-' (by simp [Focus.classMarks]) (by decide))]
  | classRange k first => cases h

theorem Takes.step_eq (h : Takes b n s c es s') : s.step b n c = ⟨es, .next s'⟩ := by
  cases h with
  | emptyWord h => rw [h.step_eq]; simp [State.stepAtom, State.afterFactor]
  | emptySet h =>
    rw [h.step_eq, State.stepAtom, if_neg (by decide), if_pos rfl]; simp [State.afterFactor]
  | group h => rw [h.step_eq]; simp [State.stepAtom, emptySetMark, emptyWordMark]
  | charClass h => rw [h.step_eq]; simp [State.stepAtom, emptySetMark, emptyWordMark]
  | literal h hc hne =>
    -- The marks and the brackets are asked for first, and a literal is none of them.
    rw [h.step_eq, State.stepAtom, if_neg hne, if_neg (ne_of_isLiteral hc (by decide)),
      if_neg (ne_of_isLiteral hc (by decide)), if_neg (ne_of_isLiteral hc (by decide)), if_pos hc]
    rfl
  | star => rfl
  | bar =>
    have hc : startsFactor '|' = false :=
      startsFactor_of_mem_reserved (by decide) (by decide) (by decide)
    simp only [State.step, State.stepFactor, hc]
    rw [if_neg (by simp), if_neg (by simp), if_pos trivial]
  | close =>
    have hc : startsFactor ')' = false :=
      startsFactor_of_mem_reserved (by decide) (by decide) (by decide)
    simp only [State.step, State.stepFactor, hc, State.stepClose]
    rw [if_neg (by simp), if_neg (by simp), if_neg (by decide), if_pos trivial]
  | hat => rfl
  | entry h hc =>
    rw [step_eq_stepEntry h fun hm =>
        absurd (Focus.classMarks_subset hm) (not_mem_reserved hc),
      State.stepEntry, if_neg (ne_of_isLiteral hc (by decide)), if_pos hc]
  | classEnd h => rw [step_eq_stepEntry h fun _ => rfl]; rfl
  | dash => rfl
  | rangeEnd h =>
    simp only [State.step, State.stepRange]
    rw [if_pos h, CharRange.ofBounds?, dif_pos (CharRange.first_le_last _)]

/-- A foreign character leaves it to the open groups what becomes of it. -/
theorem Foreign.step_eq (h : Foreign starred c) :
    (State.mk outer l (.factor t starred)).step b n c =
      (State.mk outer l (.factor t starred)).stepClose t n c := by
  simp only [State.step, State.stepFactor]
  rw [if_neg h.noStar, if_neg (by simp [h.noFactor]), if_neg h.noBar]

theorem Fails.step_eq (h : Fails n s c e) : s.step b n c = ⟨[], .fail e⟩ := by
  cases h with
  | atom h1 h2 h3 h4 h5 =>
    simp only [State.step, State.stepAtom]
    rw [if_neg h1, if_neg h2, if_neg h3, if_neg h4, if_neg (by simp [h5])]
  | unclosed h hc =>
    rw [h.step_eq]
    simp only [State.stepClose]
    rw [if_neg hc]
  | entry h hm hc =>
    rw [step_eq_stepEntry h fun hm' => absurd hm' hm, State.stepEntry,
      if_neg (fun hc' => hm (by rw [hc']; exact Focus.close_mem_classMarks)), if_neg (by simp [hc])]
  | rangeEnd hc =>
    simp only [State.step, State.stepRange]
    rw [if_neg (by simp [hc])]
  | inverted hc hlt =>
    simp only [State.step, State.stepRange]
    rw [if_pos hc, CharRange.ofBounds?, dif_neg (Char.not_le.2 hlt)]

theorem Judged.step_eq (h : Judged b n s c step) : s.step b n c = step := by
  cases h with
  | takes h => exact h.step_eq
  | stops h => rw [h.step_eq]; rfl
  | fails h => exact h.step_eq

/-! ## The end of the pattern -/

theorem finish_eq_ok_iff :
    s.finish n = .ok t ↔ ∃ l u starred, s = ⟨[], l, .factor u starred⟩ ∧ l.tree u = t := by
  constructor
  · intro h
    obtain ⟨outer, l, f⟩ := s
    unfold State.finish at h
    cases f with
    | factor u starred =>
      cases outer with
      | nil => cases h; exact ⟨l, u, starred, rfl, rfl⟩
      | cons => cases h
    | _ => cases h
  · rintro ⟨l, u, starred, rfl, rfl⟩; rfl

theorem Unfinished.finish_eq (h : Unfinished n s e) : s.finish n = .error e := by
  cases h with
  | atom => rfl
  | unclosed => rfl
  | @entry outer l f k h => cases f <;> first | rfl | cases h
  | rangeEnd => rfl

theorem unfinished_of_finish (h : s.finish n = .error e) : Unfinished n s e := by
  obtain ⟨outer, l, f⟩ := s
  unfold State.finish at h
  cases f with
  | atom => cases h; exact .atom
  | factor t starred =>
    cases outer with
    | nil => cases h
    | cons => cases h; exact .unclosed
  | classRange k first => cases h; exact .rangeEnd
  | _ => cases h; exact .entry rfl

end RegexPattern.Parser
