/-
Runs of the parser. `Reached b w s events` says that the parser takes the whole text `w` and is
then in the state `s`; `Reads b p r` gives the ways in which the reading of a text can end. Every
text has such a reading (`exists_reads`) and it is what the analysis finds (`Reads.result_eq`). So a
strict analysis succeeds just where the text is taken to its end and an expression may end there
(`strict_eq_ok_iff`), and a character that is refused decides the reading of every text that goes
on behind it.
-/
import RegexPattern.Parser.Analysis
import RegexPattern.Proofs.Parser.Moves
import Mathlib.Data.List.Induction

namespace RegexPattern.Parser

variable {β σ : Type}

/-! ## Texts that are taken -/

/-- The parser, having taken the text `w`, is in the state `s`, and this is what has happened. -/
inductive Reached (b : SymbolBuilder β σ) : List Char → State σ → Array Event → Prop
  | start : Reached b [] .initial (Event.atUnion 0).toArray
  | next {w : List Char} {s s' : State σ} {events : Array Event} {c : Char} {es : List Event} :
      Reached b w s events → Takes b w.length s c es s' → Reached b (w ++ [c]) s' (events ++ es)

/-- The parser, having taken the text `w`, is in the state `s`. -/
def Reaches (b : SymbolBuilder β σ) (w : List Char) (s : State σ) : Prop :=
  ∃ events, Reached b w s events

/-! ## Readings -/

/-- The text `w` is taken, the character `c` behind it is not, and that ends the reading. -/
inductive Refused (b : SymbolBuilder β σ) (w : List Char) (c : Char) : Reading σ → Prop
  | stopped {l : Level σ} {t : Tree σ} {starred : Bool} :
      Reaches b w ⟨[], l, .factor t starred⟩ → Foreign starred c →
      Refused b w c (.stopped (l.tree t) w.length c)
  | failed {s : State σ} {e : ParseError} :
      Reaches b w s → Fails w.length s c e → Refused b w c (.failed e)

/-- How the reading of a text can end. -/
inductive Reads (b : SymbolBuilder β σ) : List Char → Reading σ → Prop
  | whole {w : List Char} {l : Level σ} {t : Tree σ} {starred : Bool} :
      Reaches b w ⟨[], l, .factor t starred⟩ → Reads b w (.whole (l.tree t))
  | unfinished {w : List Char} {s : State σ} {e : ParseError} :
      Reaches b w s → Unfinished w.length s e → Reads b w (.failed e)
  | refused {w v : List Char} {c : Char} {r : Reading σ} :
      Refused b w c r → Reads b (w ++ c :: v) r

/-- What a mode makes of a reading. -/
def Reading.result (mode : Mode) : Reading σ → Result σ
  | .whole t => .ok t
  | .stopped t offset next =>
    match mode with
    | .lenient => .ok t
    | .strict => .error ⟨.trailingInput next, offset⟩
  | .failed e => .error e

variable {b : SymbolBuilder β σ} {w : List Char} {s s' : State σ} {c : Char} {es : List Event}
  {events : Array Event} {t : Tree σ} {r : Reading σ} {mode : Mode} {p : String}

theorem Analysis.result_eq (a : Analysis σ) : a.result = a.reading.result a.mode := by
  obtain ⟨p, mode, reading, events⟩ := a
  cases reading <;> cases mode <;> rfl

theorem Reaches.start : Reaches b [] .initial := ⟨_, .start⟩

theorem Reaches.next (h : Reaches b w s) (hc : Takes b w.length s c es s') :
    Reaches b (w ++ [c]) s' := by
  obtain ⟨events, h⟩ := h
  exact ⟨_, h.next hc⟩

/-- A text is taken to its end, or else up to a character that is refused. -/
theorem reaches_or_refused (b : SymbolBuilder β σ) (p : List Char) :
    (∃ s, Reaches b p s) ∨ ∃ w c v r, p = w ++ c :: v ∧ Refused b w c r := by
  -- From the end: the last character meets the state behind all others.
  induction p using List.reverseRecOn with
  | nil => exact .inl ⟨_, .start⟩
  | append_singleton p c ih =>
    rcases ih with ⟨s, h⟩ | ⟨w, d, v, r, rfl, h⟩
    · have hj : Judged b p.length s c (s.step b p.length c) := judged_step
      generalize s.step b p.length c = step at hj
      cases hj with
      | takes hc => exact .inl ⟨_, h.next hc⟩
      | stops hc => exact .inr ⟨p, c, [], _, rfl, .stopped h hc⟩
      | fails hc => exact .inr ⟨p, c, [], _, rfl, .failed h hc⟩
    · exact .inr ⟨w, d, v ++ [c], r, by simp, h⟩

theorem exists_reads (b : SymbolBuilder β σ) (p : List Char) : ∃ r, Reads b p r := by
  rcases reaches_or_refused b p with ⟨s, h⟩ | ⟨w, c, v, r, rfl, h⟩
  · rcases hf : s.finish p.length with e | t
    · exact ⟨_, .unfinished h (unfinished_of_finish hf)⟩
    · obtain ⟨l, u, starred, rfl, rfl⟩ := finish_eq_ok_iff.1 hf
      exact ⟨_, .whole h⟩
  · exact ⟨r, .refused h⟩

/-! ## Symbols -/

theorem State.symbol?_eq_some_iff {x : σ} :
    s.symbol? = some x ↔ ∃ starred, s.focus = .factor (.literal x) starred := by
  unfold State.symbol?
  split
  · next y starred hs => simp [hs]
  · next hs => simpa using hs x

/-- A union is a single symbol only if that is all it holds. -/
theorem Level.tree_eq_literal {l : Level σ} {x : σ} (h : l.tree t = .literal x) :
    t = .literal x := by
  obtain ⟨branches, factors⟩ := l
  cases branches with
  | none =>
    cases factors with
    | none => exact h
    | some first => cases h
  | some first => cases h

/-- A character brings up a symbol that is made of ranges, or one that had been read before it. -/
theorem Takes.symbol? {n : Nat} {x : σ} (h : Takes b n s c es s') (hx : s'.symbol? = some x) :
    (∃ polarity ranges, b.build polarity ranges = x) ∨ s.symbol? = some x := by
  cases h with
  | literal => exact .inl ⟨_, _, Option.some.inj hx⟩
  | classEnd => exact .inl ⟨_, _, Option.some.inj hx⟩
  | @close outer l l' t starred =>
    obtain ⟨_, ht⟩ := State.symbol?_eq_some_iff.1 hx
    obtain rfl := Level.tree_eq_literal (Focus.factor.inj ht).1
    exact .inr rfl
  | _ => cases hx

/-- Every symbol that comes up is made of ranges. -/
theorem exists_build_of_mem_symbols {x : σ} : ∀ {cs : List Char} {n : Nat} {s : State σ},
    (∀ y, s.symbol? = some y → ∃ polarity ranges, b.build polarity ranges = y) →
    x ∈ symbols b cs n s → ∃ polarity ranges, b.build polarity ranges = x
  | c :: cs, n, s, hs, hx => by
    have hj : Judged b n s c (s.step b n c) := judged_step
    unfold symbols at hx
    generalize s.step b n c = step at hj hx
    cases hj with
    | @takes _ s' _ es hc =>
      have hs' : ∀ y, s'.symbol? = some y → ∃ polarity ranges, b.build polarity ranges = y :=
        fun y hy => (hc.symbol? hy).elim id (hs y)
      rcases List.mem_append.1 hx with hx | hx
      · exact hs' x (Option.mem_toList.1 hx)
      · exact exists_build_of_mem_symbols hs' hx
    | stops hc => cases hx
    | fails hc => cases hx

/-- A reading never breaks off if every symbol can be made. -/
theorem breaksOff_eq_false {b : SymbolBuilder β (Option σ)}
    (h : ∀ polarity ranges, ∃ x, b.build polarity ranges = some x) (p : String) :
    breaksOff b p = false := by
  unfold breaksOff
  rw [List.any_eq_false]
  intro x hx
  obtain ⟨polarity, ranges, rfl⟩ := exists_build_of_mem_symbols (fun y hy => by cases hy) hx
  obtain ⟨x, hx⟩ := h polarity ranges
  rw [hx]
  exact Bool.false_ne_true

/-! ## What the analysis finds -/

/-- A run goes on from where it has come to. -/
theorem Reached.run_eq (h : Reached b w s events) (v : List Char) :
    run b (w ++ v) 0 .initial (Event.atUnion 0).toArray = run b v w.length s events := by
  induction h generalizing v with
  | start => rfl
  | next h hc ih =>
    -- `run` takes from the front what was added at the end, so it is part of the text to come.
    rw [List.append_assoc, ih]
    simp only [List.singleton_append, run, hc.step_eq, List.length_append, List.length_singleton]

theorem Refused.run_eq (h : Refused b w c r) (v : List Char) :
    (run b (w ++ c :: v) 0 .initial (Event.atUnion 0).toArray).1 = r := by
  cases h with
  | stopped h hc =>
    obtain ⟨events, h⟩ := h
    rw [h.run_eq]
    simp only [run, (Judged.stops hc).step_eq]
  | failed h hc =>
    obtain ⟨events, h⟩ := h
    rw [h.run_eq]
    simp only [run, hc.step_eq]

theorem Reads.reading_eq (h : Reads b p.toList r) : (analyze b mode p).reading = r := by
  show (run b p.toList 0 .initial (Event.atUnion 0).toArray).1 = r
  generalize p.toList = cs at h
  cases h with
  | whole h =>
    obtain ⟨events, h⟩ := h
    rw [← List.append_nil cs, h.run_eq, run]
    rfl
  | unfinished h hu =>
    obtain ⟨events, h⟩ := h
    rw [← List.append_nil cs, h.run_eq, run, hu.finish_eq]
  | refused h => exact h.run_eq _

theorem Reads.result_eq (h : Reads b p.toList r) : (analyze b mode p).result = r.result mode := by
  rw [Analysis.result_eq, h.reading_eq]
  rfl

/-- A strict analysis succeeds where the whole text is taken and an expression may end there. -/
theorem strict_eq_ok_iff :
    (analyze b .strict p).result = .ok t ↔
      ∃ l u starred, Reaches b p.toList ⟨[], l, .factor u starred⟩ ∧ l.tree u = t := by
  constructor
  · intro h
    obtain ⟨r, hr⟩ := exists_reads b p.toList
    rw [hr.result_eq] at h
    generalize p.toList = cs at hr
    cases hr with
    | whole hr => cases h; exact ⟨_, _, _, hr, rfl⟩
    | unfinished hr hu => cases h
    | refused hr => cases hr <;> cases h
  · rintro ⟨l, u, starred, h, rfl⟩
    exact (Reads.whole h).result_eq

end RegexPattern.Parser
