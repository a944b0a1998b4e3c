/-
The point where an analysis ends. It has taken the text up to there, and all that it records has
happened by then (`exists_ends`): neither the end of the text nor a character that is refused makes
anything happen. So what holds of the texts that are taken, of their states and of their events
holds of every analysis, whether it gives a tree or an error.
-/
import RegexPattern.Proofs.Parser.Prefix

namespace RegexPattern.Parser

open Grammar

variable {β σ : Type} {b : SymbolBuilder β σ} {sym : Polarity → List CharRange → σ} {n : Nat}
  {s : State σ} {v w : List Char} {r : Reading σ} {mode : Mode} {t : Tree σ} {e : ParseError}

/-- The ways in which a reading ends in the state `s`, where `n` characters have been taken and the
rest `v` of the text has not. -/
inductive Ends (n : Nat) : State σ → List Char → Reading σ → Prop
  | whole {l : Level σ} {t : Tree σ} {starred : Bool} :
      Ends n ⟨[], l, .factor t starred⟩ [] (.whole (l.tree t))
  | unfinished {s : State σ} {e : ParseError} : Unfinished n s e → Ends n s [] (.failed e)
  | stopped {l : Level σ} {t : Tree σ} {starred : Bool} {c : Char} {v : List Char} :
      Foreign starred c → Ends n ⟨[], l, .factor t starred⟩ (c :: v) (.stopped (l.tree t) n c)
  | failed {s : State σ} {c : Char} {v : List Char} {e : ParseError} :
      Fails n s c e → Ends n s (c :: v) (.failed e)

/-! ## Every analysis ends -/

/-- Nothing happens where a reading ends. -/
theorem Ends.run_eq (h : Ends n s v r) (events : Array Event) :
    run b v n s events = (r, events) := by
  cases h with
  | whole => rfl
  | unfinished h => rw [run, h.finish_eq]
  | stopped h =>
    rw [run, (Judged.stops h).step_eq]
    exact congrArg (Prod.mk _) Array.appendList_nil
  | failed h =>
    rw [run, h.step_eq]
    exact congrArg (Prod.mk _) Array.appendList_nil

theorem Reads.exists_ends (h : Reads b w r) :
    ∃ u s v events, w = u ++ v ∧ Reached b u s events ∧ Ends u.length s v r := by
  cases h with
  | whole h =>
    obtain ⟨events, h⟩ := h
    exact ⟨w, _, [], events, (List.append_nil w).symm, h, .whole⟩
  | unfinished h hu =>
    obtain ⟨events, h⟩ := h
    exact ⟨w, _, [], events, (List.append_nil w).symm, h, .unfinished hu⟩
  | @refused u v c _ h =>
    cases h with
    | stopped h hc =>
      obtain ⟨events, h⟩ := h
      exact ⟨u, _, c :: v, events, rfl, h, .stopped hc⟩
    | failed h hc =>
      obtain ⟨events, h⟩ := h
      exact ⟨u, _, c :: v, events, rfl, h, .failed hc⟩

/-- An analysis takes its pattern up to some point and ends there, with what has happened so far. -/
theorem exists_ends (b : SymbolBuilder β σ) (mode : Mode) (p : String) :
    ∃ w s v, p.toList = w ++ v ∧ Reached b w s (analyze b mode p).events ∧
      Ends w.length s v (analyze b mode p).reading := by
  obtain ⟨r, hr⟩ := exists_reads b p.toList
  obtain ⟨w, s, v, events, hp, h, hv⟩ := hr.exists_ends
  have hevents : (analyze b mode p).events = events := by
    show (run b p.toList 0 .initial (Event.atUnion 0).toArray).2 = events
    rw [hp, h.run_eq, hv.run_eq]
  rw [hevents, hr.reading_eq]
  exact ⟨w, s, v, hp, h, hv⟩

/-! ## What ends an analysis -/

/-- A tree is given where an expression may end. -/
theorem Ends.union (h : Ends n s v r) (hs : Reaches b w s) (ht : r.result mode = .ok t) :
    Union b.build w t := by
  cases h with
  | whole => cases ht; exact hs.union
  | unfinished => cases ht
  | stopped =>
    -- What comes behind the expression is dropped.
    cases mode with
    | lenient => cases ht; exact hs.union
    | strict => cases ht
  | failed => cases ht

/-- The culprit of an error is what comes next where the analysis ends. -/
theorem Ends.culprit_eq (h : Ends w.length s v r) (hs : StateText sym s w)
    (he : r.result mode = .error e) : e.culprit = w.length := by
  cases h with
  | whole => cases he
  | unfinished hu => cases he; exact hu.culprit_eq
  | stopped =>
    cases mode with
    | lenient => cases he
    | strict => cases he; rfl
  | failed hc => cases he; exact hc.culprit_eq hs

end RegexPattern.Parser
