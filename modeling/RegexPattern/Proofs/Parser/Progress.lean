/-
The parser never turns back. A rule is entered where the next character is looked at, and each
character is looked at once: behind every state there is an offset below which all rules have been
entered (`Focus.horizon`), and whatever a character makes the parser enter lies from there on and
below the next such offset (`Takes.advances`). So in the log of an analysis the offsets go up, those
of one rule without a repetition, and none lies behind the error.
-/
import RegexPattern.Proofs.Parser.Ending

namespace RegexPattern.Parser

variable {β σ : Type} {b : SymbolBuilder β σ} {n lo mid hi : Nat} {c : Char} {s s' : State σ}
  {l l' : Level σ} {f : Focus σ} {k : OpenClass} {es : List Event} {events : Array Event}
  {v w : List Char} {r : Reading σ} {mode : Mode} {e : ParseError}

/-! ## Visits -/

/-- A rule and an offset at which it is entered. -/
structure Visit where
  rule : Rule
  offset : Nat
deriving DecidableEq

/-- The line of the log for a visit. -/
def Visit.note (x : Visit) : Note := .entered x.rule x.offset

def Event.visit? : Event → Option Visit
  | enter rule offset => some ⟨rule, offset⟩
  | symbolBegun => none
  | symbolFinished => none

def visits (es : List Event) : List Visit := es.filterMap Event.visit?

/-- The rules that an analysis has entered, in order. -/
def Analysis.visits (a : Analysis σ) : List Visit := Parser.visits a.events.toList

theorem visits_append (es es' : List Event) : visits (es ++ es') = visits es ++ visits es' :=
  List.filterMap_append

/-- What happens is logged in as far as a rule is entered. -/
theorem Event.note?_eq (ev : Event) : ev.note? = ev.visit?.map Visit.note := by
  cases ev <;> rfl

theorem Analysis.level_of_mem_closingNotes {a : Analysis σ} {m : Note} (hm : m ∈ a.closingNotes) :
    Log.Message.level m = .debug := by
  unfold closingNotes at hm
  split at hm
  · obtain rfl := List.mem_singleton.1 hm
    rfl
  · rw [List.mem_cons, List.mem_singleton] at hm
    rcases hm with rfl | rfl <;> rfl
  · cases hm
  · cases hm

/-- The trace lines of the log are the visits. -/
theorem Analysis.filter_notes (a : Analysis σ) :
    a.notes.filter (Log.Message.level · = .trace) = a.visits.map Visit.note := by
  have hentered : a.events.toList.filterMap Event.note? = a.visits.map Visit.note := by
    rw [visits, Parser.visits, List.map_filterMap, ← funext Event.note?_eq]
  have hclosing : a.closingNotes.filter (Log.Message.level · = .trace) = [] :=
    List.filter_eq_nil_iff.2 fun m hm => by simp [a.level_of_mem_closingNotes hm]
  have hvisits : (a.visits.map Visit.note).filter (Log.Message.level · = .trace) =
      a.visits.map Visit.note := by
    rw [List.filter_eq_self]
    intro m hm
    obtain ⟨x, -, rfl⟩ := List.mem_map.1 hm
    rfl
  rw [notes, hentered, List.cons_append, List.filter_cons_of_neg (by simp [Log.Message.level]),
    List.filter_append, hvisits, hclosing, List.append_nil]

/-! ## Visits that go up -/

/-- The visit `x` may stand before `y` in a log. -/
structure Visit.Precedes (x y : Visit) : Prop where
  le : x.offset ≤ y.offset
  lt : x.rule = y.rule → x.offset < y.offset

theorem Visit.precedes_of_lt {x y : Visit} (h : x.offset < y.offset) : x.Precedes y :=
  ⟨Nat.le_of_lt h, fun _ => h⟩

/-- The visits go up, from `lo` on and below `hi`. -/
structure Advances (lo hi : Nat) (xs : List Visit) : Prop where
  lo_le_hi : lo ≤ hi
  ordered : xs.Pairwise Visit.Precedes
  lo_le : ∀ x ∈ xs, lo ≤ x.offset
  lt_hi : ∀ x ∈ xs, x.offset < hi

theorem Advances.nil (h : lo ≤ hi) : Advances lo hi [] := ⟨h, .nil, by simp, by simp⟩

theorem Advances.append {xs ys : List Visit} (h : Advances lo mid xs) (h' : Advances mid hi ys) :
    Advances lo hi (xs ++ ys) where
  lo_le_hi := Nat.le_trans h.lo_le_hi h'.lo_le_hi
  ordered := List.pairwise_append.2 ⟨h.ordered, h'.ordered, fun x hx y hy =>
    Visit.precedes_of_lt (Nat.lt_of_lt_of_le (h.lt_hi x hx) (h'.lo_le y hy))⟩
  lo_le := List.forall_mem_append.2
    ⟨h.lo_le, fun y hy => Nat.le_trans h.lo_le_hi (h'.lo_le y hy)⟩
  lt_hi := List.forall_mem_append.2
    ⟨fun x hx => Nat.lt_of_lt_of_le (h.lt_hi x hx) h'.lo_le_hi, h'.lt_hi⟩

/-- Different rules may be entered at one offset. -/
theorem advances_at (n : Nat) (rules : List Rule) (h : rules.Nodup) :
    Advances n (n + 1) (rules.map (Visit.mk · n)) where
  lo_le_hi := Nat.le_succ n
  ordered := List.pairwise_map.2 (h.imp fun hne => ⟨Nat.le_refl n, fun heq => absurd heq hne⟩)
  lo_le := by simp
  lt_hi := by simp

theorem advances_atFactor (n : Nat) : Advances n (n + 1) (visits (Event.atFactor n)) :=
  advances_at n [.repetition, .atom] (by decide)

theorem advances_atBranch (n : Nat) : Advances n (n + 1) (visits (Event.atBranch n)) :=
  advances_at n [.concat, .repetition, .atom] (by decide)

theorem advances_atUnion (n : Nat) : Advances n (n + 1) (visits (Event.atUnion n)) :=
  advances_at n [.union, .concat, .repetition, .atom] (by decide)

/-! ## One character -/

/-- All rules that have been entered when `n` characters are read have been entered below this
offset. Where an atom or a class starts, that has just been entered. In a range of a class nothing
has been since the literal that starts it. -/
def Focus.horizon (n : Nat) : Focus σ → Nat
  | .atom => n + 1
  | .classStart => n + 1
  | .classRange _ _ => n - 1
  | _ => n

theorem Focus.horizon_le : f.horizon n ≤ n + 1 := by
  cases f <;> simp only [Focus.horizon] <;> omega

theorem Opens.advances (h : Opens n f l c es l') : Advances (f.horizon n) (n + 1) (visits es) := by
  cases h with
  | first => exact .nil (Nat.le_refl _)
  | next => exact advances_atFactor n

theorem Takes.advances (h : Takes b n s c es s') :
    Advances (s.focus.horizon n) (s'.focus.horizon (n + 1)) (visits es) := by
  cases h with
  | emptyWord h | emptySet h => exact h.advances
  | group h =>
    rw [visits_append]
    exact h.advances.append (advances_atUnion (n + 1))
  | charClass h =>
    rw [visits_append]
    exact h.advances.append (advances_at (n + 1) [.charClass] (by decide))
  | literal h =>
    -- That a symbol is made is not a visit.
    rw [visits_append]
    exact h.advances.append (.nil (Nat.le_refl _))
  | star | close => exact .nil (Nat.le_succ n)
  | bar => exact (Advances.nil (Nat.le_succ n)).append (advances_atBranch (n + 1))
  | hat | classEnd | entry => exact .nil Focus.horizon_le
  | dash => exact .nil (Nat.le_refl n)
  | rangeEnd => exact .nil (by simp only [Focus.horizon]; omega)

/-! ## A whole text -/

theorem Reached.advances (h : Reached b w s events) :
    Advances 0 (s.focus.horizon w.length) (visits events.toList) := by
  induction h with
  | start => exact advances_atUnion 0
  | next h hc ih =>
    rw [Array.toList_appendList, visits_append, List.length_append, List.length_singleton]
    exact ih.append hc.advances

/-- No rule has been entered behind the place where an error is reported. -/
theorem Ends.horizon_le (h : Ends n s v r) (he : r.result mode = .error e) :
    s.focus.horizon n ≤ e.offset + 1 := by
  cases h with
  | whole => cases he
  | unfinished hu =>
    cases he
    cases hu <;> exact Focus.horizon_le
  | stopped =>
    cases mode with
    | lenient => cases he
    | strict => cases he; exact Focus.horizon_le
  | failed hc =>
    cases he
    cases hc with
    | inverted =>
      -- The error lies at the start of the range, two characters back.
      simp only [Focus.horizon]
      omega
    | _ => exact Focus.horizon_le

/-! ## Whole patterns -/

/-- The trace lines of an analysis are its visits. Their offsets never go down, those of one rule
always go up, and none lies behind the end of the pattern or behind the error, if there is one. -/
theorem analysis_never_turns_back (b : SymbolBuilder β σ) (mode : Mode) (p : String) :
    let a := analyze b mode p
    a.notes.filter (Log.Message.level · = .trace) = a.visits.map Visit.note ∧
    (a.visits.map Visit.offset).Pairwise (· ≤ ·) ∧
    (∀ x ∈ a.visits, x.offset ≤ p.length) ∧
    (∀ rule, ((a.visits.filter (·.rule = rule)).map Visit.offset).Pairwise (· < ·)) ∧
    ∀ e, a.result = .error e → ∀ x ∈ a.visits, x.offset ≤ e.offset := by
  intro a
  obtain ⟨w, s, v, hp, hr, hv⟩ := exists_ends b mode p
  have hadvances : Advances 0 (s.focus.horizon w.length) a.visits := hr.advances
  refine ⟨a.filter_notes, ?_, fun x hx => ?_, fun rule => ?_, fun e he x hx => ?_⟩
  · exact List.pairwise_map.2 (hadvances.ordered.imp Visit.Precedes.le)
  · have hlt := hadvances.lt_hi x hx
    have hle : s.focus.horizon w.length ≤ w.length + 1 := Focus.horizon_le
    rw [← String.length_toList, hp, List.length_append]
    omega
  · rw [List.pairwise_map, List.pairwise_filter]
    refine hadvances.ordered.imp fun h hx hy => h.lt ?_
    rw [decide_eq_true_eq] at hx hy
    exact hx.trans hy.symm
  · have hlt := hadvances.lt_hi x hx
    rw [a.result_eq] at he
    have hle := hv.horizon_le he
    omega

/-- The error lies at the start of the class, which is also where a rule is entered last. -/
theorem analysis_never_turns_back_before_inverted_range :
    let a := analyze SymbolBuilder.recording .lenient "(a|[z-b]"
    a.result = .error ⟨.invertedRange 'z' 'b', 4⟩ ∧
    a.visits = [⟨.union, 0⟩, ⟨.concat, 0⟩, ⟨.repetition, 0⟩, ⟨.atom, 0⟩,
      ⟨.union, 1⟩, ⟨.concat, 1⟩, ⟨.repetition, 1⟩, ⟨.atom, 1⟩,
      ⟨.concat, 3⟩, ⟨.repetition, 3⟩, ⟨.atom, 3⟩, ⟨.charClass, 4⟩] ∧
    (a.visits.map Visit.offset).Pairwise (· ≤ ·) ∧
    ((a.visits.filter (·.rule = .concat)).map Visit.offset).Pairwise (· < ·) ∧
    ∀ x ∈ a.visits, x.offset ≤ 8 ∧ x.offset ≤ 4 := by
  intro a
  have h : a.result = .error ⟨.invertedRange 'z' 'b', 4⟩ := by decide +kernel
  obtain ⟨-, hsorted, hwithin, hrule, herror⟩ :=
    analysis_never_turns_back SymbolBuilder.recording .lenient "(a|[z-b]"
  exact ⟨h, by decide +kernel, hsorted, hrule .concat,
    fun x hx => ⟨hwithin x hx, herror _ h x hx⟩⟩

end RegexPattern.Parser
