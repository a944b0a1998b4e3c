/-
The parser and the recursive descent do the same. `Follows` says of a part of the descent and of a
state of the parser that from the same characters on they come to the same characters, with the same
having happened on the way, or that they fail alike. There is a rule for everything that a part of
the descent does with the next character; from these follows one lemma for each rule of the grammar.
What a part has read so far is in the innermost open union of the parser, and the unions around it
belong to the parts that have called this one. So the descent returns on every pattern if there is
room for its calls, and it finds what the analysis finds (`descend_eq_analyze`).
-/
import RegexPattern.Parser.Descent
import RegexPattern.Proofs.CharSet.Complement
import RegexPattern.Proofs.Parser.Ending

namespace RegexPattern.Parser

variable {α α' β σ : Type}

/-! ## Running a part of the descent -/

namespace Descent

/-- The outcome of a part of the descent that starts at `scan`, if it returns. -/
def on (x : Descent α) (scan : Scan) : Option (Except ParseError α × Scan) := x.run.run scan

variable {scan : Scan} {cs : List Char} {n : Nat} {events : Array Event} {c : Char}

theorem on_bind (x : Descent α) (f : α → Descent α') : (x >>= f).on scan =
    match x.on scan with
    | some (.ok a, scan') => (f a).on scan'
    | some (.error e, scan') => some (.error e, scan')
    | none => none := by
  unfold on
  rw [ExceptT.run_bind, StateT.run_bind]
  rcases x.run.run scan with _ | ⟨_ | a, scan'⟩ <;> rfl

@[simp] theorem on_pure (a : α) : (pure a : Descent α).on scan = some (.ok a, scan) := rfl

@[simp] theorem on_get : (get : Descent Scan).on scan = some (.ok scan, scan) := rfl

@[simp] theorem on_peek : peek.on scan = some (.ok scan.rest.head?, scan) := rfl

@[simp] theorem on_isAt (c : Char) :
    (isAt c).on scan = some (.ok (scan.rest.head? == some c), scan) := rfl

@[simp] theorem on_bump (c : Char) :
    bump.on ⟨c :: cs, n, events⟩ = some (.ok (), ⟨cs, n + 1, events⟩) := rfl

@[simp] theorem on_fail (cause : ParseError.Cause) :
    (fail cause : Descent α).on scan = some (.error ⟨cause, scan.offset⟩, scan) := rfl

theorem on_eat_self (c : Char) :
    (eat c).on ⟨c :: cs, n, events⟩ = some (.ok true, ⟨cs, n + 1, events⟩) := by
  unfold eat
  rw [on_bind, on_isAt]
  simp only [List.head?_cons, beq_self_eq_true, if_true, on_bind, on_bump, on_pure]

theorem on_eat_of_ne (h : scan.rest.head? ≠ some c) : (eat c).on scan = some (.ok false, scan) := by
  unfold eat
  rw [on_bind, on_isAt]
  simp only [beq_eq_false_iff_ne.2 h, Bool.false_eq_true, if_false, on_pure]

theorem on_expect_self (c : Char) :
    (expect c).on ⟨c :: cs, n, events⟩ = some (.ok (), ⟨cs, n + 1, events⟩) := by
  unfold expect
  rw [on_bind, on_eat_self]
  rfl

theorem loop_eq (test : Descent Bool) (body : α → Descent α) (a : α) :
    loop test body a = do if ← test then loop test body (← body a) else return a := by
  have : Nonempty α := ⟨a⟩
  unfold loop
  rw [repeatM_eq_of_monadTail]
  show (do if ← test then return .inl (← body a) else return .inr a : Descent (α ⊕ α)) >>= _ = _
  rw [bind_assoc]
  refine bind_congr ?_
  intro goesOn
  cases goesOn with
  | true => simp
  | false => simp

theorem on_expectLiteral (h : isLiteral c = true) :
    expectLiteral.on ⟨c :: cs, n, events⟩ = some (.ok c, ⟨cs, n + 1, events⟩) := by
  unfold expectLiteral
  rw [on_bind, on_peek]
  simp only [List.head?_cons, Option.filter_some, h, if_pos, on_bind, on_bump, on_pure]

theorem on_expectLiteral_of_none (h : scan.rest.head?.filter isLiteral = none) :
    expectLiteral.on scan =
      some (.error ⟨.expectedLiteral scan.rest.head?, scan.offset⟩, scan) := by
  unfold expectLiteral
  rw [on_bind, on_peek]
  simp only [h, on_bind, on_peek, on_fail]

end Descent

/-! ## The parser beside a part of the descent -/

/-- The run of the parser from the state `s` over the characters that are left. -/
def Scan.resume (b : SymbolBuilder β σ) (s : State σ) (scan : Scan) : Reading σ × Array Event :=
  run b scan.rest scan.offset s scan.events

/-- More has happened. -/
def Scan.note (es : List Event) (scan : Scan) : Scan := { scan with events := scan.events ++ es }

/-- The part `x` of the descent returns if it starts at `scan`, and so does the parser follow it
from the state `s`, having gone ahead with the events `es`: where `x` returns `a`, the parser comes
to the state `next a`, and `P` holds of the characters that both have left. -/
inductive Follows (b : SymbolBuilder β σ) (scan : Scan) (es : List Event) (s : State σ)
    (next : α → State σ) (P : List Char → Prop) (x : Descent α) : Prop
  | returns {a : α} {scan' : Scan} : x.on scan = some (.ok a, scan') → P scan'.rest →
      (scan.note es).resume b s = scan'.resume b (next a) → Follows b scan es s next P x
  | fails {e : ParseError} {scan' : Scan} : x.on scan = some (.error e, scan') →
      (scan.note es).resume b s = (.failed e, scan'.events) → Follows b scan es s next P x

variable {b : SymbolBuilder β σ} {scan : Scan} {cs : List Char} {n : Nat} {c : Char}
  {events : Array Event} {es : List Event} {s s' : State σ} {t u : Tree σ} {l l' : Level σ}
  {outer : List (Level σ)} {f : Focus σ} {k : OpenClass} {next : α → State σ}
  {next' : α' → State σ} {P P' : List Char → Prop} {x : Descent α} {mode : Mode} {p : String}

@[simp] theorem Scan.note_nil : scan.note [] = scan := by simp [Scan.note]

theorem Scan.note_cons {event : Event} : scan.note (event :: es) = (scan.note [event]).note es := by
  simp [Scan.note]

/-- It does not matter which of two states the parser is in if it goes on alike from both. -/
theorem Scan.resume_congr
    (hstep : ∀ c ∈ scan.rest.head?, s.step b scan.offset c = s'.step b scan.offset c)
    (hfinish : s.finish scan.offset = s'.finish scan.offset) :
    scan.resume b s = scan.resume b s' := by
  obtain ⟨_ | ⟨c, cs⟩, n, events⟩ := scan
  · simp only [Scan.resume, run, hfinish]
  · simp only [Scan.resume, run, hstep c rfl]

theorem Scan.resume_cons (h : Takes b n s c es s') :
    Scan.resume b s ⟨c :: cs, n, events⟩ =
      (Scan.note es ⟨cs, n + 1, events⟩).resume b s' := by
  simp only [Scan.resume, Scan.note, run, h.step_eq]

namespace Follows

theorem pure {a : α} (h : P scan.rest) (hs : scan.resume b s = scan.resume b (next a)) :
    Follows b scan [] s next P (Pure.pure a) :=
  .returns rfl h (by rw [Scan.note_nil, hs])

theorem mono (h : Follows b scan es s next P x) (hP : ∀ rest, P rest → P' rest) :
    Follows b scan es s next P' x := by
  cases h with
  | returns hx hrest hrun => exact .returns hx (hP _ hrest) hrun
  | fails hx hrun => exact .fails hx hrun

/-- The first thing that a part does, with what the parser does meanwhile. -/
theorem first (scan' : Scan) {a : α} {es' : List Event} {f : α → Descent α'}
    (hx : x.on scan = some (.ok a, scan'))
    (hrun : (scan.note es).resume b s = (scan'.note es').resume b s')
    (h : Follows b scan' es' s' next' P' (f a)) : Follows b scan es s next' P' (x >>= f) := by
  have hxf : (x >>= f).on scan = (f a).on scan' := by rw [Descent.on_bind, hx]
  cases h with
  | returns hfx hrest hrun' => exact .returns (hxf.trans hfx) hrest (hrun.trans hrun')
  | fails hfx hrun' => exact .fails (hxf.trans hfx) (hrun.trans hrun')

theorem bind {f : α → Descent α'} (h : Follows b scan es s next P x)
    (hf : ∀ a scan', P scan'.rest → Follows b scan' [] (next a) next' P' (f a)) :
    Follows b scan es s next' P' (x >>= f) := by
  cases h with
  | @returns a scan' hx hrest hrun =>
    exact first scan' hx (by rw [hrun, Scan.note_nil]) (hf a scan' hrest)
  | fails hx hrun => exact .fails (by rw [Descent.on_bind, hx]) hrun

/-- The parser is taken to be in another state, from which it goes on alike. -/
theorem of_resume_eq (es : List Event) (hrun : scan.resume b s = (scan.note es).resume b s')
    (h : Follows b scan es s' next P x) : Follows b scan [] s next P x := by
  replace hrun : (scan.note []).resume b s = (scan.note es).resume b s' := by rwa [Scan.note_nil]
  cases h with
  | returns hx hrest hrun' => exact .returns hx hrest (hrun.trans hrun')
  | fails hx hrun' => exact .fails hx (hrun.trans hrun')

theorem note {event : Event} {f : Unit → Descent α'}
    (h : Follows b (scan.note [event]) es s next' P' (f ())) :
    Follows b scan (event :: es) s next' P' (Descent.note event >>= f) :=
  first (scan.note [event]) rfl (by rw [Scan.note_cons]) h

theorem enter {rule : Rule} {f : Unit → Descent α'}
    (h : Follows b (scan.note [.enter rule scan.offset]) es s next' P' (f ())) :
    Follows b scan (.enter rule scan.offset :: es) s next' P' (Descent.enter rule >>= f) :=
  first (scan.note [.enter rule scan.offset]) rfl (by rw [Scan.note_cons]) h

theorem get {f : Scan → Descent α'} (h : Follows b scan es s next' P' (f scan)) :
    Follows b scan es s next' P' (MonadState.get >>= f) :=
  first scan Descent.on_get rfl h

theorem peek {f : Option Char → Descent α'}
    (h : Follows b scan es s next' P' (f scan.rest.head?)) :
    Follows b scan es s next' P' (Descent.peek >>= f) :=
  first scan Descent.on_peek rfl h

/-- A part of the descent that takes one character, as the parser does. -/
theorem take {a : α} {f : α → Descent α'}
    (hx : x.on ⟨c :: cs, n, events⟩ = some (.ok a, ⟨cs, n + 1, events⟩)) (hc : Takes b n s c es s')
    (h : Follows b ⟨cs, n + 1, events⟩ es s' next' P' (f a)) :
    Follows b ⟨c :: cs, n, events⟩ [] s next' P' (x >>= f) :=
  first _ hx (by rw [Scan.note_nil, Scan.resume_cons hc]) h

theorem bump {f : Unit → Descent α'} (hc : Takes b n s c es s')
    (h : Follows b ⟨cs, n + 1, events⟩ es s' next' P' (f ())) :
    Follows b ⟨c :: cs, n, events⟩ [] s next' P' (Descent.bump >>= f) :=
  take (Descent.on_bump c) hc h

theorem eat {f : Bool → Descent α'} (hc : Takes b n s c es s')
    (h : Follows b ⟨cs, n + 1, events⟩ es s' next' P' (f true)) :
    Follows b ⟨c :: cs, n, events⟩ [] s next' P' (Descent.eat c >>= f) :=
  take (Descent.on_eat_self c) hc h

theorem eat_of_ne {f : Bool → Descent α'} (hc : scan.rest.head? ≠ some c)
    (h : Follows b scan es s next' P' (f false)) :
    Follows b scan es s next' P' (Descent.eat c >>= f) :=
  first scan (Descent.on_eat_of_ne hc) rfl h

theorem fail {cause : ParseError.Cause}
    (h : Ends scan.offset s scan.rest (.failed ⟨cause, scan.offset⟩)) :
    Follows b scan [] s next P (Descent.fail cause) := by
  refine .fails (Descent.on_fail cause) ?_
  rw [Scan.note_nil]
  exact h.run_eq scan.events

/-- Where a literal is expected, whatever else comes next ends both. -/
theorem expectLiteral {f : Char → Descent α'}
    (hend : Unfinished n s ⟨.expectedLiteral none, n⟩)
    (hother : ∀ c ∈ cs.head?, isLiteral c = false → Fails n s c ⟨.expectedLiteral (some c), n⟩)
    (h : ∀ c rest, cs = c :: rest → isLiteral c = true →
      Follows b ⟨c :: rest, n, events⟩ [] s next' P' (Descent.expectLiteral >>= f)) :
    Follows b ⟨cs, n, events⟩ [] s next' P' (Descent.expectLiteral >>= f) := by
  -- Both read nothing before they fail, and the descent goes no further.
  have hfails (hnone : cs.head?.filter isLiteral = none)
      (hends : Ends n s cs (.failed ⟨.expectedLiteral cs.head?, n⟩)) :
      Follows b ⟨cs, n, events⟩ [] s next' P' (Descent.expectLiteral >>= f) := by
    have hx : Descent.expectLiteral.on ⟨cs, n, events⟩ =
        some (.error ⟨.expectedLiteral cs.head?, n⟩, ⟨cs, n, events⟩) :=
      Descent.on_expectLiteral_of_none hnone
    refine .fails (by rw [Descent.on_bind, hx]) ?_
    rw [Scan.note_nil]
    exact hends.run_eq events
  cases cs with
  | nil => exact hfails rfl (.unfinished hend)
  | cons c rest =>
    cases hc : isLiteral c with
    | true => exact h c rest rfl hc
    | false => exact hfails (by simp [hc]) (.failed (hother c rfl hc))

end Follows

theorem follows_symbol {polarity : Polarity} {ranges : List CharRange} (h : P scan.rest) :
    Follows b scan Event.atSymbol
      ⟨outer, l, .factor (.literal (b.build polarity ranges)) false⟩
      (fun t => ⟨outer, l, .factor t false⟩) P (Descent.symbol b polarity ranges) := by
  unfold Descent.symbol
  exact .note (.note (.pure h rfl))

/-! ## Classes -/

/-- An open class where none of its other marks follows has only its entries to show. -/
theorem Scan.resume_openClass (h : f.openClass? = some k)
    (hmarks : ∀ c ∈ scan.rest.head?, c ∈ f.classMarks → c = ']') :
    scan.resume b ⟨outer, l, f⟩ = scan.resume b ⟨outer, l, .classEntry k⟩ := by
  refine Scan.resume_congr ?_ ?_
  · intro c hc
    rw [step_eq_stepEntry h (hmarks c hc), step_eq_stepEntry rfl (by simp [Focus.classMarks])]
    rfl
  · rw [(Unfinished.entry h).finish_eq, (Unfinished.entry rfl).finish_eq]

theorem follows_classItem (h : scan.rest.head? ≠ some ']') :
    Follows b scan [] ⟨outer, l, .classEntry k⟩ (fun r => ⟨outer, l, .classEntry (k.push r)⟩)
      (fun rest => rest.length < scan.rest.length) Descent.classItem := by
  obtain ⟨cs, n, events⟩ := scan
  unfold Descent.classItem
  refine .get (.expectLiteral (.entry rfl) ?_ ?_)
  · intro c hc hother
    refine .entry rfl ?_ hother
    rintro hmark
    obtain rfl : c = ']' := List.mem_singleton.1 hmark
    exact h hc
  rintro first rest rfl hfirst
  refine .take (Descent.on_expectLiteral hfirst) (.entry rfl hfirst) ?_
  by_cases hdash : rest.head? = some '-'
  · obtain ⟨rest, rfl⟩ := List.head?_eq_some_iff.1 hdash
    refine .eat .dash ?_
    rw [if_pos rfl]
    refine .expectLiteral .rangeEnd (fun c _ hother => .rangeEnd hother) ?_
    rintro last rest rfl hlast
    have hx : Descent.expectLiteral.on ⟨last :: rest, n + 2, events⟩ =
        some (.ok last, ⟨rest, n + 3, events⟩) := Descent.on_expectLiteral hlast
    cases hr : CharRange.ofBounds? first last with
    | none =>
      -- The descent has taken the end of the range by then, which the parser refuses.
      have hlt : last < first := by
        unfold CharRange.ofBounds? at hr
        split at hr
        · cases hr
        · exact Char.not_le.1 ‹_›
      refine .fails (by rw [Descent.on_bind, hx]; simp only [hr]; rfl) ?_
      rw [Scan.note_nil]
      exact (Ends.failed (.inverted hlast hlt)).run_eq events
    | some r =>
      obtain ⟨rfl, rfl⟩ := CharRange.ofBounds?_eq_some_iff.1 hr
      refine .take hx (.rangeEnd hlast) ?_
      simp only [hr]
      exact .pure (by simp only [List.length_cons]; omega) rfl
  · refine .eat_of_ne hdash ?_
    rw [if_neg Bool.false_ne_true]
    refine .pure (Nat.lt_succ_self _) (Scan.resume_openClass rfl ?_)
    intro c hc hmark
    rcases List.mem_cons.1 hmark with rfl | hmark
    · exact absurd hc hdash
    · exact List.mem_singleton.1 hmark

/-- The items of a class end only before a closing bracket. -/
theorem follows_classItems {polarity : Polarity} (ranges : Array CharRange) (scan : Scan) :
    Follows b scan [] ⟨outer, l, .classEntry ⟨polarity, ranges⟩⟩
      (fun ranges => ⟨outer, l, .classEntry ⟨polarity, ranges⟩⟩)
      (fun rest => rest.head? = some ']' ∧ rest.length ≤ scan.rest.length)
      (Descent.classItems ranges) := by
  unfold Descent.classItems
  rw [Descent.loop_eq]
  refine .first scan rfl rfl ?_
  by_cases hend : scan.rest.head? = some ']'
  · rw [if_neg (by simp [hend])]
    exact .pure ⟨hend, Nat.le_refl _⟩ rfl
  · rw [if_pos (by simpa using hend)]
    rw [bind_assoc]
    refine (follows_classItem hend).bind ?_
    intro r scan' hlen
    rw [pure_bind]
    refine (follows_classItems (ranges.push r) scan').mono ?_
    rintro rest ⟨hrest, hlen'⟩
    exact ⟨hrest, by omega⟩
termination_by scan.rest.length

/-- So the closing bracket is there when it is asked for. -/
theorem follows_classBody {polarity : Polarity} :
    Follows b scan [] ⟨outer, l, .classEntry ⟨polarity, #[]⟩⟩
      (fun t => ⟨outer, l, .factor t false⟩) (fun rest => rest.length < scan.rest.length)
      (do
        let ranges ← Descent.classItems #[]
        Descent.expect ']'
        Descent.symbol b polarity ranges.toList) := by
  refine (follows_classItems #[] scan).bind ?_
  rintro ranges ⟨cs, n, events⟩ ⟨hhead, hlen⟩
  obtain ⟨rest, rfl⟩ := List.head?_eq_some_iff.1 hhead
  exact .take (Descent.on_expect_self ']') (.classEnd rfl) (follows_symbol hlen)

theorem follows_charClass :
    Follows b scan [.enter .charClass scan.offset] ⟨outer, l, .classStart⟩
      (fun t => ⟨outer, l, .factor t false⟩) (fun rest => rest.length < scan.rest.length)
      (Descent.charClass b) := by
  obtain ⟨cs, n, events⟩ := scan
  unfold Descent.charClass
  refine .enter ?_
  by_cases hhat : cs.head? = some '^'
  · obtain ⟨rest, rfl⟩ := List.head?_eq_some_iff.1 hhat
    refine .eat .hat (follows_classBody.mono ?_)
    intro v hlen
    exact Nat.lt_succ_of_lt hlen
  · refine .eat_of_ne hhat (.of_resume_eq [] (Scan.resume_openClass rfl ?_) ?_)
    · intro c hc hmark
      rcases List.mem_cons.1 hmark with rfl | hmark
      · exact absurd hc hhat
      · exact List.mem_singleton.1 hmark
    · exact follows_classBody

/-! ## Expressions -/

/-- Whether a factor is starred matters only to a star. -/
theorem Scan.resume_starred (h : scan.rest.head? ≠ some '*') :
    scan.resume b ⟨outer, l, .factor t false⟩ = scan.resume b ⟨outer, l, .factor t true⟩ := by
  refine Scan.resume_congr ?_ rfl
  intro c hc
  have hne : c ≠ '*' := by rintro rfl; exact h hc
  simp only [State.step, State.stepFactor, hne, false_and, if_false]
  rfl

/-- How a union is put together matters only to another factor. -/
theorem Scan.resume_of_tree_eq (h : ∀ c ∈ scan.rest.head?, startsFactor c = false)
    (htree : l.tree t = l'.tree u) :
    scan.resume b ⟨outer, l, .factor t true⟩ = scan.resume b ⟨outer, l', .factor u true⟩ := by
  refine Scan.resume_congr ?_ ?_
  · intro c hc
    simp [State.step, State.stepFactor, State.stepClose, h c hc, Level.closeBranch, htree]
  · simp only [State.finish, htree]

/-- Before another factor the parser is where an atom has to start. -/
theorem Scan.resume_addFactor (h : scan.rest.head?.any startsFactor = true) :
    scan.resume b ⟨outer, l, .factor t true⟩ =
      (scan.note (Event.atFactor scan.offset)).resume b ⟨outer, l.addFactor t, .atom⟩ := by
  obtain ⟨_ | ⟨c, cs⟩, n, events⟩ := scan
  · cases h
  · have hc : Opens n (.factor t true) l c (Event.atFactor n) (l.addFactor t) := .next h
    have hstep : State.step b ⟨outer, l, .factor t true⟩ n c =
        ⟨Event.atFactor n ++ (State.stepAtom b ⟨outer, l.addFactor t, .atom⟩ n c).events,
          (State.stepAtom b ⟨outer, l.addFactor t, .atom⟩ n c).move⟩ := hc.step_eq
    simp only [Scan.resume, Scan.note, run, hstep]
    rfl

/-- The parser follows `group` through a union from `scan` on, whatever is open around it. -/
def FollowsUnion (b : SymbolBuilder β σ) (group : Descent (Tree σ)) (scan : Scan) : Prop :=
  ∀ outer : List (Level σ), Follows b scan (Event.atUnion scan.offset) ⟨outer, .blank, .atom⟩
    (fun t => ⟨outer, .blank, .factor t true⟩)
    (fun rest => rest.length < scan.rest.length ∧ ∀ c ∈ rest.head?, Foreign true c) group

theorem follows_expect_close (h : ∀ c ∈ scan.rest.head?, Foreign true c) :
    Follows b scan [] ⟨l :: outer, .blank, .factor t true⟩ (fun _ => ⟨outer, l, .factor t false⟩)
      (fun rest => rest.length < scan.rest.length) (Descent.expect ')') := by
  unfold Descent.expect
  obtain ⟨_ | ⟨c, cs⟩, n, events⟩ := scan
  · exact .eat_of_ne (by simp) (.peek (.fail (.unfinished .unclosed)))
  · by_cases hclose : c = ')'
    · subst hclose
      exact .eat .close (.pure (Nat.lt_succ_self _) rfl)
    · refine .eat_of_ne (by simpa using hclose) (.peek (.fail (.failed ?_)))
      exact .unclosed (h c rfl) hclose

section
variable {group : Descent (Tree σ)} {m : Nat}
  (hgroup : ∀ scan' : Scan, scan'.rest.length < m → FollowsUnion b group scan')
include hgroup

theorem follows_atom (hm : scan.rest.length ≤ m) :
    Follows b scan [.enter .atom scan.offset] ⟨outer, l, .atom⟩
      (fun t => ⟨outer, l, .factor t false⟩) (fun rest => rest.length < scan.rest.length)
      (Descent.atom b group) := by
  unfold Descent.atom
  refine .enter (.peek ?_)
  obtain ⟨_ | ⟨c, cs⟩, n, events⟩ := scan
  · exact .fail (.unfinished .atom)
  simp only [Scan.note, List.head?_cons]
  split_ifs with hword hset hparen hbracket hliteral
  · subst hword
    exact .bump (.emptyWord .first) (.pure (Nat.lt_succ_self _) rfl)
  · subst hset
    exact .bump (.emptySet .first) (.pure (Nat.lt_succ_self _) rfl)
  · subst hparen
    refine .bump (.group .first) ((hgroup ⟨cs, n + 1, _⟩ hm _).bind ?_)
    rintro t scan' ⟨hlen, hforeign⟩
    refine (follows_expect_close hforeign).bind ?_
    intro _ scan'' hlen'
    exact .pure (Nat.lt_succ_of_lt (hlen'.trans hlen)) rfl
  · subst hbracket
    refine .bump (.charClass .first) (follows_charClass.mono ?_)
    intro rest hlen
    exact Nat.lt_succ_of_lt hlen
  · exact .bump (.literal .first hliteral hword) (follows_symbol (Nat.lt_succ_self _))
  · exact .fail (.failed (.atom hword hset hparen hbracket (by simpa using hliteral)))

theorem follows_repetition (hm : scan.rest.length ≤ m) :
    Follows b scan (Event.atFactor scan.offset) ⟨outer, l, .atom⟩
      (fun t => ⟨outer, l, .factor t true⟩) (fun rest => rest.length < scan.rest.length)
      (Descent.repetition b group) := by
  unfold Descent.repetition
  refine .enter ((follows_atom hgroup ?_).bind ?_)
  · exact hm
  rintro t ⟨cs, n, events⟩ hlen
  by_cases hstar : cs.head? = some '*'
  · obtain ⟨rest, rfl⟩ := List.head?_eq_some_iff.1 hstar
    exact .eat .star (.pure (Nat.lt_of_succ_lt hlen) rfl)
  · exact .eat_of_ne hstar (.pure hlen (Scan.resume_starred hstar))

/-- The factors that have been read are the open branch of the parser. -/
theorem follows_factors (scan : Scan) (hm : scan.rest.length ≤ m) (l : Level σ) (t : Tree σ) :
    Follows b scan [] ⟨outer, l, .factor t true⟩
      (fun u => ⟨outer, ⟨l.branches, none⟩, .factor u true⟩)
      (fun rest => rest.length ≤ scan.rest.length ∧ ∀ c ∈ rest.head?, startsFactor c = false)
      (Descent.factors b group (l.branch t)) := by
  unfold Descent.factors
  rw [Descent.loop_eq]
  refine .first scan rfl rfl ?_
  by_cases hnext : scan.rest.head?.any startsFactor = true
  · rw [if_pos hnext, bind_assoc]
    refine .of_resume_eq _ (Scan.resume_addFactor hnext) ((follows_repetition hgroup hm).bind ?_)
    intro u scan' hlen
    rw [pure_bind]
    refine (follows_factors scan' (by omega) (l.addFactor t) u).mono ?_
    rintro rest ⟨hlen', hrest⟩
    exact ⟨by omega, hrest⟩
  · rw [if_neg hnext]
    have hnone : ∀ c ∈ scan.rest.head?, startsFactor c = false := by
      intro c hc
      rw [Option.mem_def.1 hc] at hnext
      simpa using hnext
    exact .pure ⟨Nat.le_refl _, hnone⟩ (Scan.resume_of_tree_eq hnone rfl)
termination_by scan.rest.length

theorem follows_concat (hm : scan.rest.length ≤ m) {branches : Option (Tree σ)} :
    Follows b scan (Event.atBranch scan.offset) ⟨outer, ⟨branches, none⟩, .atom⟩
      (fun t => ⟨outer, ⟨branches, none⟩, .factor t true⟩)
      (fun rest => rest.length < scan.rest.length ∧ ∀ c ∈ rest.head?, startsFactor c = false)
      (Descent.concat b group) := by
  unfold Descent.concat
  refine .enter ((follows_repetition hgroup ?_).bind ?_)
  · exact hm
  intro t scan' hlen
  replace hlen : scan'.rest.length < scan.rest.length := hlen
  refine (follows_factors hgroup scan' (by omega) ⟨branches, none⟩ t).mono ?_
  rintro rest ⟨hlen', hrest⟩
  exact ⟨by omega, hrest⟩

/-- The branches that have been read are the open union of the parser. -/
theorem follows_branches (scan : Scan) (hm : scan.rest.length ≤ m)
    (hrest : ∀ c ∈ scan.rest.head?, startsFactor c = false) (l : Level σ) (t : Tree σ) :
    Follows b scan [] ⟨outer, l, .factor t true⟩ (fun u => ⟨outer, .blank, .factor u true⟩)
      (fun rest => rest.length ≤ scan.rest.length ∧ ∀ c ∈ rest.head?, Foreign true c)
      (Descent.branches b group (l.tree t)) := by
  have hshorter (scan' : Scan) (_ : scan'.rest.length < scan.rest.length) :=
    follows_branches scan'
  unfold Descent.branches
  rw [Descent.loop_eq]
  by_cases hbar : scan.rest.head? = some '|'
  · obtain ⟨cs, n, events⟩ := scan
    obtain ⟨cs, rfl⟩ := List.head?_eq_some_iff.1 hbar
    replace hm : cs.length < m := hm
    refine .eat .bar ?_
    rw [if_pos rfl, bind_assoc]
    refine (follows_concat hgroup (Nat.le_of_lt hm)).bind ?_
    rintro u scan' ⟨hlen, hrest'⟩
    replace hlen : scan'.rest.length < cs.length := hlen
    rw [pure_bind]
    refine (hshorter scan' (Nat.lt_succ_of_lt hlen) (by omega) hrest' (l.closeBranch t) u).mono ?_
    rintro rest ⟨hlen', hforeign⟩
    exact ⟨by simp only [List.length_cons]; omega, hforeign⟩
  · refine .eat_of_ne hbar ?_
    rw [if_neg Bool.false_ne_true]
    refine .pure ⟨Nat.le_refl _, ?_⟩ (Scan.resume_of_tree_eq hrest rfl)
    intro c hc
    exact ⟨by simp, hrest c hc, by rintro rfl; exact hbar hc⟩
termination_by scan.rest.length

end

/-- Each group takes its parenthesis from what is left, so a level for each character will do. -/
theorem followsUnion (b : SymbolBuilder β σ) :
    ∀ (levels : Nat) (scan : Scan), scan.rest.length < levels →
      FollowsUnion b (Descent.union b levels) scan
  | levels + 1, scan, hlevels => by
    have hgroup : ∀ scan' : Scan, scan'.rest.length < levels →
        FollowsUnion b (Descent.union b levels) scan' := followsUnion b levels
    replace hlevels : scan.rest.length ≤ levels := Nat.le_of_lt_succ hlevels
    intro outer
    unfold Descent.union
    refine .enter ((follows_concat hgroup ?_).bind ?_)
    · exact hlevels
    rintro t scan' ⟨hlen, hrest⟩
    replace hlen : scan'.rest.length < scan.rest.length := hlen
    refine (follows_branches hgroup scan' (by omega) hrest .blank t).mono ?_
    rintro rest ⟨hlen', hforeign⟩
    exact ⟨by omega, hforeign⟩

/-! ## Whole patterns -/

/-- Outside of all groups nothing can go on behind a union. -/
theorem Scan.ends_reading (h : ∀ c ∈ scan.rest.head?, Foreign true c) :
    Ends scan.offset ⟨[], .blank, .factor t true⟩ scan.rest (scan.reading (.ok t)) := by
  obtain ⟨_ | ⟨c, cs⟩, n, events⟩ := scan
  · exact .whole (l := .blank)
  · exact .stopped (l := .blank) (h c rfl)

/-- The descent returns on every pattern, given room, and does what the parser does: it reads the
same tree or fails alike, in front of the same rest, and all that happens is the same. -/
theorem descend_eq_analyze {levels : Nat} (h : p.toList.length < levels) :
    descend b levels mode p = some (analyze b mode p) := by
  have hrun {reading : Reading σ} {events : Array Event}
      (h : (Scan.note (Event.atUnion 0) ⟨p.toList, 0, #[]⟩).resume b .initial = (reading, events)) :
      analyze b mode p = ⟨p, mode, reading, events⟩ := by
    replace h : run b p.toList 0 .initial (Event.atUnion 0).toArray = (reading, events) := h
    unfold analyze
    rw [h]
  unfold descend
  show Option.map _ ((Descent.union b levels).on ⟨p.toList, 0, #[]⟩) = _
  cases followsUnion b levels ⟨p.toList, 0, #[]⟩ h [] with
  | @returns t scan hx hrest hresume =>
    obtain ⟨_, hforeign⟩ := hrest
    rw [hx, hrun (hresume.trans ((Scan.ends_reading hforeign).run_eq scan.events))]
    rfl
  | fails hx hresume =>
    rw [hx, hrun hresume]
    rfl

end RegexPattern.Parser
