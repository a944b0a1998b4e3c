/-
The symbols of trees. The parser never looks at a symbol that it has made, so a map `f` that carries
the symbols of one builder to those of another carries the whole reading along (`Reads.map`). The
tellings that a recorded symbol consists of are enough to make any other symbol from it, so the
analysis with the recording builder stands for the analysis with every builder.
-/
import RegexPattern.Proofs.Parser.Bounds

namespace RegexPattern

variable {β γ σ τ : Type}

/-! ## Trees and their symbols -/

namespace Tree

/-- The tree of the same shape with `f x` in the place of each symbol `x`. -/
def map (f : σ → τ) : Tree σ → Tree τ
  | emptySet => emptySet
  | emptyWord => emptyWord
  | literal x => literal (f x)
  | concat first second => concat (first.map f) (second.map f)
  | alternate first second => alternate (first.map f) (second.map f)
  | star body => star (body.map f)

/-- The symbols of the literals, from left to right. -/
def symbols : Tree σ → List σ
  | emptySet => []
  | emptyWord => []
  | literal x => [x]
  | concat first second => first.symbols ++ second.symbols
  | alternate first second => first.symbols ++ second.symbols
  | star body => body.symbols

end Tree

/-! ## Builders -/

namespace SymbolBuilder

/-- The symbol that `b` makes when it is told all of `calls` in order. -/
def replay (b : SymbolBuilder β σ) (calls : List Call) : σ :=
  b.finish (calls.foldl (fun draft call => b.add call.polarity call.ranges draft) b.fresh)

/-- `f` takes each symbol that `b` makes of one telling to the one that `b'` makes of it. -/
def Carries (f : σ → τ) (b : SymbolBuilder β σ) (b' : SymbolBuilder γ τ) : Prop :=
  ∀ polarity ranges, f (b.build polarity ranges) = b'.build polarity ranges

/-- What was recorded is enough to make any other symbol. -/
theorem carries_replay (b : SymbolBuilder β σ) : Carries b.replay recording b := fun _ _ => rfl

end SymbolBuilder

namespace Parser

open Grammar SymbolBuilder

/-! ## States with other symbols -/

section
variable (f : σ → τ)

/-- The level with `f x` in the place of each symbol `x`. -/
def Level.map (l : Level σ) : Level τ := ⟨l.branches.map (Tree.map f), l.factors.map (Tree.map f)⟩

/-- The focus with `f x` in the place of each symbol `x`. A class that is open has no symbol yet. -/
def Focus.map : Focus σ → Focus τ
  | .atom => .atom
  | .factor t starred => .factor (t.map f) starred
  | .classStart => .classStart
  | .classEntry k => .classEntry k
  | .classLiteral k first => .classLiteral k first
  | .classRange k first => .classRange k first

/-- The state with `f x` in the place of each symbol `x`. -/
def State.map (s : State σ) : State τ := ⟨s.outer.map (Level.map f), s.level.map f, s.focus.map f⟩

/-- The reading with `f x` in the place of each symbol `x`. -/
def Reading.map : Reading σ → Reading τ
  | .whole t => .whole (t.map f)
  | .stopped t offset next => .stopped (t.map f) offset next
  | .failed e => .failed e

end

variable {b : SymbolBuilder β σ} {b' : SymbolBuilder γ τ} {f : σ → τ} {n : Nat} {c : Char}
  {s s' : State σ} {l l' : Level σ} {g : Focus σ} {t : Tree σ} {k : OpenClass} {es : List Event}
  {events : Array Event} {e : ParseError} {r : Reading σ} {mode : Mode} {p : String}
  {w : List Char}

@[simp] theorem State.map_mk {outer : List (Level σ)} :
    (State.mk outer l g).map f = ⟨outer.map (Level.map f), l.map f, g.map f⟩ := rfl

theorem Level.branch_map : (l.branch t).map f = (l.map f).branch (t.map f) := by
  obtain ⟨branches, factors⟩ := l
  cases factors <;> rfl

theorem Level.tree_map : (l.tree t).map f = (l.map f).tree (t.map f) := by
  have h := l.branch_map (f := f) (t := t)
  obtain ⟨branches, factors⟩ := l
  cases branches with
  | none => exact h
  | some first => exact congrArg (Tree.alternate (first.map f)) h

theorem Level.addFactor_map : (l.addFactor t).map f = (l.map f).addFactor (t.map f) := by
  simp only [Level.addFactor, Level.map, Option.map_some, Level.branch_map]

theorem Level.closeBranch_map : (l.closeBranch t).map f = (l.map f).closeBranch (t.map f) := by
  simp only [Level.closeBranch, Level.map, Option.map_some, Option.map_none, Level.tree_map]

theorem Focus.openClass?_map : (g.map f).openClass? = g.openClass? := by
  cases g <;> rfl

theorem Focus.classMarks_map : (g.map f).classMarks = g.classMarks := by
  cases g <;> rfl

/-- The symbol that one builder has just made becomes the one that the other makes. -/
theorem Focus.map_literal (hf : Carries f b b') (polarity : Polarity) (ranges : List CharRange)
    (starred : Bool) :
    (Focus.factor (.literal (b.build polarity ranges)) starred).map f =
      .factor (.literal (b'.build polarity ranges)) starred := by
  rw [← hf, Focus.map, Tree.map]

/-! ## Steps with other symbols -/

theorem Opens.map (h : Opens n g l c es l') : Opens n (g.map f) (l.map f) c es (l'.map f) := by
  cases h with
  | first => exact .first
  | next hc => rw [Level.addFactor_map]; exact .next hc

/-- A character that is taken is taken with other symbols, too: only where a symbol is made does it
matter which builder that is. -/
theorem Takes.map (hf : Carries f b b') (h : Takes b n s c es s') :
    Takes b' n (s.map f) c es (s'.map f) := by
  cases h with
  | emptyWord h => exact .emptyWord h.map
  | emptySet h => exact .emptySet h.map
  | group h => exact .group h.map
  | charClass h => exact .charClass h.map
  | literal h hc hne =>
    simp only [State.map_mk, Focus.map_literal hf]
    exact .literal h.map hc hne
  | star => exact .star
  | bar =>
    simp only [State.map_mk, Level.closeBranch_map]
    exact .bar
  | close =>
    simp only [State.map_mk, Focus.map, Level.tree_map]
    exact .close
  | hat => exact .hat
  | entry hk hc => exact .entry (by rwa [Focus.openClass?_map]) hc
  | classEnd hk =>
    simp only [State.map_mk, Focus.map_literal hf]
    exact .classEnd (by rwa [Focus.openClass?_map])
  | dash => exact .dash
  | rangeEnd hc => exact .rangeEnd hc

theorem Fails.map (h : Fails n s c e) : Fails n (s.map f) c e := by
  cases h with
  | atom h1 h2 h3 h4 h5 => exact .atom h1 h2 h3 h4 h5
  | unclosed h hc => exact .unclosed h hc
  | entry hk hm hc =>
    exact .entry (by rwa [Focus.openClass?_map]) (by rwa [Focus.classMarks_map]) hc
  | rangeEnd hc => exact .rangeEnd hc
  | inverted hc hlt => exact .inverted hc hlt

theorem Unfinished.map (h : Unfinished n s e) : Unfinished n (s.map f) e := by
  cases h with
  | atom => exact .atom
  | unclosed => exact .unclosed
  | entry hk => exact .entry (by rwa [Focus.openClass?_map])
  | rangeEnd => exact .rangeEnd

/-! ## Readings with other symbols -/

theorem Reached.map (hf : Carries f b b') (h : Reached b w s events) :
    Reached b' w (s.map f) events := by
  induction h with
  | start => exact .start
  | next _ hc ih => exact ih.next (hc.map hf)

theorem Reaches.map (hf : Carries f b b') (h : Reaches b w s) : Reaches b' w (s.map f) := by
  obtain ⟨events, h⟩ := h
  exact ⟨events, h.map hf⟩

theorem Refused.map (hf : Carries f b b') (h : Refused b w c r) : Refused b' w c (r.map f) := by
  cases h with
  | stopped h hc =>
    rw [Reading.map, Level.tree_map]
    exact .stopped (h.map hf) hc
  | failed h hc => exact .failed (h.map hf) hc.map

/-- What is read with one builder is read with the other, each symbol with its counterpart in its
place. -/
theorem Reads.map (hf : Carries f b b') (h : Reads b w r) : Reads b' w (r.map f) := by
  cases h with
  | whole h =>
    rw [Reading.map, Level.tree_map]
    exact .whole (h.map hf)
  | unfinished h hu => exact .unfinished (h.map hf) hu.map
  | refused h => exact .refused (h.map hf)

theorem Reading.result_map : (r.map f).result mode = (r.result mode).map (Tree.map f) := by
  cases r <;> cases mode <;> rfl

/-- An analysis with other symbols has the same error, or the same tree with the other symbols in
it. -/
theorem result_map (hf : Carries f b b') :
    (analyze b' mode p).result = (analyze b mode p).result.map (Tree.map f) := by
  obtain ⟨r, hr⟩ := exists_reads b p.toList
  rw [hr.result_eq, (hr.map hf).result_eq, Reading.result_map]

/-! ## Where symbols come from -/

section
variable (sym : Polarity → List CharRange → σ)

/-- The symbol `x` is made of ranges that go from one literal to another. -/
def Written (x : σ) : Prop :=
  ∃ polarity ranges, sym polarity ranges = x ∧
    ∀ r ∈ ranges, isLiteral r.first = true ∧ isLiteral r.last = true

end

variable {sym : Polarity → List CharRange → σ}

theorem Grammar.Items.isLiteral_ends {rs : List CharRange} (h : Items w rs) :
    ∀ r ∈ rs, isLiteral r.first = true ∧ isLiteral r.last = true := by
  induction h with
  | none => simp
  | more _ hi ih =>
    rw [List.forall_mem_append, List.forall_mem_singleton]
    refine ⟨ih, ?_⟩
    cases hi with
    | single hc => exact ⟨hc, hc⟩
    | range hfirst hlast => exact ⟨hfirst, hlast⟩

mutual

theorem Grammar.Union.written : ∀ {w : List Char} {t : Tree σ}, Union sym w t →
    ∀ x ∈ t.symbols, Written sym x
  | _, _, .one h => h.written
  | _, _, .more h h' => List.forall_mem_append.2 ⟨h.written, h'.written⟩

theorem Grammar.Concat.written : ∀ {w : List Char} {t : Tree σ}, Concat sym w t →
    ∀ x ∈ t.symbols, Written sym x
  | _, _, .one h => h.written
  | _, _, .more h h' _ => List.forall_mem_append.2 ⟨h.written, h'.written⟩

theorem Grammar.Repetition.written : ∀ {a w : List Char} {t : Tree σ}, Repetition sym a w t →
    ∀ x ∈ t.symbols, Written sym x
  | _, _, _, .once h => h.written
  | _, _, _, .starred h => h.written

theorem Grammar.Atom.written : ∀ {a : List Char} {t : Tree σ}, Atom sym a t →
    ∀ x ∈ t.symbols, Written sym x
  | _, _, .emptyWord => by simp [Tree.symbols]
  | _, _, .emptySet => by simp [Tree.symbols]
  | _, _, .literal hc _ => by
    rw [Tree.symbols, List.forall_mem_singleton]
    exact ⟨_, _, rfl, List.forall_mem_singleton.2 ⟨hc, hc⟩⟩
  | _, _, .group h => h.written
  | _, _, .charClass h => by
    rw [Tree.symbols, List.forall_mem_singleton]
    exact ⟨_, _, rfl, h.isLiteral_ends⟩

end

/-- The symbols of every tree that is given are made of ranges between literals. -/
theorem written_of_result_eq_ok (h : (analyze b mode p).result = .ok t) :
    ∀ x ∈ t.symbols, Written b.build x := by
  obtain ⟨r, hr⟩ := exists_reads b p.toList
  rw [hr.result_eq] at h
  obtain ⟨w, -, hu⟩ := hr.exists_union h
  exact hu.written

/-! ## Any builder -/

/-- With any builder an analysis fails where it fails with the recording one, with the same error;
else it gives the same tree with each symbol made anew from what was recorded of it, which is a
single telling. In particular that is how character classes are read. -/
theorem analysis_replays_recording (b : SymbolBuilder β σ) (mode : Mode) (p : String) :
    (∀ e, (analyze b mode p).result = .error e ↔ (analyze recording mode p).result = .error e) ∧
    (∀ t, (analyze recording mode p).result = .ok t →
      (analyze b mode p).result = .ok (t.map b.replay) ∧
        ∀ calls ∈ t.symbols, ∃ call, calls = [call]) ∧
    parse mode p = (analyze recording mode p).result.map (Tree.map CharClass.builder.replay) := by
  have hb : (analyze b mode p).result = (analyze recording mode p).result.map (Tree.map b.replay) :=
    result_map (carries_replay b)
  refine ⟨fun e => ?_, fun t ht => ⟨?_, fun calls hcalls => ?_⟩, result_map (carries_replay _)⟩
  · rw [hb]
    cases (analyze recording mode p).result <;> simp [Except.map]
  · rw [hb, ht]
    rfl
  · obtain ⟨polarity, ranges, rfl, -⟩ := written_of_result_eq_ok ht calls hcalls
    exact ⟨_, rfl⟩

/-- The class behind the bar is recorded as one exclusion, which makes the class of all other
characters. -/
theorem analysis_replays_recording_excluded :
    let t : Tree (List Call) := .alternate (.literal [⟨.including, [.single 'a']⟩])
      (.star (.literal [⟨.excluding, [⟨'b', 'd', by decide⟩, .single 'a']⟩]))
    (analyze recording .lenient "a|[^b-da]*)").result = .ok t ∧
    parse .lenient "a|[^b-da]*)" = .ok (t.map CharClass.builder.replay) ∧
    t.map CharClass.builder.replay = .alternate (.literal ⟨⟨#[.single 'a']⟩⟩)
      (.star (.literal ⟨⟨#[⟨'\x00', '`', by decide⟩, ⟨'e', Scalar.greatest, by decide⟩]⟩⟩)) := by
  intro t
  have h : (analyze recording .lenient "a|[^b-da]*)").result = .ok t := by decide +kernel
  obtain ⟨-, htree, -⟩ := analysis_replays_recording CharClass.builder .lenient "a|[^b-da]*)"
  exact ⟨h, (htree t h).1, by decide +kernel⟩

end Parser

end RegexPattern
