/-
Fuzzing campaigns: patterns are drawn one after the other, random texts, well-formed patterns and
edited ones in turn, and each is checked. A campaign ends early if no pattern can be drawn, or with
the first violation if it is asked to.
-/
import RegexPattern.Fuzz.Check
import RegexPattern.Fuzz.Edit
import RegexPattern.Fuzz.Generator
import RegexPattern.Fuzz.Options
import RegexPattern.Log.Filter
import RegexPattern.Random.Source

namespace RegexPattern.Fuzz

open RegexPattern.Random

namespace Campaign

/-! ## Candidates -/

/-- A pattern to check, and whether it is known to be well-formed. -/
structure Candidate where
  pattern : String
  wellFormed : Bool
deriving DecidableEq

/-- A pattern just as the generator draws it. -/
def Candidate.draw (g : Generator) : Draw Candidate := do
  return { pattern := ← g.generate, wellFormed := g.isValid }

/-- The letters of well-formed patterns. -/
def alphabet : Array Char := "abcxyz019_".toList.toArray

def texts (o : Options) (l : Options.Lengths) : Generator :=
  .text l.start.toNat l.stop.toNat o.charset.toList.toArray

def patterns (o : Options) : Generator := .grammar o.maxDepth.toNat alphabet

/-- The ways to edit well-formed patterns: new text of one or two characters goes to the end or
anywhere, new text of up to two characters takes the place of a span, or a span is taken away. -/
def strategies (o : Options) : Array Strategy :=
  let charset := o.charset.toList.toArray
  #[.append (Generator.text 1 3 charset), .insert (Generator.text 1 3 charset),
    .replace (Generator.text 0 3 charset), .erase]

/-- A well-formed pattern after an edit, of which it is not known whether it is one. -/
def Candidate.drawEdited (o : Options) : Draw Candidate := do
  let src ← (patterns o).generate
  let edit ← Edit.draw (strategies o) src
  return { pattern := edit.apply src, wellFormed := false }

/-- The candidate of round `i`: of any three rounds the first has a random text, the next a
well-formed pattern, and the last an edited one. -/
def candidate (o : Options) (l : Options.Lengths) (i : Nat) : Draw Candidate :=
  if i % 3 = 0 then Candidate.draw (texts o l)
  else if i % 3 = 1 then Candidate.draw (patterns o)
  else Candidate.drawEdited o

/-! ## Log -/

/-- What a campaign logs. -/
inductive Note where
  | seeded (seed : UInt64)
  | drawn (round : Nat) (pattern : String)
  | checking (note : Check.Note)
  | violated (v : Violation)
  | clean (checked : Nat)
deriving DecidableEq

instance : Log.Message Note where
  level
    | .seeded _ => .info
    | .drawn .. => .debug
    | .checking note => Log.Message.level note
    | .violated _ => .error
    | .clean _ => .info
  target
    | .checking note => Log.Message.target note
    | _ => .campaign
  text
    | .seeded seed => "fuzzing with seed " ++ Nat.repr seed.toNat
    | .drawn round pattern => "#" ++ Nat.repr round ++ ": " ++ inspect pattern
    | .checking note => Log.Message.text note
    | .violated v => v.message
    | .clean checked => Nat.repr checked ++ " patterns checked, no violations"

/-! ## Rounds -/

/-- What the check of a candidate finds. -/
def Candidate.violation? (mode : Parser.Mode) (c : Candidate) : Option Violation :=
  (Check.ofPattern c.pattern).violation? mode c.wellFormed

/-- The notes of round `i`, with the candidate that it has drawn. -/
def notes (mode : Parser.Mode) (i : Nat) (c : Candidate) : List Note :=
  .drawn i c.pattern :: (Check.ofPattern c.pattern).notes.map .checking
    ++ (c.violation? mode).toList.map .violated

/-- The violations found so far, and the log. -/
structure Tally where
  violations : Nat
  log : Array Log.Line

/-- The tally after round `i`, in which the candidate is checked. -/
def Tally.check (t : Tally) (o : Options) (f : Log.Filter) (i : Nat) (c : Candidate) : Tally where
  violations := t.violations + (c.violation? o.mode).toList.length
  log := f.collect t.log (notes o.mode i c)

/-- Plays `n` rounds, the first of which is round `i`, on a source of numbers in state `s`. Gives
the tally up to the end, or up to where a candidate could not be drawn, with the fault. -/
def rounds {γ : Type} (sample : Sampler γ) (o : Options) (l : Options.Lengths) (f : Log.Filter) :
    Nat → Nat → Tally → γ → Tally × Option Fault
  | 0, _, t, _ => (t, none)
  | n + 1, i, t, s =>
    match (candidate o l i).runBy sample s with
    | (.error fault, _) => (t, some fault)
    | (.ok c, s) =>
      let t := t.check o f i c
      if (c.violation? o.mode).isSome ∧ o.failFast then (t, none)
      else rounds sample o l f n (i + 1) t s

/-! ## Campaigns -/

/-- Why a campaign does not end well. -/
inductive Failure where
  /-- It is not started with such options. -/
  | refused (r : Options.Refusal)
  /-- Checks have found something. -/
  | violations (count : Nat) (seed : UInt64)
  /-- A pattern could not be drawn. -/
  | fault (f : Fault)
deriving DecidableEq

/-- The failure in words. -/
def Failure.message : Failure → String
  | refused r => r.message
  | violations count seed =>
    Nat.repr count ++ " violation(s) found with seed " ++ Nat.repr seed.toNat
  | fault f => f.message

/-- The log of a campaign, and why it has failed if it has. -/
structure Report where
  log : Array Log.Line
  result : Except Failure Unit

/-- Runs a campaign on a source of numbers, which the seed starts. The clock stands in for a seed
that is not given. Options that cannot be run are refused before anything is drawn or logged. -/
def runBy {γ : Type} (sample : Sampler γ) (seeded : UInt64 → γ) (o : Options) (clock : UInt64)
    (f : Log.Filter) : Report :=
  match o.lengths with
  | .error r => ⟨#[], .error (.refused r)⟩
  | .ok l =>
    let seed := o.seed.getD clock
    let start : Tally := ⟨0, f.collect #[] [Note.seeded seed]⟩
    match rounds sample o l f o.iterations.toNat 0 start (seeded seed) with
    | (t, some fault) => ⟨t.log, .error (.fault fault)⟩
    | (t, none) =>
      if 0 < t.violations then ⟨t.log, .error (.violations t.violations seed)⟩
      else ⟨f.collect t.log [Note.clean o.iterations.toNat], .ok ()⟩

/-- Runs a campaign on the engine that its seed starts. -/
def run (o : Options) (clock : UInt64) (f : Log.Filter) : Report :=
  runBy Source.sample Source.seeded o clock f

end Campaign

end RegexPattern.Fuzz
