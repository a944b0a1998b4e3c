/-
Programs that draw random numbers. A program is the tree of all it can do, one branch for each
number it may draw, so what holds on every branch holds whichever generator runs it.
-/
import RegexPattern.Text.Buffer

namespace RegexPattern.Random

/-- Why a program ends without a value. -/
inductive Fault where
  /-- It has to choose from nothing. -/
  | emptyChoice
  /-- It has to go a level deeper where none is left. -/
  | noDepthLeft
  /-- It needs more room for a text than there can be. -/
  | capacityOverflow
deriving DecidableEq

/-- The fault in words. -/
def Fault.message : Fault → String
  | emptyChoice => "assertion failed: !s.is_empty()"
  | noDepthLeft => "attempt to subtract with overflow"
  | capacityOverflow => "capacity overflow"

/-- A program that draws numbers and ends with a value of type `α` or a fault. -/
inductive Draw (α : Type) where
  | done (a : α)
  | fault (f : Fault)
  /-- Draws one of the numbers below `n` and goes on with it. -/
  | pick (n : Nat) (pos : 0 < n) (next : Fin n → Draw α)

namespace Draw

variable {α γ : Type}

/-- Goes on with the value that `d` ends with. -/
protected def bind (d : Draw α) (f : α → Draw γ) : Draw γ :=
  match d with
  | done a => f a
  | fault e => fault e
  | pick n pos next => pick n pos fun i => (next i).bind f

instance : Monad Draw where
  pure := done
  bind := Draw.bind

/-- A number from `lo` on and below `hi`. If there is none, the answer is `lo` and nothing is
drawn. -/
def range (lo hi : Nat) : Draw Nat :=
  if h : lo < hi then pick (hi - lo) (by omega) fun i => done (lo + i) else done lo

/-- True in `favourable` out of `cases` cases. -/
def chance (favourable cases : Nat) : Draw Bool := do
  return (← range 0 cases) < favourable

/-- One of the elements. -/
def choose (xs : Array α) : Draw α :=
  if h : 0 < xs.size then pick xs.size h fun i => done xs[i] else fault .emptyChoice

/-- The value, or a fault if there is none. -/
def orFault (f : Fault) : Option α → Draw α
  | some a => done a
  | none => fault f

/-- Adds `n` characters of the charset to `out`. -/
def appendChars (charset : Array Char) : Nat → Buffer → Draw Buffer
  | 0, out => done out
  | n + 1, out => do
    let c ← choose charset
    let out ← orFault .capacityOverflow (out.push? c)
    appendChars charset n out

/-- A text of `n` characters of the charset. Before these are drawn room is made for them, a byte
for each; where they are wider the room grows with the text. -/
def textOfLength (charset : Array Char) (n : Nat) : Draw String := do
  let out ← orFault .capacityOverflow (Buffer.empty.reserve? n)
  return (← appendChars charset n out).text

/-- A text over the charset, of a length from `lo` on and below `hi`. -/
def text (lo hi : Nat) (charset : Array Char) : Draw String := do
  textOfLength charset (← range lo hi)

end Draw

/-! ## Runs -/

/-- A source of numbers, whose states are of type `γ`: it gives a number below any positive `n`, and
its next state. -/
abbrev Sampler (γ : Type) := (n : Nat) → 0 < n → γ → Fin n × γ

/-- Runs a program on a source of numbers. The state it leaves behind has made the draws up to the
end, also if that is a fault. -/
def Draw.runBy {α γ : Type} (sample : Sampler γ) : Draw α → γ → Except Fault α × γ
  | done a, s => (.ok a, s)
  | fault f, s => (.error f, s)
  | pick n pos next, s =>
    let (i, s) := sample n pos s
    (next i).runBy sample s

end RegexPattern.Random
