/-
A generator together with the seed it was set to, and programs run on it.
-/
import RegexPattern.Random.Draw
import RegexPattern.Random.Mcg

namespace RegexPattern.Random

/-- A generator and the seed that was set last. -/
structure Source where
  engine : Mcg
  seed : UInt64

namespace Source

/-- The source before any seed is set. -/
def initial : Source := ⟨.new 0, 0⟩

/-- The source for a seed. -/
def seeded (seed : UInt64) : Source := ⟨.ofSeed seed, seed⟩

/-- Draws from the engine. The seed stays. -/
def sample : Sampler Source := fun n pos s =>
  let (i, engine) := s.engine.below n pos
  (i, { s with engine })

end Source

/-- Runs a program on the engine of a source. -/
def Draw.run {α : Type} (d : Draw α) (s : Source) : Except Fault α × Source :=
  d.runBy Source.sample s

end RegexPattern.Random
