/-
A multiplicative congruential generator on 128 bits. Each step multiplies the state, which is odd;
the output folds the two halves of the state and turns the result by its top six bits. A number
below a bound comes from the first output that does not favour some numbers over others.
-/
namespace RegexPattern.Random

/-- The generator in one of its states. -/
structure Mcg where
  state : BitVec 128
  odd : state.toNat % 2 = 1
deriving DecidableEq

namespace Mcg

/-- The generator that starts at `s`, made odd. -/
def new (s : BitVec 128) : Mcg where
  state := s ||| 1
  odd := by
    rw [BitVec.toNat_or, Nat.or_mod_two_eq_one]
    exact .inr rfl

/-! ## Seeding -/

/-- One step of the sequence that spreads a seed over the state. -/
def spread (x : BitVec 64) : BitVec 64 := x * 6364136223846793005 + 11634580027462260723

/-- The 32 bits that a member of that sequence gives. -/
def folded (x : BitVec 64) : BitVec 32 :=
  ((((x >>> 18) ^^^ x) >>> 27).truncate 32).rotateRight (x >>> 59).toNat

/-- The generator for a seed: the first four members of the sequence give the state, the lowest
bits first. -/
def ofSeed (seed : UInt64) : Mcg :=
  let x₀ := spread seed.toBitVec
  let x₁ := spread x₀
  let x₂ := spread x₁
  let x₃ := spread x₂
  new (folded x₃ ++ folded x₂ ++ folded x₁ ++ folded x₀)

/-! ## Drawing -/

/-- The factor of each step. -/
def multiplier : BitVec 128 := 0x2360ED051FC65DA44385DF649FCCF645

/-- The next state. -/
def advance (g : Mcg) : Mcg where
  state := g.state * multiplier
  odd := by
    rw [BitVec.toNat_mul, Nat.mod_mod_of_dvd _ (Nat.dvd_of_mod_eq_zero rfl), Nat.mul_mod, g.odd]
    rfl

/-- The number of steps after which each state comes back. -/
def period : Nat := 1 <<< 126

/-- What a state puts out. -/
def output (g : Mcg) : BitVec 64 :=
  ((g.state >>> 64).truncate 64 ^^^ g.state.truncate 64).rotateRight (g.state >>> 122).toNat

/-- The greatest remainder at which an attempt to draw below `n` succeeds: `n` shifted to the top of
64 bits, less one. -/
def zone (n : Nat) : Nat := n <<< (63 - n.log2) - 1

/-- Whether the attempt to draw below `n` succeeds with the output of `g`: the remainder of scaling
it down from 64 bits is in the zone. -/
def Accepts (g : Mcg) (n : Nat) : Prop := g.output.toNat * n % UInt64.size ≤ zone n
deriving Decidable

/-- The output scaled down from 64 bits to the numbers below `n`. -/
def scaled (g : Mcg) (n : Nat) (pos : 0 < n) : Fin n :=
  ⟨g.output.toNat * n / UInt64.size,
    Nat.div_lt_of_lt_mul (Nat.mul_lt_mul_of_pos_right g.output.isLt pos)⟩

/-- A number below `n`, from the first of the next outputs that is accepted. -/
def attempt (n : Nat) (pos : 0 < n) : Nat → Mcg → Fin n × Mcg
  | 0, g => (⟨0, pos⟩, g)
  | attempts + 1, g =>
    if g.advance.Accepts n then (g.advance.scaled n pos, g.advance)
    else attempt n pos attempts g.advance

/-- A number below `n`. There are as many attempts as states that can be met, and one of these is
accepted. -/
def below (n : Nat) (pos : 0 < n) (g : Mcg) : Fin n × Mcg := attempt n pos period g

end Mcg

end RegexPattern.Random
