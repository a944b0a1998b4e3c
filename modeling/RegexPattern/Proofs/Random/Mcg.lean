/-
The draws of the generator do not run out. The factor is one more than an odd multiple of four, so
its powers are all the numbers of 128 bits that leave 1 when divided by four (`zpowers_factor`), and
from any state on all states are met that leave the same as it does (`exists_advance_state_eq`). One
of them puts out zero, which is accepted for any bound (`exists_accepts`). So a number below a bound
is the one that the first accepted output gives (`below_eq_first_accepted`).
-/
import Mathlib.GroupTheory.Index
import Mathlib.RingTheory.ZMod.UnitsCyclic
import RegexPattern.Random.Mcg

namespace RegexPattern.Random.Mcg

/-! ## Odd numbers of 128 bits -/

/-- An odd number of 128 bits among the units of the residues. -/
def unit (x : BitVec 128) (odd : x.toNat % 2 = 1) : (ZMod (2 ^ 128))ˣ :=
  ZMod.unitOfCoprime x.toNat <|
    Nat.Coprime.pow_right 128 (Nat.coprime_two_right.2 (Nat.odd_iff.2 odd))

/-- The residues modulo four of odd numbers. -/
def modFour : (ZMod (2 ^ 128))ˣ →* (ZMod 4)ˣ := ZMod.unitsMap (Dvd.intro (2 ^ 126) rfl)

variable {x y : BitVec 128} (hx : x.toNat % 2 = 1) (hy : y.toNat % 2 = 1)

theorem coe_unit : (unit x hx : ZMod (2 ^ 128)) = (x.toNat : ZMod (2 ^ 128)) :=
  ZMod.coe_unitOfCoprime _ _

theorem coe_modFour_unit : (modFour (unit x hx) : ZMod 4) = (x.toNat : ZMod 4) := by
  unfold modFour
  have hdvd : 4 ∣ 2 ^ 128 := Dvd.intro (2 ^ 126) rfl
  rw [ZMod.unitsMap_val, coe_unit]
  exact ZMod.cast_natCast (R := ZMod 4) hdvd _

theorem modFour_unit_eq (h : x.toNat % 4 = y.toNat % 4) :
    modFour (unit x hx) = modFour (unit y hy) := by
  apply Units.ext
  rw [coe_modFour_unit, coe_modFour_unit]
  exact (ZMod.natCast_eq_natCast_iff' _ _ _).2 h

theorem eq_of_coe_eq (h : (x.toNat : ZMod (2 ^ 128)) = (y.toNat : ZMod (2 ^ 128))) : x = y := by
  have hmod := (ZMod.natCast_eq_natCast_iff' _ _ _).1 h
  rw [Nat.mod_eq_of_lt x.isLt, Nat.mod_eq_of_lt y.isLt] at hmod
  exact BitVec.eq_of_toNat_eq hmod

/-! ## Powers of the factor -/

def factor : (ZMod (2 ^ 128))ˣ := unit multiplier (by decide +kernel)

theorem orderOf_factor : orderOf factor = 2 ^ 126 := by
  have hodd : Odd ((multiplier.toNat / 4 : Nat) : Int) := by decide +kernel
  have hsplit : multiplier.toNat = 1 + 4 * (multiplier.toNat / 4) := by decide +kernel
  have hfactor : (factor : ZMod (2 ^ 128)) = 1 + 4 * ((multiplier.toNat / 4 : Nat) : Int) := by
    unfold factor
    rw [coe_unit, hsplit, Int.cast_natCast, Nat.cast_add, Nat.cast_mul, Nat.cast_one,
      Nat.cast_ofNat, ← hsplit]
  rw [← orderOf_units, hfactor]
  exact ZMod.orderOf_one_add_four_mul _ hodd 126

theorem card_ker_modFour : Nat.card modFour.ker = 2 ^ 126 := by
  have hcard : Nat.card (ZMod (2 ^ 128))ˣ = 2 ^ 127 := by
    rw [Nat.card_eq_fintype_card, ZMod.card_units_eq_totient,
      Nat.totient_prime_pow_succ Nat.prime_two, Nat.mul_one]
  have hrange : Nat.card modFour.range = 2 := by
    have hsurjective : Function.Surjective modFour := ZMod.unitsMap_surjective _
    rw [MonoidHom.range_eq_top.2 hsurjective, Subgroup.card_top, Nat.card_eq_fintype_card,
      ZMod.card_units_eq_totient]
    decide +kernel
  have hindex := modFour.ker.card_mul_index
  rw [Subgroup.index_ker, hcard, hrange] at hindex
  omega

/-- The powers of the factor are all numbers that leave 1 when divided by four. -/
theorem zpowers_factor : Subgroup.zpowers factor = modFour.ker := by
  apply Subgroup.eq_of_le_of_card_ge
  · rw [Subgroup.zpowers_le, MonoidHom.mem_ker]
    have hone : modFour factor = modFour (unit 1 (by decide)) :=
      modFour_unit_eq _ _ (by decide +kernel)
    rw [hone]
    apply Units.ext
    rw [coe_modFour_unit]
    rfl
  · rw [card_ker_modFour, Nat.card_zpowers, orderOf_factor]

theorem exists_mul_pow_eq (h : x.toNat % 4 = y.toNat % 4) :
    ∃ k < period, unit x hx * factor ^ (k + 1) = unit y hy := by
  have hmem : (unit x hx)⁻¹ * unit y hy * factor⁻¹ ∈ Subgroup.zpowers factor := by
    have hfactor : factor⁻¹ ∈ modFour.ker := zpowers_factor ▸ Subgroup.inv_mem _
      (Subgroup.mem_zpowers factor)
    rw [zpowers_factor]
    refine Subgroup.mul_mem _ ?_ hfactor
    rw [MonoidHom.mem_ker, map_mul, map_inv, modFour_unit_eq hx hy h]
    exact inv_mul_cancel _
  obtain ⟨k, hk, hpow⟩ := Finset.mem_image.1 (mem_zpowers_iff_mem_range_orderOf.1 hmem)
  rw [orderOf_factor, Finset.mem_range] at hk
  refine ⟨k, hk, ?_⟩
  rw [pow_succ factor, hpow]
  group

/-! ## States that are met -/

theorem coe_advance_iterate (g : Mcg) (k : Nat) :
    ((advance^[k] g).state.toNat : ZMod (2 ^ 128)) = unit g.state g.odd * factor ^ k := by
  induction k with
  | zero => rw [Function.iterate_zero, id, pow_zero, mul_one, coe_unit]
  | succ k ih =>
    rw [Function.iterate_succ_apply']
    show (((advance^[k] g).state * multiplier).toNat : ZMod (2 ^ 128)) = _
    rw [BitVec.toNat_mul, ZMod.natCast_mod, Nat.cast_mul, ih, pow_succ (factor : ZMod (2 ^ 128)),
      ← mul_assoc]
    rfl

/-- Within the period all states are met that leave the same when divided by four. -/
theorem exists_advance_state_eq (g : Mcg) (h : g.state.toNat % 4 = y.toNat % 4) :
    ∃ k < period, (advance^[k + 1] g).state = y := by
  have hy : y.toNat % 2 = 1 := by
    have hodd := g.odd
    omega
  obtain ⟨k, hk, heq⟩ := exists_mul_pow_eq g.odd hy h
  refine ⟨k, hk, eq_of_coe_eq ?_⟩
  rw [coe_advance_iterate, ← coe_unit hy, ← heq]
  rfl

/-! ## Attempts -/

variable {n : Nat} {g : Mcg}

theorem accepts_of_output_eq_zero (h : g.output = 0) : g.Accepts n := by
  unfold Accepts
  rw [h]
  simp

/-- A state with equal halves puts out zero, and one or the other with halves 1 or 3 is met. -/
theorem exists_accepts (g : Mcg) (n : Nat) : ∃ k < period, (advance^[k + 1] g).Accepts n := by
  have houtput : ∀ g : Mcg, g.state = 0x10000000000000001 ∨ g.state = 0x30000000000000003 →
      g.output = 0 := by
    intro g hg
    unfold output
    rcases hg with hg | hg <;> rw [hg] <;> decide +kernel
  have hodd := g.odd
  have hfour : g.state.toNat % 4 = (0x10000000000000001#128).toNat % 4 ∨
      g.state.toNat % 4 = (0x30000000000000003#128).toNat % 4 := by
    simp only [BitVec.toNat_ofNat]
    omega
  rcases hfour with hfour | hfour
  · obtain ⟨k, hk, hstate⟩ := exists_advance_state_eq g hfour
    exact ⟨k, hk, accepts_of_output_eq_zero (houtput _ (.inl hstate))⟩
  · obtain ⟨k, hk, hstate⟩ := exists_advance_state_eq g hfour
    exact ⟨k, hk, accepts_of_output_eq_zero (houtput _ (.inr hstate))⟩

/-- The attempts end with the first that is accepted, if there are enough. -/
theorem attempt_eq {pos : 0 < n} {k : Nat} :
    ∀ {attempts : Nat} {g : Mcg}, k < attempts → (advance^[k + 1] g).Accepts n →
      (∀ j < k, ¬(advance^[j + 1] g).Accepts n) →
      attempt n pos attempts g = ((advance^[k + 1] g).scaled n pos, advance^[k + 1] g) := by
  induction k with
  | zero =>
    intro attempts g hk haccepts _
    obtain ⟨attempts, rfl⟩ := Nat.exists_eq_add_one_of_ne_zero (Nat.ne_of_gt hk)
    rw [Function.iterate_one] at haccepts ⊢
    rw [attempt, if_pos haccepts]
  | succ k ih =>
    intro attempts g hk haccepts hbefore
    obtain ⟨attempts, rfl⟩ := Nat.exists_eq_add_one_of_ne_zero (Nat.ne_zero_of_lt hk)
    have hnot : ¬g.advance.Accepts n := hbefore 0 (Nat.succ_pos k)
    rw [Function.iterate_succ_apply] at haccepts ⊢
    rw [attempt, if_neg hnot]
    refine ih (Nat.lt_of_succ_lt_succ hk) haccepts fun j hj => ?_
    have hj := hbefore (j + 1) (Nat.succ_lt_succ hj)
    rwa [Function.iterate_succ_apply] at hj

/-- A number below a bound comes from the first of the next outputs that is accepted, and there is
one. -/
theorem below_eq_first_accepted (n : Nat) (pos : 0 < n) (g : Mcg) :
    ∃ k, (advance^[k + 1] g).Accepts n ∧ (∀ j < k, ¬(advance^[j + 1] g).Accepts n) ∧
      g.below n pos = ((advance^[k + 1] g).scaled n pos, advance^[k + 1] g) := by
  classical
  obtain ⟨m, hm, hmaccepts⟩ := exists_accepts g n
  have hex : ∃ k, (advance^[k + 1] g).Accepts n := ⟨m, hmaccepts⟩
  have hbefore : ∀ j < Nat.find hex, ¬(advance^[j + 1] g).Accepts n :=
    fun j hj => Nat.find_min hex hj
  exact ⟨Nat.find hex, Nat.find_spec hex, hbefore,
    attempt_eq ((Nat.find_min' hex hmaccepts).trans_lt hm) (Nat.find_spec hex) hbefore⟩

end RegexPattern.Random.Mcg
