import Mathlib.Order.Monotone.Basic
import VectorClient.Number.Single
import VectorClient.Proofs.Number.Rounding

/-!
# The unit interval

Greater magnitude patterns stand for greater counts of units. So the check of a single against the
pattern of one is a check of its value, and refuses what is not a number.
-/

namespace VectorClient.Number

namespace Format

variable {f : Format}

theorem exists_pattern (f : Format) (p : Nat) :
    ∃ biased fraction, fraction < pow2 f.fractionBits ∧
      p = biased * pow2 f.fractionBits + fraction := by
  refine ⟨p / pow2 f.fractionBits, p % pow2 f.fractionBits, Nat.mod_lt _ (pow2_pos _), ?_⟩
  rw [Nat.mul_comm]
  exact (Nat.div_add_mod p _).symm

theorem units_lt_succ (f : Format) (p : Nat) : f.units p < f.units (p + 1) := by
  obtain ⟨biased, fraction, small, rfl⟩ := f.exists_pattern p
  rcases Nat.lt_or_ge (fraction + 1) (pow2 f.fractionBits) with inside | carried
  · rw [Nat.add_assoc, units_of_quotient small, units_of_quotient inside]
    by_cases subnormal : biased = 0
    · rw [if_pos subnormal, if_pos subnormal]
      exact Nat.lt_succ_self fraction
    · rw [if_neg subnormal, if_neg subnormal]
      exact Nat.mul_lt_mul_of_pos_right (by omega) (pow2_pos _)
  · -- The fraction is full, so that the next pattern has the next exponent.
    have next : biased * pow2 f.fractionBits + fraction + 1 =
        (biased + 1) * pow2 f.fractionBits + 0 := by
      rw [Nat.succ_mul]
      omega
    rw [next, units_of_quotient small, units_of_quotient (pow2_pos _), if_neg (Nat.succ_ne_zero _),
      Nat.add_zero, Nat.succ_sub_one]
    cases biased with
    | zero => simpa using small
    | succ exponent =>
      rw [if_neg (Nat.succ_ne_zero _), Nat.succ_sub_one, pow2_succ, ← Nat.mul_assoc]
      exact Nat.mul_lt_mul_of_pos_right (by omega) (pow2_pos _)

theorem units_strictMono (f : Format) : StrictMono f.units :=
  strictMono_nat_of_lt_succ f.units_lt_succ

@[simp] theorem units_zero (f : Format) : f.units 0 = 0 := by
  simp [units]

end Format

namespace Single

/-- The signed number of units of a finite single. -/
def units (x : Single) : Int :=
  let n : Int := Format.single.units x.magnitude
  if x.isNegative then -n else n

/-- A number from 0 to 1. -/
def IsFraction (x : Single) : Prop :=
  x.isNaN = false ∧ 0 ≤ x.units ∧ x.units ≤ Format.single.one

theorem pattern_of_one :
    Format.single.roundUnits Format.single.one 1 < Format.single.infinity ∧
      Format.single.units (Format.single.roundUnits Format.single.one 1) = Format.single.one := by
  have significand : 1 ≤ 2 * pow2 Format.single.fractionBits := by decide
  obtain ⟨atMost, whole⟩ := Format.excess_dvd_of_small significand
  have exponents : Format.single.unitBits + 1 + 2 ≤ pow2 Format.single.exponentBits - 1 := by decide
  rw [Nat.one_mul] at atMost whole
  exact Format.units_roundUnits whole (by omega)

theorem inUnitInterval_iff {x : Single} : x.inUnitInterval = true ↔ x.IsFraction := by
  obtain ⟨finite, one_units⟩ := pattern_of_one
  have below_one : x.magnitude ≤ Format.single.roundUnits Format.single.one 1 ↔
      Format.single.units x.magnitude ≤ Format.single.one := by
    rw [← Format.single.units_strictMono.le_iff_le, one_units]
  have zero_iff : Format.single.units x.magnitude = 0 ↔ x.magnitude = 0 := by
    have injective := Format.single.units_strictMono.injective
    rw [← Format.single.units_zero]
    exact injective.eq_iff
  unfold inUnitInterval IsFraction units isNaN isZero
  cases negative : x.isNegative with
  | false =>
    simp only [Bool.not_false, Bool.true_and, Bool.or_eq_true, decide_eq_true_eq,
      decide_eq_false_iff_not, Bool.false_eq_true, if_false, below_one]
    constructor
    · intro small
      have bounded : Format.single.units x.magnitude ≤ Format.single.one := by
        rcases small with zero | bounded
        · rw [zero_iff.mpr zero]
          exact Nat.zero_le _
        · exact bounded
      have inside := below_one.mpr bounded
      exact ⟨by omega, by omega, by omega⟩
    · intro ⟨_, _, bounded⟩
      exact .inr (by omega)
  | true =>
    simp only [Bool.not_true, Bool.false_and, Bool.or_false, decide_eq_true_eq,
      decide_eq_false_iff_not, if_true]
    constructor
    · intro zero
      rw [zero, Format.units_zero]
      exact ⟨by omega, by omega, by omega⟩
    · intro ⟨_, nonneg, _⟩
      exact zero_iff.mp (by omega)

end Single

end VectorClient.Number
