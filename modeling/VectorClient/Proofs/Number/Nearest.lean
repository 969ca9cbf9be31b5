import VectorClient.Proofs.Number.Exact
import VectorClient.Proofs.Number.Interval

/-!
# Nearest numbers

The double of a whole number is the one nearest to it, and of two that are as near the even one. The
whole number of a double is the one nearest to it, and of two that are as near the one away from
zero.
-/

namespace VectorClient.Number

/-! ### Quotients -/

/-- A rounded quotient is off by half of the divisor at most, and is even if it is off by that. -/
theorem roundDiv_error (n : Nat) {d : Nat} (positive : 0 < d) :
    2 * ((roundDiv n d * d : Nat) - n : Int).natAbs ≤ d ∧
      (2 * ((roundDiv n d * d : Nat) - n : Int).natAbs = d → roundDiv n d % 2 = 0) := by
  have split : n / d * d + n % d = n := Nat.div_add_mod' n d
  have rest : n % d < d := Nat.mod_lt n positive
  have next : (n / d + 1) * d = n / d * d + d := Nat.succ_mul _ d
  simp only [roundDiv]
  generalize n / d = q at *
  generalize n % d = r at *
  split_ifs with below above
  · omega
  · rw [next]
    omega
  · -- A half: the even one of both neighbours.
    obtain even | odd : q % 2 = 0 ∨ q % 2 = 1 := by omega
    · rw [even, Nat.add_zero]
      omega
    · rw [odd, next]
      omega

/-- No multiple of the divisor is nearer, and one that is as near leaves the quotient even. -/
theorem roundDiv_nearest (n k : Nat) {d : Nat} (positive : 0 < d) :
    ((roundDiv n d * d : Nat) - n : Int).natAbs ≤ ((k * d : Nat) - n : Int).natAbs ∧
      (((k * d : Nat) - n : Int).natAbs = ((roundDiv n d * d : Nat) - n : Int).natAbs →
        k = roundDiv n d ∨ roundDiv n d % 2 = 0) := by
  obtain ⟨half, tie⟩ := roundDiv_error n positive
  generalize roundDiv n d = q at *
  rcases Nat.lt_trichotomy k q with less | rfl | more
  · have step : (k + 1) * d ≤ q * d := Nat.mul_le_mul_right d less
    rw [Nat.succ_mul] at step
    omega
  · exact ⟨le_rfl, fun _ => .inl rfl⟩
  · have step : (q + 1) * d ≤ k * d := Nat.mul_le_mul_right d more
    rw [Nat.succ_mul] at step
    omega

/-! ### Patterns -/

namespace Format

variable {f : Format}

/-- The carry out of a significand needs an exponent more. -/
theorem roundedPattern_finite {n : Nat} (inRange : f.excess n + 3 ≤ pow2 f.exponentBits - 1) :
    f.roundedPattern n < f.infinity := by
  have room := (f.significand_bounds n).1
  have rounded := (roundDiv_between n (pow2 (f.excess n))).2
  have exponents := Nat.mul_le_mul_right (pow2 f.fractionBits) inRange
  have fraction : 0 < pow2 f.fractionBits := pow2_pos _
  rw [Nat.add_mul] at exponents
  unfold roundedPattern infinity
  omega

theorem roundedPattern_even (fractions : 0 < f.fractionBits) {n : Nat}
    (even : roundDiv n (pow2 (f.excess n)) % 2 = 0) : f.roundedPattern n % 2 = 0 := by
  obtain ⟨bits, same⟩ := Nat.exists_eq_add_of_le' fractions
  have exponent : f.excess n * pow2 f.fractionBits = 2 * (f.excess n * pow2 bits) := by
    rw [same, pow2_succ, Nat.mul_left_comm]
  unfold roundedPattern
  omega

theorem units_lt_of_not_dvd {n p : Nat} (split : ¬ pow2 (f.excess n) ∣ f.units p) :
    f.units p < pow2 f.fractionBits * pow2 (f.excess n) ∧
      pow2 f.fractionBits * pow2 (f.excess n) ≤ n := by
  have lower : p / pow2 f.fractionBits - 1 < f.excess n := by
    by_contra higher
    exact split (Nat.dvd_trans (pow2_dvd (Nat.not_lt.mp higher)) (f.pow2_dvd_units p))
  obtain subnormal | normal := (f.significand_bounds n).2
  · omega
  · rw [← pow2_add]
    constructor
    · exact Nat.lt_of_lt_of_le (f.units_lt p) (pow2_le (by omega))
    · rw [pow2_add]
      exact (Nat.le_div_iff_mul_le (pow2_pos _)).mp normal

/-- No pattern is nearer to a count of units than the one that it rounds to, and of those that are
as near that one is even if any is. -/
theorem roundedPattern_nearest (fractions : 0 < f.fractionBits) (n p : Nat) :
    ((f.units (f.roundedPattern n) : Int) - n).natAbs ≤ ((f.units p : Int) - n).natAbs ∧
      (((f.units p : Int) - n).natAbs = ((f.units (f.roundedPattern n) : Int) - n).natAbs →
        f.roundedPattern n % 2 ≤ p % 2) := by
  have last_pos : 0 < pow2 (f.excess n) := pow2_pos _
  by_cases whole : pow2 (f.excess n) ∣ f.units p
  · obtain ⟨k, multiple⟩ := whole
    rw [Nat.mul_comm] at multiple
    obtain ⟨nearest, tie⟩ := roundDiv_nearest n k last_pos
    rw [← units_roundedPattern, ← multiple] at nearest tie
    refine ⟨nearest, fun same => ?_⟩
    obtain rfl | even := tie same
    · rw [← units_roundedPattern] at multiple
      rw [f.units_strictMono.injective multiple]
    · rw [roundedPattern_even fractions even]
      exact Nat.zero_le _
  · obtain ⟨below, atMost⟩ := units_lt_of_not_dvd whole
    have nearest := (roundDiv_nearest n (pow2 f.fractionBits) last_pos).1
    rw [← units_roundedPattern] at nearest
    omega

theorem nearestWhole_spec (u : Nat) (k : Int) :
    ((u : Int) - f.nearestWhole u * f.one).natAbs ≤ ((u : Int) - k * f.one).natAbs ∧
      (((u : Int) - k * f.one).natAbs = ((u : Int) - f.nearestWhole u * f.one).natAbs →
        k.natAbs ≤ f.nearestWhole u) := by
  have one_pos : 0 < f.one := pow2_pos _
  have atMost := Nat.mul_div_le (2 * u + f.one) (2 * f.one)
  have above := Nat.lt_mul_div_succ (2 * u + f.one) (show 0 < 2 * f.one by omega)
  unfold nearestWhole
  generalize (2 * u + f.one) / (2 * f.one) = q at *
  generalize f.one = one at *
  have product : 2 * one * q = 2 * (q * one) := by rw [Nat.mul_assoc, Nat.mul_comm one]
  have step {a b : Int} (less : a < b) : a * one + one ≤ b * one := by
    have scaled := Int.mul_le_mul_of_nonneg_right (Int.add_one_le_of_lt less)
      (Int.natCast_nonneg one)
    rwa [Int.add_mul, Int.one_mul] at scaled
  rw [product] at atMost
  rw [Nat.mul_succ, product] at above
  rw [← Int.natCast_mul]
  rcases Int.lt_trichotomy k q with less | rfl | more
  · have lower := step less
    rw [← Int.natCast_mul] at lower
    refine ⟨by omega, fun tie => ?_⟩
    rcases lt_or_ge k 0 with negative | nonnegative
    · have far := step negative
      rw [Int.zero_mul] at far
      omega
    · omega
  · rw [← Int.natCast_mul]
    exact ⟨le_rfl, fun _ => le_rfl⟩
  · have upper := step more
    rw [← Int.natCast_mul] at upper
    omega

end Format

/-! ### Doubles of whole numbers -/

namespace Double

/-- How many units a double is off a whole number. -/
def offBy (x : Double) (n : Int) : Nat := (x.units - n * Format.double.one).natAbs

/-- No finite double is nearer to the number, and of those that are as near this one is even if any
is. -/
structure IsNearest (x : Double) (n : Int) : Prop where
  finite : x.isFinite = true
  nearest : ∀ y : Double, y.isFinite = true → x.offBy n ≤ y.offBy n
  even : ∀ y : Double, y.isFinite = true → y.offBy n = x.offBy n →
    x.magnitude % 2 ≤ y.magnitude % 2

/-- The magnitudes are subtracted where the signs are the same, and otherwise added. -/
theorem offBy_eq (x : Double) (n : Int) :
    x.offBy n = if x.isNegative = decide (n < 0) then
      ((Format.double.units x.magnitude : Int) - (n.natAbs * Format.double.one : Nat)).natAbs
    else Format.double.units x.magnitude + n.natAbs * Format.double.one := by
  rw [offBy, units, ← signed_natAbs]
  generalize Format.double.units x.magnitude = u
  generalize n.natAbs * Format.double.one = v
  by_cases negative : n < 0
  · cases x.isNegative
    · simp [negative]
      omega
    · simp [negative]
      omega
  · cases x.isNegative
    · simp [negative]
    · simp [negative]
      omega

theorem ofInt_parts {n : Int} (small : n.natAbs < pow2 64) :
    (ofInt n).isFinite = true ∧ (ofInt n).isNegative = decide (n < 0) ∧
      (ofInt n).magnitude = Format.double.roundedPattern (n.natAbs * Format.double.one) := by
  have exponent := Format.excess_of_whole small
    (show 64 + Format.double.unitBits ≤ Format.double.fractionBits + 1 + 1085 by decide)
  have exponents : 1085 + 3 ≤ pow2 Format.double.exponentBits - 1 := by decide
  have finite := Format.roundedPattern_finite
    (Nat.le_trans (Nat.add_le_add_right exponent 3) exponents)
  have rounds := Format.roundUnits_of_finite finite
  rw [← rounds] at finite ⊢
  exact ofUnits_parts finite

theorem isNearest_ofInt {n : Int} (small : n.natAbs < pow2 64) : (ofInt n).IsNearest n := by
  obtain ⟨finite, sign, pattern⟩ := ofInt_parts small
  have nearest := Format.double.roundedPattern_nearest (by decide) (n.natAbs * Format.double.one)
  have off : (ofInt n).offBy n = ((Format.double.units (ofInt n).magnitude : Int) -
      (n.natAbs * Format.double.one : Nat)).natAbs := by
    rw [offBy_eq, if_pos sign]
  rw [← pattern] at nearest
  -- A number of the other sign is at least as far as zero.
  have zero := nearest 0
  rw [Format.units_zero] at zero
  refine ⟨finite, fun y _ => ?_, fun y _ => ?_⟩
  · rw [off, offBy_eq y]
    split
    · exact (nearest y.magnitude).1
    · omega
  · rw [off, offBy_eq y]
    split
    · exact (nearest y.magnitude).2
    · omega

/-! ### Whole numbers of doubles -/

structure RoundsTo (x : Double) (n : Int) : Prop where
  finite : x.isFinite = true
  nearest : ∀ k : Int, x.offBy n ≤ x.offBy k
  away : ∀ k : Int, x.offBy k = x.offBy n → k.natAbs ≤ n.natAbs

theorem offBy_signed (x : Double) (k : Int) :
    x.offBy (if x.isNegative then -k else k) =
      ((Format.double.units x.magnitude : Int) - k * Format.double.one).natAbs := by
  unfold offBy units
  dsimp only
  split
  · rw [Int.neg_mul]
    omega
  · rfl

theorem roundsTo_nearestWhole {x : Double} (finite : x.isFinite = true) :
    x.RoundsTo (if x.isNegative then
      -(Format.double.nearestWhole (Format.double.units x.magnitude) : Int)
    else Format.double.nearestWhole (Format.double.units x.magnitude)) := by
  have signed (k : Int) : ∃ j : Int, k = (if x.isNegative then -j else j) ∧ k.natAbs = j.natAbs := by
    refine ⟨if x.isNegative then -k else k, ?_, ?_⟩
    · split <;> omega
    · split <;> omega
  have nearest := Format.double.nearestWhole_spec (Format.double.units x.magnitude)
  refine ⟨finite, fun k => ?_, fun k => ?_⟩
  · obtain ⟨j, rfl, _⟩ := signed k
    rw [offBy_signed, offBy_signed]
    exact (nearest j).1
  · obtain ⟨j, rfl, same⟩ := signed k
    rw [offBy_signed, offBy_signed, same, apply_ite Int.natAbs, Int.natAbs_neg, ite_self,
      Int.natAbs_natCast]
    exact (nearest j).2

theorem RoundsTo.unique {x : Double} {m n : Int} (first : x.RoundsTo m) (second : x.RoundsTo n) :
    m = n := by
  have same : x.offBy m = x.offBy n := Nat.le_antisymm (first.nearest n) (second.nearest m)
  have magnitude : m.natAbs = n.natAbs :=
    Nat.le_antisymm (second.away m same) (first.away n same.symm)
  have zero := first.nearest 0
  obtain equal | rfl := Int.natAbs_eq_natAbs_iff.mp magnitude
  · exact equal
  · -- Opposite numbers are as near only to zero, where zero is nearer.
    unfold offBy at same zero
    rw [Int.neg_mul] at same zero
    have product : n * Format.double.one = 0 := by
      rw [Int.zero_mul] at zero
      omega
    have one_ne : (Format.double.one : Int) ≠ 0 := Int.natCast_ne_zero.mpr (Nat.ne_of_gt (pow2_pos _))
    obtain rfl := (Int.mul_eq_zero.mp product).resolve_right one_ne
    rfl

theorem round?_eq_some_iff {x : Double} {n : Int} : x.round? = some n ↔ x.RoundsTo n := by
  constructor
  · intro rounded
    have finite := isFinite_of_round? rounded
    obtain rfl := Option.some.inj ((round?_of_finite finite).symm.trans rounded)
    exact roundsTo_nearestWhole finite
  · intro rounds
    rw [round?_of_finite rounds.finite, Option.some.injEq]
    exact (roundsTo_nearestWhole rounds.finite).unique rounds

/-! ### Doubles of whole value -/

theorem offBy_of_value? {x : Double} {k : Int} (value : x.value? = some (k * Format.double.one))
    (n : Int) : x.offBy n = (k - n).natAbs * Format.double.one := by
  rw [offBy, (value?_eq_some.mp value).2, ← Int.sub_mul, Int.natAbs_mul, Int.natAbs_natCast]

theorem roundsTo_of_value? {x : Double} {k : Int} (value : x.value? = some (k * Format.double.one)) :
    x.RoundsTo k := by
  have one_pos : 0 < Format.double.one := pow2_pos _
  refine ⟨(value?_eq_some.mp value).1, fun n => ?_, fun n same => ?_⟩
  · rw [offBy_of_value? value, Int.sub_self, Int.natAbs_zero, Nat.zero_mul]
    exact Nat.zero_le _
  · rw [offBy_of_value? value, offBy_of_value? value] at same
    have distance := Nat.eq_of_mul_eq_mul_right one_pos same
    omega

/-- Among doubles of whole value the distance is that of the values. -/
theorem IsNearest.whole {x y : Double} {n k j : Int} (near : x.IsNearest n)
    (value : x.value? = some (k * Format.double.one))
    (other : y.value? = some (j * Format.double.one)) :
    (k - n).natAbs ≤ (j - n).natAbs ∧
      ((j - n).natAbs = (k - n).natAbs → x.magnitude % 2 ≤ y.magnitude % 2) := by
  have one_pos : 0 < Format.double.one := pow2_pos _
  have finite := (value?_eq_some.mp other).1
  have nearest := near.nearest y finite
  have even := near.even y finite
  rw [offBy_of_value? value, offBy_of_value? other] at nearest even
  exact ⟨Nat.le_of_mul_le_mul_right nearest one_pos, fun same => even (by rw [same])⟩

theorem value?_of_whole {x : Double} {q : Nat} (finite : x.isFinite = true)
    (whole : Format.double.units x.magnitude = q * Format.double.one) :
    x.value? = some ((if x.isNegative then -(q : Int) else q) * Format.double.one) := by
  rw [value?_eq_some, units, whole, Int.natCast_mul]
  refine ⟨finite, ?_⟩
  split
  · rw [Int.neg_mul]
  · rfl

/-- The double of a whole number has a whole value: only its last places are rounded, and they are
whole where the number has no room in a significand. -/
theorem exists_value_ofInt {n : Int} (small : n.natAbs < pow2 64) :
    ∃ k : Int, (ofInt n).value? = some (k * Format.double.one) := by
  obtain ⟨finite, sign, pattern⟩ := ofInt_parts small
  rcases Nat.lt_or_ge (Format.double.excess (n.natAbs * Format.double.one)) Format.double.unitBits
    with fractional | isWhole
  · have exponents : Format.double.unitBits + 2 ≤ pow2 Format.double.exponentBits - 1 := by decide
    have exact : Exact n :=
      ⟨Nat.dvd_mul_left_of_dvd (pow2_dvd (Nat.le_of_lt fractional)) n.natAbs, by omega⟩
    exact ⟨n, exact.value?_ofInt⟩
  · obtain ⟨q, whole⟩ : Format.double.one ∣ Format.double.units (ofInt n).magnitude := by
      rw [pattern, Format.units_roundedPattern]
      exact Nat.dvd_mul_left_of_dvd (pow2_dvd isWhole) _
    exact ⟨_, value?_of_whole finite (whole.trans (Nat.mul_comm _ q))⟩

/-! ### Rounding within the doubles -/

/-- The double of the number nearest to a double, with the sign of the double. What is not finite
stays as it is. -/
def rounded (x : Double) : Double :=
  if x.isFinite then
    ofUnits x.isNegative
      (Format.double.nearestWhole (Format.double.units x.magnitude) * Format.double.one) 1
  else x

/-- The double without its fraction as a word, the end of the words that is nearest if it is past
them, and zero if it is not a number. -/
def clamped (x : Double) : Int64 :=
  if x.isNaN then 0
  else Int64.ofInt (max (-pow2 63) (min (pow2 63 - 1) (x.units.tdiv Format.double.one)))

/-- A number nearest to a double is a double, so that rounding loses nothing of it. -/
theorem value?_rounded {x : Double} {n : Int} (nearest : x.round? = some n) :
    x.rounded.value? = some (n * Format.double.one) := by
  obtain ⟨whole, inRange⟩ := exact_of_round? nearest
  have finite := isFinite_of_round? nearest
  obtain rfl := Option.some.inj ((round?_of_finite finite).symm.trans nearest)
  rw [apply_ite Int.natAbs, Int.natAbs_neg, ite_self, Int.natAbs_natCast] at whole inRange
  obtain ⟨bounded, units_eq⟩ := Format.units_roundUnits whole inRange
  obtain ⟨rounded_finite, sign, pattern⟩ := @ofUnits_parts x.isNegative _ _ bounded
  have value := value?_of_whole rounded_finite
    ((congrArg Format.double.units pattern).trans units_eq)
  rw [sign] at value
  rw [rounded, if_pos finite]
  exact value

theorem clamped_of_value? {x : Double} {n : Int}
    (value : x.value? = some (n * Format.double.one)) (fits : -pow2 63 ≤ n ∧ n ≤ pow2 63 - 1) :
    x.clamped = Int64.ofInt n := by
  obtain ⟨finite, units_eq⟩ := value?_eq_some.mp value
  have number : x.isNaN = false :=
    decide_eq_false (Nat.not_lt.mpr (Nat.le_of_lt (of_decide_eq_true finite)))
  have one_ne : (Format.double.one : Int) ≠ 0 :=
    Int.natCast_ne_zero.mpr (Nat.ne_of_gt (pow2_pos _))
  rw [clamped, number, units_eq, Int.mul_tdiv_cancel n one_ne, Int.min_eq_right fits.2,
    Int.max_eq_right fits.1]
  rfl

end Double

end VectorClient.Number
