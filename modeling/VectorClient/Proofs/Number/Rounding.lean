import VectorClient.Number.Double
import VectorClient.Proofs.Number.Power

/-!
# Rounding without loss

A count of units that has room in a significand rounds to a pattern of that many units, and so a
whole number up to `2 ^ 53` survives as a double. So does the whole number nearest to any double.
-/

namespace VectorClient.Number

theorem roundDiv_of_dvd {n d : Nat} (positive : 0 < d) (whole : d ∣ n) : roundDiv n d = n / d := by
  simp only [roundDiv, Nat.mod_eq_zero_of_dvd whole]
  exact if_pos positive

theorem roundDiv_between (n d : Nat) : n / d ≤ roundDiv n d ∧ roundDiv n d ≤ n / d + 1 := by
  simp only [roundDiv]
  split
  · omega
  · split <;> omega

namespace Format

variable {f : Format}

theorem units_of_quotient {biased fraction : Nat} (small : fraction < pow2 f.fractionBits) :
    f.units (biased * pow2 f.fractionBits + fraction) =
      if biased = 0 then fraction
      else (pow2 f.fractionBits + fraction) * pow2 (biased - 1) := by
  have exponent : (biased * pow2 f.fractionBits + fraction) / pow2 f.fractionBits = biased := by
    rw [Nat.mul_comm, Nat.mul_add_div (pow2_pos _), Nat.div_eq_of_lt small, Nat.add_zero]
  have rest : (biased * pow2 f.fractionBits + fraction) % pow2 f.fractionBits = fraction := by
    rw [Nat.mul_comm, Nat.mul_add_mod, Nat.mod_eq_of_lt small]
  simp only [units, exponent, rest]

/-- A significand on top of its exponent; the carry out of it goes to the next exponent. -/
theorem units_of_significand {shift q : Nat} (normal : shift = 0 ∨ pow2 f.fractionBits ≤ q)
    (room : q ≤ 2 * pow2 f.fractionBits) :
    f.units (shift * pow2 f.fractionBits + q) = q * pow2 shift := by
  rcases Nat.lt_or_ge q (pow2 f.fractionBits) with subnormal | atLeast
  · obtain rfl : shift = 0 := by omega
    rw [units_of_quotient subnormal, if_pos rfl, pow2_zero, Nat.mul_one]
  · rcases Nat.lt_or_ge q (2 * pow2 f.fractionBits) with inside | carried
    · obtain ⟨fraction, rfl⟩ := Nat.exists_eq_add_of_le atLeast
      rw [← Nat.add_assoc, ← Nat.succ_mul, units_of_quotient (by omega),
        if_neg (Nat.succ_ne_zero shift), Nat.succ_sub_one]
    · obtain rfl : q = 2 * pow2 f.fractionBits := Nat.le_antisymm room carried
      rw [← Nat.add_mul, ← Nat.add_zero ((shift + 2) * _), units_of_quotient (pow2_pos _),
        if_neg (by omega), Nat.add_zero, show shift + 2 - 1 = shift + 1 from rfl, pow2_succ,
        Nat.mul_left_comm, Nat.mul_assoc]

/-- The whole number nearest to a count of units, a half up. -/
def nearestWhole (f : Format) (u : Nat) : Nat := (2 * u + f.one) / (2 * f.one)

theorem nearestWhole_mul_one (f : Format) (k : Nat) : f.nearestWhole (k * f.one) = k := by
  have one_pos : 0 < f.one := pow2_pos _
  rw [nearestWhole, Nat.mul_left_comm, Nat.mul_comm k, Nat.mul_add_div (by omega),
    Nat.div_eq_of_lt (by omega), Nat.add_zero]

/-- How far a count of units exceeds a significand. -/
def excess (f : Format) (n : Nat) : Nat := n.log2 - f.fractionBits

/-- A count of units in its own last place fills a significand, unless it is subnormal. -/
theorem significand_bounds (f : Format) (n : Nat) :
    n / pow2 (f.excess n) < 2 * pow2 f.fractionBits ∧
      (f.excess n = 0 ∨ pow2 f.fractionBits ≤ n / pow2 (f.excess n)) := by
  have last_pos : 0 < pow2 (f.excess n) := pow2_pos _
  constructor
  · have bits : n.log2 + 1 ≤ f.fractionBits + 1 + f.excess n := by
      unfold excess
      omega
    rw [Nat.div_lt_iff_lt_mul last_pos, ← pow2_succ, ← pow2_add]
    exact Nat.lt_of_lt_of_le (lt_pow2_log2 n) (pow2_le bits)
  · rcases Nat.eq_zero_or_pos (f.excess n) with none | some
    · exact .inl none
    · have bits : n.log2 = f.fractionBits + f.excess n := by
        unfold excess at some ⊢
        omega
      have positive : 0 < n := by
        rcases Nat.eq_zero_or_pos n with rfl | positive
        · rw [excess, Nat.log2_zero, Nat.zero_sub] at some
          exact absurd some (Nat.lt_irrefl 0)
        · exact positive
      have above := pow2_log2_le positive
      rw [bits, pow2_add] at above
      exact .inr ((Nat.le_div_iff_mul_le last_pos).mpr above)

/-- The pattern that a count of units rounds to, without the bound of the format. -/
def roundedPattern (f : Format) (n : Nat) : Nat :=
  f.excess n * pow2 f.fractionBits + roundDiv n (pow2 (f.excess n))

theorem roundUnits_of_finite {n : Nat} (finite : f.roundedPattern n < f.infinity) :
    f.roundUnits n 1 = f.roundedPattern n := by
  rw [roundUnits, Nat.div_one, Nat.one_mul]
  exact Nat.min_eq_left (Nat.le_of_lt finite)

theorem units_roundedPattern (f : Format) (n : Nat) :
    f.units (f.roundedPattern n) = roundDiv n (pow2 (f.excess n)) * pow2 (f.excess n) := by
  obtain ⟨room, normal⟩ := f.significand_bounds n
  obtain ⟨atLeast, atMost⟩ := roundDiv_between n (pow2 (f.excess n))
  exact units_of_significand (normal.imp_right (Nat.le_trans · atLeast)) (by omega)

/-- A count of units that is a whole number of its own last place is not rounded. -/
theorem units_roundUnits {n : Nat} (whole : pow2 (f.excess n) ∣ n)
    (inRange : f.excess n + 2 ≤ pow2 f.exponentBits - 1) :
    f.roundUnits n 1 < f.infinity ∧ f.units (f.roundUnits n 1) = n := by
  have last_pos : 0 < pow2 (f.excess n) := pow2_pos _
  have rounded : roundDiv n (pow2 (f.excess n)) = n / pow2 (f.excess n) :=
    roundDiv_of_dvd last_pos whole
  have finite : f.roundedPattern n < f.infinity := by
    have room := (f.significand_bounds n).1
    have room' := Nat.mul_le_mul_right (pow2 f.fractionBits) inRange
    rw [Nat.add_mul] at room'
    unfold roundedPattern infinity
    omega
  rw [roundUnits_of_finite finite, units_roundedPattern, rounded, Nat.div_mul_cancel whole]
  exact ⟨finite, rfl⟩

theorem excess_le {n bits : Nat} (below : n < pow2 (f.fractionBits + 1 + bits)) :
    f.excess n ≤ bits := by
  unfold excess
  rcases Nat.eq_zero_or_pos n with rfl | positive
  · rw [Nat.log2_zero]
    omega
  · have := (Nat.log2_lt (Nat.ne_of_gt positive)).mpr below
    omega

theorem pow2_dvd_units (f : Format) (pattern : Nat) :
    pow2 (pattern / pow2 f.fractionBits - 1) ∣ f.units pattern := by
  rcases Nat.eq_zero_or_pos (pattern / pow2 f.fractionBits) with subnormal | normal
  · rw [subnormal, Nat.zero_sub, pow2_zero]
    exact Nat.one_dvd _
  · simp only [units, if_neg (Nat.ne_of_gt normal)]
    exact Nat.dvd_mul_left _ _

theorem units_lt (f : Format) (pattern : Nat) :
    f.units pattern < pow2 (f.fractionBits + 1 + (pattern / pow2 f.fractionBits - 1)) := by
  have fraction : pattern % pow2 f.fractionBits < pow2 f.fractionBits :=
    Nat.mod_lt _ (pow2_pos _)
  rcases Nat.eq_zero_or_pos (pattern / pow2 f.fractionBits) with subnormal | normal
  · simp only [units, subnormal, ↓reduceIte, Nat.zero_sub, Nat.add_zero, pow2_succ]
    omega
  · simp only [units, if_neg (Nat.ne_of_gt normal), pow2_add _ (_ - 1), pow2_succ]
    exact Nat.mul_lt_mul_of_pos_right (by omega) (pow2_pos _)

theorem excess_of_whole {m bits last : Nat} (small : m < pow2 bits)
    (room : bits + f.unitBits ≤ f.fractionBits + 1 + last) : f.excess (m * f.one) ≤ last := by
  refine excess_le (Nat.lt_of_lt_of_le ?_ (pow2_le room))
  rw [pow2_add, one]
  exact Nat.mul_lt_mul_of_pos_right small (pow2_pos _)

theorem excess_dvd_of_small {m : Nat} (small : m ≤ 2 * pow2 f.fractionBits) :
    f.excess (m * f.one) ≤ f.unitBits + 1 ∧ pow2 (f.excess (m * f.one)) ∣ m * f.one := by
  rw [← pow2_succ] at small
  rcases Nat.lt_or_ge m (pow2 (f.fractionBits + 1)) with inside | atBound
  · have atMost := excess_of_whole inside (Nat.le_refl _)
    exact ⟨Nat.le_succ_of_le atMost, Nat.dvd_mul_left_of_dvd (pow2_dvd atMost) m⟩
  · obtain rfl : m = pow2 (f.fractionBits + 1) := Nat.le_antisymm small atBound
    have below : pow2 (f.fractionBits + 1) < pow2 (f.fractionBits + 1 + 1) := by
      have := pow2_pos (f.fractionBits + 1)
      rw [pow2_succ (f.fractionBits + 1)]
      omega
    have atMost : f.excess (pow2 (f.fractionBits + 1) * f.one) ≤ f.unitBits + 1 :=
      excess_of_whole below (by omega)
    refine ⟨atMost, Nat.dvd_trans (pow2_dvd atMost) ?_⟩
    rw [one, ← pow2_add]
    exact pow2_dvd (by omega)

end Format

namespace Double

theorem magnitude_ofMagnitude {negative : Bool} {m : Nat} (small : m < Format.double.signBit) :
    (ofMagnitude negative m).magnitude = m ∧ (ofMagnitude negative m).isNegative = negative := by
  have size : 2 * Format.double.signBit = UInt64.size := rfl
  cases negative with
  | false =>
    have bits : (ofMagnitude false m).bits.toNat = m :=
      UInt64.toNat_ofNat_of_lt' (show m < UInt64.size by omega)
    rw [magnitude, isNegative, bits]
    exact ⟨Nat.mod_eq_of_lt small, decide_eq_false (Nat.not_le.mpr small)⟩
  | true =>
    have bits : (ofMagnitude true m).bits.toNat = Format.double.signBit + m :=
      UInt64.toNat_ofNat_of_lt' (show Format.double.signBit + m < UInt64.size by omega)
    rw [magnitude, isNegative, bits]
    exact ⟨(Nat.add_mod_left _ m).trans (Nat.mod_eq_of_lt small),
      decide_eq_true (Nat.le_add_right _ m)⟩

theorem ofUnits_parts {negative : Bool} {n d : Nat}
    (bounded : Format.double.roundUnits n d < Format.double.infinity) :
    (ofUnits negative n d).isFinite = true ∧ (ofUnits negative n d).isNegative = negative ∧
      (ofUnits negative n d).magnitude = Format.double.roundUnits n d := by
  have inWord : Format.double.infinity < Format.double.signBit := by decide
  obtain ⟨magnitude_eq, sign_eq⟩ :=
    @magnitude_ofMagnitude negative _ (Nat.lt_trans bounded inWord)
  rw [isFinite, ofUnits, magnitude_eq, sign_eq]
  exact ⟨decide_eq_true bounded, rfl, rfl⟩

structure Exact (n : Int) : Prop where
  whole : pow2 (Format.double.excess (n.natAbs * Format.double.one)) ∣
    n.natAbs * Format.double.one
  inRange : Format.double.excess (n.natAbs * Format.double.one) + 2 ≤
    pow2 Format.double.exponentBits - 1

theorem exact_of_small {n : Int} (small : n.natAbs ≤ pow2 53) : Exact n := by
  have significand : n.natAbs ≤ 2 * pow2 Format.double.fractionBits := small
  obtain ⟨atMost, whole⟩ := Format.excess_dvd_of_small significand
  have exponents : Format.double.unitBits + 1 + 2 ≤ pow2 Format.double.exponentBits - 1 := by decide
  exact ⟨whole, by omega⟩

theorem exact_of_units {x : Double} {n : Int} (finite : x.magnitude < Format.double.infinity)
    (same : Format.double.units x.magnitude = n.natAbs * Format.double.one) : Exact n := by
  have exponent : x.magnitude / pow2 Format.double.fractionBits <
      pow2 Format.double.exponentBits - 1 := Nat.div_lt_of_lt_mul (Nat.mul_comm _ _ ▸ finite)
  have last := Format.pow2_dvd_units Format.double x.magnitude
  have atMost := Format.excess_le (Format.units_lt Format.double x.magnitude)
  have exponents : 3 ≤ pow2 Format.double.exponentBits - 1 := by decide
  rw [same] at last atMost
  exact ⟨Nat.dvd_trans (pow2_dvd atMost) last, by omega⟩

theorem Exact.ofInt {n : Int} (exact : Exact n) :
    (ofInt n).isFinite = true ∧ (ofInt n).isNegative = decide (n < 0) ∧
      Format.double.units (ofInt n).magnitude = n.natAbs * Format.double.one := by
  obtain ⟨bounded, units_eq⟩ := Format.units_roundUnits exact.whole exact.inRange
  obtain ⟨finite, sign, pattern⟩ := @ofUnits_parts (n < 0) _ _ bounded
  exact ⟨finite, sign, (congrArg Format.double.units pattern).trans units_eq⟩

theorem round?_of_finite {x : Double} (finite : x.isFinite = true) :
    x.round? = some (if x.isNegative then
      -(Format.double.nearestWhole (Format.double.units x.magnitude) : Int)
    else Format.double.nearestWhole (Format.double.units x.magnitude)) := by
  have quotient (units one : Nat) :
      (2 * units + one : Int) / (2 * one) = ((2 * units + one) / (2 * one) : Nat) := rfl
  rw [round?, if_pos finite, Format.nearestWhole, ← quotient]

theorem Exact.round?_ofInt {n : Int} (exact : Exact n) : (Double.ofInt n).round? = some n := by
  obtain ⟨finite, sign, units⟩ := exact.ofInt
  rw [round?_of_finite finite, sign, units, Format.nearestWhole_mul_one]
  simp only [decide_eq_true_eq]
  congr 1
  split <;> omega

theorem round?_ofInt {n : Int} (small : n.natAbs ≤ pow2 53) : (ofInt n).round? = some n :=
  (exact_of_small small).round?_ofInt

theorem isFinite_of_round? {x : Double} {n : Int} (rounded : x.round? = some n) :
    x.isFinite = true := by
  unfold round? at rounded
  split at rounded
  · assumption
  · cases rounded

theorem natAbs_of_round? {x : Double} {n : Int} (rounded : x.round? = some n) :
    n.natAbs = Format.double.nearestWhole (Format.double.units x.magnitude) := by
  obtain rfl := Option.some.inj
    ((round?_of_finite (isFinite_of_round? rounded)).symm.trans rounded)
  rw [apply_ite Int.natAbs, Int.natAbs_neg, ite_self, Int.natAbs_natCast]

/-- The whole number nearest to a double is a double itself: a double with a fraction is small, and
any other is whole. -/
theorem exact_of_round? {x : Double} {n : Int} (rounded : x.round? = some n) : Exact n := by
  have finite : x.magnitude < Format.double.infinity :=
    of_decide_eq_true (isFinite_of_round? rounded)
  have nearest := natAbs_of_round? rounded
  have one_pos : 0 < Format.double.one := pow2_pos _
  rcases Nat.lt_or_ge (x.magnitude / pow2 Format.double.fractionBits - 1) Format.double.unitBits
    with fractional | isWhole
  · -- The last place is a fraction, so that the nearest number has room in a significand.
    have small : Format.double.units x.magnitude <
        pow2 Format.double.fractionBits * Format.double.one := by
      rw [Format.one, ← pow2_add]
      exact Nat.lt_of_lt_of_le (Format.units_lt Format.double x.magnitude) (pow2_le (by omega))
    have quotient : n.natAbs < pow2 Format.double.fractionBits + 1 := by
      rw [nearest, Format.nearestWhole, Nat.div_lt_iff_lt_mul (by omega), Nat.mul_left_comm,
        Nat.add_mul]
      omega
    have significand : pow2 Format.double.fractionBits ≤ pow2 53 := pow2_le (by decide)
    exact exact_of_small (by omega)
  · -- The last place is whole, so that the nearest number is the double itself.
    have last := Format.pow2_dvd_units Format.double x.magnitude
    obtain ⟨k, multiple⟩ : Format.double.one ∣ Format.double.units x.magnitude :=
      Nat.dvd_trans (pow2_dvd isWhole) last
    have same : n.natAbs * Format.double.one = Format.double.units x.magnitude := by
      rw [Nat.mul_comm] at multiple
      rw [nearest, multiple, Format.nearestWhole_mul_one]
    exact exact_of_units finite same.symm

theorem round?_ofInt_of_round? {x : Double} {n : Int} (rounded : x.round? = some n) :
    (ofInt n).round? = some n :=
  (exact_of_round? rounded).round?_ofInt

end Double

end VectorClient.Number
