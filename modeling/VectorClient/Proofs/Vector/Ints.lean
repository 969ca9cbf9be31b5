import VectorClient.Proofs.Number.Nearest
import VectorClient.Proofs.Vector.Lanes

/-!
# Whole numbers in lanes of doubles

Bytes are read as whole numbers iff each lane is finite and the number nearest to it fits 64 bits
with a sign. Whole numbers that are written and read again come back as the doubles nearest to them,
unless one of them rounds to a number that has no room. A word is a whole number of 64 bits with a
sign.
-/

namespace VectorClient.Vector

open Number Wire

/-! ### Reading -/

theorem fitsSigned_iff {n : Int} : fitsSigned 64 n = true ↔ -pow2 63 ≤ n ∧ n ≤ pow2 63 - 1 := by
  have bits : 64 - 1 = 63 := rfl
  rw [fitsSigned, Bool.and_eq_true, decide_eq_true_eq, decide_eq_true_eq, bits]
  omega

theorem exists_toInt_iff {P : Int → Prop} :
    (∃ n : Int64, P n.toInt) ↔ ∃ n : Int, P n ∧ -pow2 63 ≤ n ∧ n ≤ pow2 63 - 1 := by
  simp only [← fitsSigned_iff]
  constructor
  · rintro ⟨n, holds⟩
    exact ⟨n.toInt, holds, fitsSigned_toInt n⟩
  · rintro ⟨n, holds, fits⟩
    exact ⟨Int64.ofInt n, (toInt_ofInt_of_fits fits).symm ▸ holds⟩

theorem decodeInt_accepts {lane : Double} :
    (∃ n, decodeInt lane = .ok n) ↔
      ∃ n : Int, lane.RoundsTo n ∧ -pow2 63 ≤ n ∧ n ≤ pow2 63 - 1 := by
  simp only [decodeInt_ok, Double.round?_eq_some_iff, exists_toInt_iff]

theorem decodeInt_error {lane : Double} {e : Error} (failed : decodeInt lane = .error e) :
    e = .wireDecode (.intLane lane) := by
  unfold decodeInt at failed
  split at failed
  · split at failed
    · cases failed
    · exact (Except.error.inj failed).symm
  · exact (Except.error.inj failed).symm

theorem decodeDoubles_error {b : Bytes} {e : Error} :
    decodeDoubles b = .error e ↔ b.length % 8 ≠ 0 ∧ e = .malformedVector b.length 8 := by
  rw [decodeDoubles, map_error, lanes_error]

theorem decodeInts_of_split {b : Bytes} (split : ¬ 8 ∣ b.length) :
    decodeInts b = .error (.malformedVector b.length 8) := by
  have odd : b.length % 8 ≠ 0 := fun none => split (Nat.dvd_of_mod_eq_zero none)
  exact bind_error.mpr (.inl (decodeDoubles_error.mpr ⟨odd, rfl⟩))

theorem decodeInts_error {b : Bytes} {e : Error} (whole : 8 ∣ b.length)
    (failed : decodeInts b = .error e) : ∃ fault, e = .wireDecode fault := by
  obtain split | ⟨lanes, _, failed⟩ := bind_error.mp failed
  · exact absurd (Nat.mod_eq_zero_of_dvd whole) (decodeDoubles_error.mp split).1
  · obtain ⟨_, lane, _, _, _, refused⟩ := mapM_error_iff.mp failed
    exact ⟨_, decodeInt_error refused⟩

/-! ### The check within the doubles -/

/-- The first double past the words: the greatest word rounds to it. -/
def pastLast : Double := ⟨0x43e0000000000000⟩

/-- The last double that is a word. -/
def lastBelow : Double := ⟨0x43dfffffffffffff⟩

def leastInt : Double := ⟨0xc3e0000000000000⟩

theorem gap_le_pow2 : 1024 ≤ pow2 63 := by decide

theorem value?_pastLast : pastLast.value? = some ((pow2 63 : Int) * Format.double.one) := by
  decide +kernel

theorem value?_lastBelow : lastBelow.value? = some ((pow2 63 - 1024 : Int) * Format.double.one) := by
  decide +kernel

theorem value?_leastInt : leastInt.value? = some ((-pow2 63 : Int) * Format.double.one) := by
  decide +kernel

/-- A lane is rounded and compared with the ends of the words within the doubles, and its word is
taken from the rounded double. -/
def checkedInt (lane : Double) : Except Error Int64 :=
  if lane.rounded.isFinite ∧ (Double.ofInt Int64.minValue.toInt).units ≤ lane.rounded.units ∧
      lane.rounded.units < (Double.ofInt Int64.maxValue.toInt).units then
    .ok lane.rounded.clamped
  else .error (.wireDecode (.intLane lane))

theorem ofInt_minValue : Double.ofInt Int64.minValue.toInt = leastInt := by decide +kernel

theorem ofInt_maxValue : Double.ofInt Int64.maxValue.toInt = pastLast := by decide +kernel

theorem within_iff {x : Double} {n : Int} (value : x.value? = some (n * Format.double.one)) :
    (x.isFinite ∧ (Double.ofInt Int64.minValue.toInt).units ≤ x.units ∧
      x.units < (Double.ofInt Int64.maxValue.toInt).units) ↔ fitsSigned 64 n = true := by
  have one_pos : (0 : Int) < Format.double.one := Int.natCast_pos.mpr (pow2_pos _)
  have least := (Double.value?_eq_some.mp value?_leastInt).2
  have past := (Double.value?_eq_some.mp value?_pastLast).2
  obtain ⟨finite, units_eq⟩ := Double.value?_eq_some.mp value
  rw [ofInt_minValue, ofInt_maxValue, least, past, units_eq, fitsSigned_iff, and_iff_right finite,
    ← Int.not_le (a := _ * _), Int.mul_le_mul_iff_of_pos_right one_pos,
    Int.mul_le_mul_iff_of_pos_right one_pos]
  omega

theorem decodeInt_eq_checkedInt (lane : Double) : decodeInt lane = checkedInt lane := by
  unfold decodeInt checkedInt
  cases nearest : lane.round? with
  | none =>
    have infinite : ¬ lane.isFinite = true := by
      intro finite
      rw [Double.round?_of_finite finite] at nearest
      cases nearest
    rw [Double.rounded, if_neg infinite, if_neg fun within => infinite within.1]
  | some n =>
    have value := Double.value?_rounded nearest
    dsimp only
    by_cases fits : fitsSigned 64 n = true
    · rw [if_pos fits, if_pos ((within_iff value).mpr fits),
        Double.clamped_of_value? value (fitsSigned_iff.mp fits)]
    · rw [if_neg fits, if_neg ((within_iff value).not.mpr fits)]

/-- Bytes are read as whole numbers iff they divide into lanes that are finite and nearest to a
number in range, which is the number that is read. The check within the doubles is the same, and
the double that it casts has the value of the number, so that nothing is clamped. -/
theorem decodeInts_exact (b : Bytes) :
    ((∃ ns, decodeInts b = .ok ns) ↔ 8 ∣ b.length ∧ ∀ lane ∈ chunks 8 b,
      ∃ n : Int, (doubleLane lane).RoundsTo n ∧ -pow2 63 ≤ n ∧ n ≤ pow2 63 - 1) ∧
    (∀ ns, decodeInts b = .ok ns →
      List.Forall₂ (fun lane (n : Int64) => (doubleLane lane).RoundsTo n.toInt ∧
        (doubleLane lane).rounded.value? = some (n.toInt * Format.double.one)) (chunks 8 b) ns) ∧
    (¬ 8 ∣ b.length → decodeInts b = .error (.malformedVector b.length 8)) ∧
    (8 ∣ b.length → ∀ e, decodeInts b = .error e → ∃ fault, e = .wireDecode fault) ∧
    decodeInts b = decodeDoubles b >>= fun lanes => lanes.mapM checkedInt := by
  refine ⟨?_, ?_, decodeInts_of_split, fun whole _ => decodeInts_error whole, ?_⟩
  · simp only [decodeInts_ok, exists_and_left, exists_forall₂, Nat.dvd_iff_mod_eq_zero,
      ← exists_toInt_iff, Double.round?_eq_some_iff]
  · intro ns read
    refine (decodeInts_ok.mp read).2.imp fun _ _ nearest => ?_
    exact ⟨Double.round?_eq_some_iff.mp nearest, Double.value?_rounded nearest⟩
  · rw [decodeInts, funext decodeInt_eq_checkedInt]

/-- A negative half, the first double past the words, and a lane cut short. -/
theorem decodeInts_exact_half_and_end :
    let half : Bytes := [0, 0, 0, 0, 0, 0, 12, 192]
    let past : Bytes := [0, 0, 0, 0, 0, 0, 224, 67]
    (decodeInts half = .ok [-4] ∧ (doubleLane half).RoundsTo (-4)) ∧
    (∃ fault, decodeInts past = .error (.wireDecode fault)) ∧
    decodeInts [0] = .error (.malformedVector 1 8) := by
  intro half past
  have read : decodeInts half = .ok [-4] := by decide +kernel
  have failed : decodeInts past = .error (.wireDecode (.intLane pastLast)) := by decide +kernel
  obtain ⟨_, nearest, _⟩ := decodeInts_exact half
  obtain ⟨_, _, _, fault, _⟩ := decodeInts_exact past
  obtain ⟨_, _, split, _⟩ := decodeInts_exact [0]
  refine ⟨⟨read, (List.forall₂_cons.mp (nearest _ read)).1.1⟩, ?_, split (by decide)⟩
  rw [failed]
  exact (fault (by decide) _ failed).imp fun _ => congrArg Except.error

/-! ### Writing -/

/-- No double has a value between `2 ^ 63` and the double before it, which is odd. -/
theorem le_lastBelow {x : Double} {k : Int} (value : x.value? = some (k * Format.double.one))
    (nonneg : 0 ≤ k) (below : k < pow2 63) :
    k ≤ pow2 63 - 1024 ∧ (k = pow2 63 - 1024 → x.magnitude % 2 = 1) := by
  have one_pos : 0 < Format.double.one := pow2_pos _
  have ordered := Format.double.units_strictMono
  have same := (Double.magnitude_of_value? value).2
  have past := (Double.magnitude_of_value? value?_pastLast).2
  have last := (Double.magnitude_of_value? value?_lastBelow).2
  have next : pastLast.magnitude = lastBelow.magnitude + 1 := by decide
  have before : x.magnitude ≤ lastBelow.magnitude := by
    rw [← Nat.lt_succ_iff, Nat.succ_eq_add_one, ← next, ← ordered.lt_iff_lt, same, past]
    exact Nat.mul_lt_mul_of_pos_right (by omega) one_pos
  constructor
  · rw [← ordered.le_iff_le, same, last] at before
    have bounded := Nat.le_of_mul_le_mul_right before one_pos
    have gap := gap_le_pow2
    omega
  · rintro rfl
    rw [← last] at same
    rw [ordered.injective same]
    decide

theorem natAbs_toInt_lt (n : Int64) : n.toInt.natAbs < pow2 64 := by
  have bounds := fitsSigned_iff.mp (fitsSigned_toInt n)
  have size : pow2 64 = 2 * pow2 63 := pow2_succ 63
  omega

/-- The double nearest to a number fits iff the number is nearer to the last double that does. -/
theorem fits_iff {n : Int64} {k : Int}
    (value : (Double.ofInt n.toInt).value? = some (k * Format.double.one)) :
    (-pow2 63 ≤ k ∧ k ≤ pow2 63 - 1) ↔ n.toInt < pow2 63 - 512 := by
  have near := Double.isNearest_ofInt (natAbs_toInt_lt n)
  obtain ⟨above, tie⟩ := near.whole value value?_pastLast
  obtain ⟨below, _⟩ := near.whole value value?_lastBelow
  obtain ⟨least, _⟩ := near.whole value value?_leastInt
  have even : pastLast.magnitude % 2 = 0 := by decide
  have between := le_lastBelow value
  have gap := gap_le_pow2
  have bounds := fitsSigned_iff.mp (fitsSigned_toInt n)
  rw [even] at tie
  omega

theorem decodeInt_ofInt_ok {n k : Int64} :
    decodeInt (.ofInt n.toInt) = .ok k ↔
      (Double.ofInt n.toInt).value? = some (k.toInt * Format.double.one) := by
  rw [decodeInt_ok, Double.round?_eq_some_iff]
  refine ⟨fun rounds => ?_, Double.roundsTo_of_value?⟩
  obtain ⟨j, value⟩ := Double.exists_value_ofInt (natAbs_toInt_lt n)
  rwa [rounds.unique (Double.roundsTo_of_value? value)]

theorem decodeInt_ofInt_accepts {n : Int64} :
    (∃ k, decodeInt (.ofInt n.toInt) = .ok k) ↔ n.toInt < pow2 63 - 512 := by
  obtain ⟨j, value⟩ := Double.exists_value_ofInt (natAbs_toInt_lt n)
  have rounds := Double.roundsTo_of_value? value
  rw [decodeInt_accepts, ← fits_iff value]
  constructor
  · rintro ⟨k, other, fits⟩
    rwa [rounds.unique other]
  · intro fits
    exact ⟨j, rounds, fits⟩

theorem decodeInts_encodeInts_eq (ns : List Int64) :
    decodeInts (encodeInts ns) = ns.mapM fun n => decodeInt (.ofInt n.toInt) := by
  rw [decodeInts, encodeInts, decodeDoubles_encodeDoubles]
  exact List.mapM_map

theorem decodeInts_encodeInts_accepts (ns : List Int64) :
    (∃ ks, decodeInts (encodeInts ns) = .ok ks) ↔ ∀ n ∈ ns, n.toInt < pow2 63 - 512 := by
  simp only [decodeInts_encodeInts_eq, mapM_accepts, decodeInt_ofInt_accepts]

theorem decodeInts_encodeInts_refuses (ns : List Int64) :
    (∃ fault, decodeInts (encodeInts ns) = .error (.wireDecode fault)) ↔
      ∃ n ∈ ns, pow2 63 - 512 ≤ n.toInt := by
  have whole : 8 ∣ (encodeInts ns).length :=
    ⟨_, length_flatMap_littleEndian 8 _ _⟩
  rw [← not_iff_not]
  simp only [not_exists, not_and, Int.not_le, ← decodeInts_encodeInts_accepts]
  cases result : decodeInts (encodeInts ns) with
  | ok ks => exact ⟨fun _ => ⟨ks, rfl⟩, fun _ => nofun⟩
  | error e =>
    obtain ⟨fault, rfl⟩ := decodeInts_error whole result
    exact ⟨fun none => absurd rfl (none fault), nofun⟩

/-- Whole numbers that are written and read again are the doubles nearest to them, of which one may
be too large. They are the numbers that were written iff each of them has a double. -/
theorem decodeInts_encodeInts_exact (ns : List Int64) :
    ((∃ fault, decodeInts (encodeInts ns) = .error (.wireDecode fault)) ↔
      ∃ n ∈ ns, pow2 63 - 512 ≤ n.toInt) ∧
    ((∀ n ∈ ns, n.toInt < pow2 63 - 512) → ∃ ks, decodeInts (encodeInts ns) = .ok ks ∧
      List.Forall₂ (fun n (k : Int64) => (Double.ofInt n.toInt).IsNearest n.toInt ∧
        (Double.ofInt n.toInt).value? = some (k.toInt * Format.double.one)) ns ks) ∧
    (decodeInts (encodeInts ns) = .ok ns ↔ ∀ n ∈ ns, Representable n.toInt) ∧
    ((∀ n ∈ ns, n.toInt.natAbs ≤ pow2 53) → decodeInts (encodeInts ns) = .ok ns) := by
  have same : decodeInts (encodeInts ns) = .ok ns ↔ ∀ n ∈ ns, Representable n.toInt := by
    rw [decodeInts_encodeInts_eq, mapM_ok_iff, List.forall₂_same]
    simp only [decodeInt_ofInt_ok, Double.value?_ofInt_iff]
  refine ⟨decodeInts_encodeInts_refuses ns, fun below => ?_, same, fun small => ?_⟩
  · obtain ⟨ks, read⟩ := (decodeInts_encodeInts_accepts ns).mpr below
    refine ⟨ks, read, ?_⟩
    rw [decodeInts_encodeInts_eq, mapM_ok_iff] at read
    refine read.imp fun n k done => ?_
    exact ⟨Double.isNearest_ofInt (natAbs_toInt_lt n), decodeInt_ofInt_ok.mp done⟩
  · exact same.mpr fun n listed => Double.representable_of_small (small n listed)

/-- The ends of what a significand holds, a number past them beside the last one that is not too
large, and the first one that is. -/
theorem decodeInts_encodeInts_exact_at_ends :
    let kept : List Int64 := [9007199254740992, -9007199254740992]
    let rounded : List Int64 := [9007199254740993, 9223372036854775295]
    decodeInts (encodeInts kept) = .ok kept ∧
    (∃ ks, decodeInts (encodeInts rounded) = .ok ks ∧ ks ≠ rounded ∧
      List.Forall₂ (fun n (k : Int64) => (Double.ofInt n.toInt).IsNearest n.toInt ∧
        (Double.ofInt n.toInt).value? = some (k.toInt * Format.double.one)) rounded ks) ∧
    ∃ fault, decodeInts (encodeInts [0, 9223372036854775296]) = .error (.wireDecode fault) := by
  intro kept rounded
  obtain ⟨_, _, _, survives⟩ := decodeInts_encodeInts_exact kept
  obtain ⟨_, accepted, _, _⟩ := decodeInts_encodeInts_exact rounded
  obtain ⟨refused, _, _, _⟩ := decodeInts_encodeInts_exact [0, 9223372036854775296]
  have small : ∀ n ∈ kept, n.toInt.natAbs ≤ pow2 53 :=
    List.forall_mem_cons.mpr ⟨by decide, List.forall_mem_singleton.mpr (by decide)⟩
  have below : ∀ n ∈ rounded, n.toInt < pow2 63 - 512 :=
    List.forall_mem_cons.mpr ⟨by decide, List.forall_mem_singleton.mpr (by decide)⟩
  have past : (9223372036854775296 : Int64) ∈ [0, 9223372036854775296] := by decide
  obtain ⟨ks, read, nearest⟩ := accepted below
  have differs : decodeInts (encodeInts rounded) ≠ .ok rounded := by decide +kernel
  refine ⟨survives small, ⟨ks, read, ?_, nearest⟩, refused.mpr ⟨_, past, by decide⟩⟩
  rintro rfl
  exact differs read

end VectorClient.Vector
