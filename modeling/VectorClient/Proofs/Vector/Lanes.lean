import VectorClient.Proofs.Chunks
import VectorClient.Proofs.Number.Rounding
import VectorClient.Proofs.Steps
import VectorClient.Vector.Lanes

/-!
# Lanes read back

What is written as lanes comes apart into the same lanes, and a number that has room in its lane is
read as that number.
-/

namespace VectorClient

namespace Wire

open Number

theorem length_littleEndian (count n : Nat) : (littleEndian count n).length = count := by
  induction count generalizing n with
  | zero => rfl
  | succ count ih => rw [littleEndian, List.length_cons, ih]

theorem ofLittleEndian_littleEndian {count n : Nat} (small : n < pow2 (8 * count)) :
    ofLittleEndian (littleEndian count n) = n := by
  induction count generalizing n with
  | zero =>
    have none : n = 0 := Nat.lt_one_iff.mp small
    rw [none]
    rfl
  | succ count ih =>
    have shift : pow2 (8 * (count + 1)) = pow2 (8 * count) * 256 := pow2_add (8 * count) 8
    have rest : n / 256 < pow2 (8 * count) := Nat.div_lt_of_lt_mul (by omega)
    have low : (UInt8.ofNat (n % 256)).toNat = n % 256 :=
      UInt8.toNat_ofNat_of_lt' (Nat.mod_lt _ (by decide))
    rw [littleEndian, ofLittleEndian, ih rest, low]
    exact Nat.mod_add_div n 256

theorem ofLittleEndian_lt (b : Bytes) : ofLittleEndian b < pow2 (8 * b.length) := by
  induction b with
  | nil => exact Nat.one_pos
  | cons byte rest ih =>
    have shift : pow2 (8 * (rest.length + 1)) = pow2 (8 * rest.length) * 256 :=
      pow2_add (8 * rest.length) 8
    have low := byte.toNat_lt
    rw [ofLittleEndian, List.length_cons, shift]
    omega

theorem littleEndian_ofLittleEndian (b : Bytes) :
    littleEndian b.length (ofLittleEndian b) = b := by
  induction b with
  | nil => rfl
  | cons byte rest ih =>
    have small := byte.toNat_lt
    have low : (byte.toNat + 256 * ofLittleEndian rest) % 256 = byte.toNat := by omega
    have high : (byte.toNat + 256 * ofLittleEndian rest) / 256 = ofLittleEndian rest := by omega
    rw [ofLittleEndian, List.length_cons, littleEndian, low, high, ih, UInt8.ofNat_toNat]

end Wire

namespace Vector

open Number Wire

variable {α : Type}

theorem length_flatMap_littleEndian (size : Nat) (f : α → Nat) (xs : List α) :
    (xs.flatMap fun a => littleEndian size (f a)).length = size * xs.length := by
  induction xs with
  | nil => rfl
  | cons a rest ih =>
    rw [List.flatMap_cons, List.length_append, length_littleEndian, ih, List.length_cons,
      Nat.mul_succ, Nat.add_comm]

theorem lanes_flatMap {size : Nat} (positive : 0 < size) {f : α → Nat}
    (small : ∀ a, f a < pow2 (8 * size)) (xs : List α) :
    lanes size (xs.flatMap fun a => littleEndian size (f a)) = .ok (xs.map f) := by
  have whole := length_flatMap_littleEndian size f xs
  rw [lanes, if_pos (whole ▸ Nat.mul_mod_right size xs.length),
    chunks_flatMap positive fun a => length_littleEndian size (f a), List.map_map]
  exact congrArg Except.ok (List.map_congr_left fun a _ => ofLittleEndian_littleEndian (small a))

theorem lanes_ok {size : Nat} {b : Bytes} {ns : List Nat} :
    lanes size b = .ok ns ↔ b.length % size = 0 ∧ ns = (chunks size b).map ofLittleEndian := by
  unfold lanes
  by_cases whole : b.length % size = 0
  · rw [if_pos whole, and_iff_right whole, Except.ok.injEq, eq_comm]
  · rw [if_neg whole]
    constructor
    · intro read
      cases read
    · intro ⟨divides, _⟩
      exact absurd divides whole

theorem lanes_accepts {size : Nat} {b : Bytes} :
    (∃ ns, lanes size b = .ok ns) ↔ size ∣ b.length := by
  simp only [lanes_ok, exists_and_left, exists_eq, and_true, Nat.dvd_iff_mod_eq_zero]

theorem lanes_error {size : Nat} {b : Bytes} {e : Error} :
    lanes size b = .error e ↔ b.length % size ≠ 0 ∧ e = .malformedVector b.length size := by
  unfold lanes
  by_cases whole : b.length % size = 0
  · rw [if_pos whole]
    exact ⟨nofun, fun ⟨split, _⟩ => absurd whole split⟩
  · rw [if_neg whole, and_iff_right whole, Except.error.injEq, eq_comm]

theorem flatMap_littleEndian_of_lanes {size : Nat} (positive : 0 < size) {b : Bytes}
    {ns : List Nat} (read : lanes size b = .ok ns) : ns.flatMap (littleEndian size) = b := by
  obtain ⟨whole, rfl⟩ := lanes_ok.mp read
  have each : ∀ lane ∈ chunks size b, littleEndian size (ofLittleEndian lane) = lane := by
    intro lane listed
    have length_eq := length_of_mem_chunks positive whole lane listed
    subst length_eq
    exact littleEndian_ofLittleEndian lane
  rw [List.flatMap_map, List.flatMap_def, List.map_congr_left each, List.map_id',
    flatten_chunks positive]

theorem lt_of_mem_lanes {size : Nat} (positive : 0 < size) {b : Bytes} {ns : List Nat}
    (read : lanes size b = .ok ns) : ∀ n ∈ ns, n < pow2 (8 * size) := by
  obtain ⟨whole, rfl⟩ := lanes_ok.mp read
  intro n listed
  obtain ⟨lane, member, rfl⟩ := List.mem_map.mp listed
  rw [← length_of_mem_chunks positive whole lane member]
  exact ofLittleEndian_lt lane

/-! ### Words in lanes -/

structure FillsLane (size : Nat) (bits : α → Nat) (ofBits : Nat → α) : Prop where
  positive : 0 < size
  bits_lt (a : α) : bits a < pow2 (8 * size)
  ofBits_bits (a : α) : ofBits (bits a) = a
  bits_ofBits {n : Nat} (small : n < pow2 (8 * size)) : bits (ofBits n) = n

theorem FillsLane.single :
    FillsLane 4 (fun x : Single => x.bits.toNat) fun n => ⟨UInt32.ofNat n⟩ where
  positive := by decide
  bits_lt x := x.bits.toNat_lt
  ofBits_bits _ := congrArg Single.mk UInt32.ofNat_toNat
  bits_ofBits small := UInt32.toNat_ofNat_of_lt' small

theorem FillsLane.double :
    FillsLane 8 (fun x : Double => x.bits.toNat) fun n => ⟨UInt64.ofNat n⟩ where
  positive := by decide
  bits_lt x := x.bits.toNat_lt
  ofBits_bits _ := congrArg Double.mk UInt64.ofNat_toNat
  bits_ofBits small := UInt64.toNat_ofNat_of_lt' small

section FillsLane

variable {size : Nat} {bits : α → Nat} {ofBits : Nat → α}

theorem FillsLane.read_written (fills : FillsLane size bits ofBits) (v : List α) :
    (lanes size (v.flatMap fun a => littleEndian size (bits a))).map (·.map ofBits) = .ok v := by
  have back : ∀ a ∈ v, (ofBits ∘ bits) a = a := fun a _ => fills.ofBits_bits a
  rw [lanes_flatMap fills.positive fills.bits_lt]
  refine congrArg Except.ok ((List.map_map ..).trans ?_)
  exact (List.map_congr_left back).trans (List.map_id' v)

theorem FillsLane.written_again (fills : FillsLane size bits ofBits) {b : Bytes} {v : List α}
    (read : (lanes size b).map (·.map ofBits) = .ok v) :
    (v.flatMap fun a => littleEndian size (bits a)) = b := by
  obtain ⟨ns, found, rfl⟩ := map_ok.mp read
  have each : ∀ n ∈ ns, littleEndian size (bits (ofBits n)) = littleEndian size n := by
    intro n listed
    rw [fills.bits_ofBits (lt_of_mem_lanes fills.positive found n listed)]
  rw [List.flatMap_map, List.flatMap_def, List.map_congr_left each, ← List.flatMap_def]
  exact flatMap_littleEndian_of_lanes fills.positive found

end FillsLane

/-! ### Singles and doubles -/

theorem length_encode (v : List Single) : (encode v).length = 4 * v.length :=
  length_flatMap_littleEndian 4 _ v

theorem decode_encode (v : List Single) : decode (encode v) = .ok v :=
  FillsLane.single.read_written v

theorem encode_of_decode {b : Bytes} {v : List Single} (read : decode b = .ok v) :
    encode v = b :=
  FillsLane.single.written_again read

theorem decode_error {b : Bytes} {e : Error} :
    decode b = .error e ↔ b.length % 4 ≠ 0 ∧ e = .malformedVector b.length 4 := by
  rw [decode, map_error, lanes_error]

theorem decodeDoubles_encodeDoubles (v : List Double) :
    decodeDoubles (encodeDoubles v) = .ok v :=
  FillsLane.double.read_written v

def doubleLane (lane : Bytes) : Double := ⟨UInt64.ofNat (ofLittleEndian lane)⟩

theorem decodeDoubles_ok {b : Bytes} {xs : List Double} :
    decodeDoubles b = .ok xs ↔ b.length % 8 = 0 ∧ xs = (chunks 8 b).map doubleLane := by
  have each : ((chunks 8 b).map ofLittleEndian).map (fun n => (⟨UInt64.ofNat n⟩ : Double)) =
      (chunks 8 b).map doubleLane := List.map_map
  rw [decodeDoubles, map_ok]
  constructor
  · rintro ⟨ns, found, rfl⟩
    obtain ⟨whole, rfl⟩ := lanes_ok.mp found
    exact ⟨whole, each⟩
  · rintro ⟨whole, rfl⟩
    exact ⟨_, lanes_ok.mpr ⟨whole, rfl⟩, each⟩

theorem fitsSigned_toInt (n : Int64) : fitsSigned 64 n.toInt = true := by
  rw [fitsSigned, Bool.and_eq_true, decide_eq_true_eq, decide_eq_true_eq]
  exact ⟨n.le_toInt, n.toInt_lt⟩

theorem toInt_ofInt_of_fits {k : Int} (fits : fitsSigned 64 k = true) :
    (Int64.ofInt k).toInt = k := by
  rw [fitsSigned, Bool.and_eq_true, decide_eq_true_eq, decide_eq_true_eq] at fits
  exact Int64.toInt_ofInt_of_le fits.1 fits.2

theorem decodeInt_ok {lane : Double} {n : Int64} :
    decodeInt lane = .ok n ↔ lane.round? = some n.toInt := by
  unfold decodeInt
  cases lane.round? with
  | none => exact ⟨nofun, nofun⟩
  | some k =>
    by_cases fits : fitsSigned 64 k = true
    · have exact_k := toInt_ofInt_of_fits fits
      simp only [if_pos fits, Except.ok.injEq, Option.some.injEq]
      rw [← Int64.toInt_inj, exact_k]
    · simp only [if_neg fits]
      refine ⟨nofun, fun same => ?_⟩
      obtain rfl := Option.some.inj same
      exact absurd (fitsSigned_toInt n) fits

theorem decodeInts_ok {b : Bytes} {ns : List Int64} :
    decodeInts b = .ok ns ↔ b.length % 8 = 0 ∧
      List.Forall₂ (fun lane (n : Int64) => (doubleLane lane).round? = some n.toInt)
        (chunks 8 b) ns := by
  rw [decodeInts, bind_ok]
  constructor
  · rintro ⟨xs, read, mapped⟩
    obtain ⟨whole, rfl⟩ := decodeDoubles_ok.mp read
    have each := mapM_ok_iff.mp mapped
    rw [List.forall₂_map_left_iff] at each
    exact ⟨whole, each.imp fun _ _ => decodeInt_ok.mp⟩
  · rintro ⟨whole, each⟩
    refine ⟨_, decodeDoubles_ok.mpr ⟨whole, rfl⟩, mapM_ok_iff.mpr ?_⟩
    rw [List.forall₂_map_left_iff]
    exact each.imp fun _ _ => decodeInt_ok.mpr

/-- Whole numbers that doubles hold exactly survive the lanes of doubles. -/
theorem decodeInts_encodeInts {v : List Int64}
    (held : ∀ n ∈ v, (Double.ofInt n.toInt).round? = some n.toInt) :
    decodeInts (encodeInts v) = .ok v := by
  rw [decodeInts, encodeInts, decodeDoubles_encodeDoubles]
  exact mapM_map_of_inverse fun n member => decodeInt_ok.mpr (held n member)

end Vector

end VectorClient
