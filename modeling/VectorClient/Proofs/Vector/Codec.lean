import Mathlib.Data.Set.Function
import VectorClient.Proofs.Vector.Lanes

/-!
# Lists and bytes

Lists of words and byte strings that divide into lanes correspond one to one: what is written is
read as it was, whatever patterns the words have, and what is read is written as the same bytes.
Other byte strings are refused with their length and the size of a lane.
-/

namespace VectorClient

open Number

namespace Wire

theorem getElem?_littleEndian {count k : Nat} (inside : k < count) (n : Nat) :
    (littleEndian count n)[k]? = some (UInt8.ofNat (n / pow2 (8 * k) % 256)) := by
  induction count generalizing n k with
  | zero => exact absurd inside (Nat.not_lt_zero k)
  | succ count ih =>
    cases k with
    | zero =>
      rw [littleEndian, List.getElem?_cons_zero, Nat.mul_zero, pow2_zero, Nat.div_one]
    | succ k =>
      have shift : pow2 (8 * (k + 1)) = 256 * pow2 (8 * k) :=
        (pow2_add (8 * k) 8).trans (Nat.mul_comm _ _)
      rw [littleEndian, List.getElem?_cons_succ, ih (Nat.lt_of_succ_lt_succ inside), shift,
        Nat.div_div_eq_div_mul]

end Wire

namespace Vector

open Wire

variable {α : Type} {size : Nat} {bits : α → Nat} {ofBits : Nat → α}

structure IsLaneCodec (size : Nat) (bits : α → Nat) (write : List α → Bytes)
    (read : Bytes → Except Error (List α)) : Prop where
  length_write (v : List α) : (write v).length = size * v.length
  byte_write (v : List α) (i : Nat) {k : Nat} (inside : k < size) :
    (write v)[size * i + k]? = v[i]?.map fun a => UInt8.ofNat (bits a / pow2 (8 * k) % 256)
  read_write (v : List α) : read (write v) = .ok v
  accepts (b : Bytes) : (∃ v, read b = .ok v) ↔ size ∣ b.length
  write_of_read {b : Bytes} {v : List α} (found : read b = .ok v) : write v = b
  refuses {b : Bytes} (split : ¬ size ∣ b.length) :
    read b = .error (.malformedVector b.length size)

/-! ### Lanes of words -/

theorem byte_flatMap_littleEndian (v : List α) (i : Nat) {k : Nat} (inside : k < size) :
    (v.flatMap fun a => littleEndian size (bits a))[size * i + k]? =
      v[i]?.map fun a => UInt8.ofNat (bits a / pow2 (8 * k) % 256) := by
  have positive : 0 < size := Nat.zero_lt_of_lt inside
  have lane : (size * i + k) / size = i := by
    rw [Nat.mul_add_div positive, Nat.div_eq_of_lt inside, Nat.add_zero]
  have place : (size * i + k) % size = k := by
    rw [Nat.mul_add_mod, Nat.mod_eq_of_lt inside]
  have bytes := getElem?_chunks positive (v.flatMap fun a => littleEndian size (bits a))
    (size * i + k)
  rw [chunks_flatMap positive fun a => length_littleEndian size (bits a), lane, place,
    List.getElem?_map] at bytes
  rw [← bytes]
  cases v[i]? with
  | none => rfl
  | some a => exact getElem?_littleEndian inside (bits a)

theorem FillsLane.isLaneCodec (fills : FillsLane size bits ofBits) :
    IsLaneCodec size bits (fun v => v.flatMap fun a => littleEndian size (bits a))
      fun b => (lanes size b).map (·.map ofBits) where
  length_write := length_flatMap_littleEndian size bits
  byte_write := byte_flatMap_littleEndian
  read_write := fills.read_written
  accepts b := map_accepts.trans lanes_accepts
  write_of_read := fills.written_again
  refuses split := by
    refine map_error.mpr (lanes_error.mpr ⟨?_, rfl⟩)
    intro whole
    exact split (Nat.dvd_of_mod_eq_zero whole)

theorem IsLaneCodec.bijOn {write : List α → Bytes} {read : Bytes → Except Error (List α)}
    (codec : IsLaneCodec size bits write read) :
    Set.BijOn write Set.univ {b | size ∣ b.length} := by
  refine ⟨?_, ?_, ?_⟩
  · intro v _
    rw [Set.mem_ofPred_eq, codec.length_write]
    exact Nat.dvd_mul_right size v.length
  · intro v _ w _ same
    have reads := codec.read_write v
    rw [same, codec.read_write w] at reads
    exact (Except.ok.inj reads).symm
  · intro b whole
    obtain ⟨v, found⟩ := (codec.accepts b).mpr whole
    exact ⟨v, Set.mem_univ v, codec.write_of_read found⟩

/-! ### Singles and doubles -/

/-- Singles are written as lanes of four bytes and doubles as lanes of eight. Both are read as they
were, bit for bit, and each byte string that divides into lanes is that of exactly one list. -/
theorem lanes_exact :
    (IsLaneCodec 4 (fun x : Single => x.bits.toNat) encode decode ∧
      Set.BijOn encode Set.univ {b | 4 ∣ b.length}) ∧
    IsLaneCodec 8 (fun x : Double => x.bits.toNat) encodeDoubles decodeDoubles ∧
      Set.BijOn encodeDoubles Set.univ {b | 8 ∣ b.length} := by
  have singles := FillsLane.single.isLaneCodec
  have doubles := FillsLane.double.isLaneCodec
  exact ⟨⟨singles, singles.bijOn⟩, doubles, doubles.bijOn⟩

/-- A negative zero beside a payload that is not a number, with the sign in the last byte of its
lane; a double that is not a number; and lanes that are cut short. -/
theorem lanes_exact_signed :
    decode (encode [⟨0x80000000⟩, ⟨0xffc12345⟩]) = .ok [⟨0x80000000⟩, ⟨0xffc12345⟩] ∧
    (encode [⟨0x80000000⟩, ⟨0xffc12345⟩])[4 * 0 + 3]? = some 128 ∧
    (∃ v, decode [0, 0, 0, 128, 69, 35, 193, 255] = .ok v ∧
      encode v = [0, 0, 0, 128, 69, 35, 193, 255]) ∧
    decode [0, 0, 128] = .error (.malformedVector 3 4) ∧
    decodeDoubles (encodeDoubles [⟨0x7ff0000000000001⟩]) = .ok [⟨0x7ff0000000000001⟩] ∧
    decodeDoubles [0, 0, 0, 128] = .error (.malformedVector 4 8) := by
  obtain ⟨⟨singles, _⟩, doubles, _⟩ := lanes_exact
  have whole : 4 ∣ ([0, 0, 0, 128, 69, 35, 193, 255] : Bytes).length := by decide
  obtain ⟨v, found⟩ := (singles.accepts _).mpr whole
  refine ⟨singles.read_write _, ?_, ⟨v, found, singles.write_of_read found⟩, ?_,
    doubles.read_write _, ?_⟩
  · exact singles.byte_write _ 0 (by decide)
  · exact singles.refuses (by decide)
  · exact doubles.refuses (by decide)

end Vector

end VectorClient
