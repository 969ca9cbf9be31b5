import VectorClient.Proofs.Vector.Lanes
import VectorClient.Wire.Decode

/-!
# Single values on the wire

What is written of a number, a text or a key is read from the front of any bytes that start with it,
and the bytes behind it are left.
-/

namespace VectorClient.Wire

open Number

/-! ### Numbers -/

theorem toNat_ofNat_of_byte {n : Nat} (byte : n < 256) : (UInt8.ofNat n).toNat = n :=
  UInt8.toNat_ofNat_of_lt' byte

/-- A number is read in as many groups as it takes; the last of them holds a single bit. -/
theorem readVarintGroups_varint (groups : Nat) :
    ∀ {n : Nat} (rest : Bytes), n < pow2 (7 * groups + 1) →
      readVarintGroups (groups + 1) (varint n ++ rest) = some (n, rest) := by
  induction groups with
  | zero =>
    intro n rest small
    have last : n < 2 := small
    rw [varint, if_pos (by omega), List.singleton_append, readVarintGroups,
      toNat_ofNat_of_byte (by omega), if_pos (by omega), if_neg (by omega)]
  | succ groups ih =>
    intro n rest small
    rw [varint]
    split
    · rename_i single
      rw [List.singleton_append, readVarintGroups, toNat_ofNat_of_byte (by omega), if_pos single,
        if_neg (by omega)]
    · rename_i several
      have higher : n / 128 < pow2 (7 * groups + 1) := by
        have group : pow2 (7 * (groups + 1) + 1) = pow2 (7 * groups + 1) * 128 := by
          rw [show 7 * (groups + 1) + 1 = 7 * groups + 1 + 7 by omega, pow2_add]
          rfl
        rw [Nat.div_lt_iff_lt_mul (by decide)]
        exact Nat.lt_of_lt_of_eq small group
      rw [List.cons_append, readVarintGroups, toNat_ofNat_of_byte (by omega), if_neg (by omega),
        ih rest higher]
      have whole : n % 128 + 128 - 128 + 128 * (n / 128) = n := by omega
      exact congrArg (fun m => some (m, rest)) whole

theorem readVarint_varint {n : Nat} (small : n < pow2 64) (rest : Bytes) :
    readVarint (varint n ++ rest) = some (n, rest) :=
  readVarintGroups_varint 9 rest small

theorem varint_ne_nil (n : Nat) : varint n ≠ [] := by
  rw [varint]
  split <;> exact List.cons_ne_nil _ _

theorem takeBytes?_append {count : Nat} {front : Bytes} (size : front.length = count)
    (rest : Bytes) : takeBytes? count (front ++ rest) = some (front, rest) := by
  subst size
  simp only [takeBytes?, List.take_left, List.drop_left, ↓reduceIte]

theorem readDelimited_delimited {b : Bytes} (small : b.length < pow2 64) (rest : Bytes) :
    readDelimited (delimited b ++ rest) = some (b, rest) := by
  rw [readDelimited, delimited, List.append_assoc, readVarint_varint small]
  exact takeBytes?_append rfl rest

theorem length_le_delimited (b : Bytes) : b.length ≤ (delimited b).length := by
  rw [delimited, List.length_append]
  exact Nat.le_add_left _ _

/-! ### Keys and texts -/

theorem WireType.ofNumber?_number (type : WireType) : ofNumber? type.number = some type := by
  cases type <;> rfl

theorem WireType.number_lt (type : WireType) : type.number < 8 := by
  cases type <;> decide

theorem key_ne_nil (tag : Nat) (type : WireType) : key tag type ≠ [] := varint_ne_nil _

theorem readKey_key {tag : Nat} (type : WireType) (positive : 0 < tag) (small : tag < pow2 29)
    (rest : Bytes) : readKey (key tag type ++ rest) = some (tag, type, rest) := by
  have numbered := type.number_lt
  have words : 8 * pow2 29 = UInt32.size := rfl
  have wide : UInt32.size ≤ pow2 64 := by decide
  have number : (8 * tag + type.number) % 8 = type.number := by omega
  have quotient : (8 * tag + type.number) / 8 = tag := by omega
  have fits : ¬UInt32.size ≤ 8 * tag + type.number := by omega
  rw [readKey, key, readVarint_varint (by omega)]
  simp only [Option.bind_eq_bind, Option.bind_some, if_neg fits, number,
    WireType.ofNumber?_number, quotient, if_neg (Nat.ne_of_gt positive)]
  rfl

theorem ofUtf8?_utf8 (s : String) : ofUtf8? (utf8 s) = some s := by
  have valid := s.isValidUTF8
  rw [ofUtf8?, utf8, Array.toArray_toList, String.fromUTF8?, dif_pos valid]
  rfl

theorem int32_of_signed (n : Int32) :
    Int32.ofInt ((n.toInt % (pow2 64 : Int)).toNat : Int) = n := by
  have nonneg : 0 ≤ n.toInt % (pow2 64 : Int) := Int.emod_nonneg _ (by decide)
  have low := n.le_toInt
  have high := n.toInt_lt
  have word : (pow2 64 : Int) = 18446744073709551616 := rfl
  rw [Int.toNat_of_nonneg nonneg, Int32.ofInt_eq_iff_bmod_eq_toInt, word, Int.bmod_def]
  omega

theorem int64_of_signed (n : Int64) :
    Int64.ofInt ((n.toInt % (pow2 64 : Int)).toNat : Int) = n := by
  have nonneg : 0 ≤ n.toInt % (pow2 64 : Int) := Int.emod_nonneg _ (by decide)
  have low := n.le_toInt
  have high := n.toInt_lt
  have word : (pow2 64 : Int) = 18446744073709551616 := rfl
  rw [Int.toNat_of_nonneg nonneg, Int64.ofInt_eq_iff_bmod_eq_toInt, word, Int.bmod_def]
  omega

theorem readVarint_signedVarint (n : Int) (rest : Bytes) :
    readVarint (signedVarint n ++ rest) = some ((n % (pow2 64 : Int)).toNat, rest) := by
  have nonneg : 0 ≤ n % (pow2 64 : Int) := Int.emod_nonneg _ (by decide)
  have below : n % (pow2 64 : Int) < pow2 64 := Int.emod_lt_of_pos _ (by decide)
  exact readVarint_varint (by omega) rest

/-! ### Values -/

/-- The kind of a value that is neither gathered nor a message. -/
def Datum.scalarKind? : Datum → Option Kind
  | .double _ => some .double
  | .float _ => some .float
  | .int32 _ => some .int32
  | .int64 _ => some .int64
  | .uint32 _ => some .uint32
  | .uint64 _ => some .uint64
  | .bool _ => some .bool
  | .string _ => some .string
  | .bytes _ => some .bytes
  | .list _ | .map _ | .message _ => none

section Values

variable {kind : Kind} {d : Datum}

theorem payload_ne_nil (scalar : d.scalarKind? = some kind) : d.payload kind ≠ [] := by
  have delimited_ne_nil (b : Bytes) : delimited b ≠ [] := fun empty =>
    varint_ne_nil _ (List.append_eq_nil_iff.mp empty).1
  cases d with
  | double x | float x => exact List.cons_ne_nil _ _
  | int32 n | int64 n | uint32 n | uint64 n | bool b => exact varint_ne_nil _
  | string s | bytes b => exact delimited_ne_nil _
  | _ => cases scalar

/-- Lengths are words, so that a value is read back unless it is longer than a word can say. -/
theorem readScalar_payload (scalar : d.scalarKind? = some kind)
    (small : (d.payload kind).length < pow2 64) (rest : Bytes) :
    readScalar kind (d.payload kind ++ rest) = some (d, rest) := by
  cases d with
  | double x =>
    obtain rfl := Option.some.inj scalar
    have word : x.bits.toNat < pow2 (8 * 8) := x.bits.toNat_lt
    simp only [readScalar, Datum.payload, takeBytes?_append (length_littleEndian 8 _),
      Option.map_some, ofLittleEndian_littleEndian word, UInt64.ofNat_toNat]
  | float x =>
    obtain rfl := Option.some.inj scalar
    have word : x.bits.toNat < pow2 (8 * 4) := x.bits.toNat_lt
    simp only [readScalar, Datum.payload, takeBytes?_append (length_littleEndian 4 _),
      Option.map_some, ofLittleEndian_littleEndian word, UInt32.ofNat_toNat]
  | int32 n =>
    obtain rfl := Option.some.inj scalar
    simp only [readScalar, Datum.payload, readVarint_signedVarint, Option.map_some, int32_of_signed]
  | int64 n =>
    obtain rfl := Option.some.inj scalar
    simp only [readScalar, Datum.payload, readVarint_signedVarint, Option.map_some, int64_of_signed]
  | uint32 n =>
    obtain rfl := Option.some.inj scalar
    have word : n.toNat < pow2 64 := Nat.lt_trans n.toNat_lt (by decide)
    simp only [readScalar, Datum.payload, readVarint_varint word, Option.map_some,
      UInt32.ofNat_toNat]
  | uint64 n =>
    obtain rfl := Option.some.inj scalar
    simp only [readScalar, Datum.payload, readVarint_varint n.toNat_lt, Option.map_some,
      UInt64.ofNat_toNat]
  | bool b =>
    obtain rfl := Option.some.inj scalar
    have word : b.toNat < pow2 64 := by cases b <;> decide
    simp only [readScalar, Datum.payload, readVarint_varint word, Option.map_some]
    cases b <;> rfl
  | string s =>
    obtain rfl := Option.some.inj scalar
    have short := Nat.lt_of_le_of_lt (length_le_delimited (utf8 s)) small
    rw [readScalar, Datum.payload, readDelimited_delimited short]
    simp only [Option.bind_eq_bind, Option.bind_some, ofUtf8?_utf8]
    rfl
  | bytes b =>
    obtain rfl := Option.some.inj scalar
    have short := Nat.lt_of_le_of_lt (length_le_delimited b) small
    rw [readScalar, Datum.payload, readDelimited_delimited short, Option.map_some]
  | _ => cases scalar

/-- Values behind each other are read up to the end, with fuel for every byte. -/
theorem readPacked_payloads {ds : List Datum} (scalars : ∀ d ∈ ds, d.scalarKind? = some kind) :
    ∀ {fuel : Nat}, (payloads kind ds).length < pow2 64 → (payloads kind ds).length ≤ fuel →
      readPacked kind fuel (payloads kind ds) = some ds := by
  induction ds with
  | nil =>
    intro fuel _ _
    cases fuel <;> rfl
  | cons d rest ih =>
    intro fuel small enough
    obtain ⟨scalar, others⟩ := List.forall_mem_cons.mp scalars
    rw [payloads, List.length_append] at small enough
    have progress := List.length_pos_of_ne_nil (payload_ne_nil scalar)
    cases fuel with
    | zero => omega
    | succ fuel =>
      obtain ⟨b, bs, front⟩ := List.exists_cons_of_ne_nil (payload_ne_nil scalar)
      have read := readScalar_payload scalar (by omega) (payloads kind rest)
      rw [payloads]
      rw [front, List.cons_append] at read ⊢
      have later : readPacked kind fuel (payloads kind rest) = some rest :=
        ih others (by omega) (by omega)
      simp only [readPacked, read, Option.bind_eq_bind, Option.bind_some, later]
      rfl

end Values

end VectorClient.Wire
