import VectorClient.Proofs.Vector.Wire

/-!
# Rows

The rows of a multi-vector are written iff they share a dimension that has room in front of them.
They are read as they were, except that rows without lanes leave nothing but their dimension.
-/

namespace VectorClient

open Number

/-! ### Which rows are written -/

/-- All rows have one dimension, which fits in front of them. -/
def VectorValue.IsEven : VectorValue → Prop
  | .single _ => True
  | .multi rows => ∃ dim ≤ Vector.maxDimension, ∀ row ∈ rows, row.length = dim

inductive VectorValue.Uneven : VectorValue → Error → Prop
  | ragged {rows : List (List Single)} {row other : List Single} (listed : row ∈ rows)
      (beside : other ∈ rows) (differ : row.length ≠ other.length) :
      Uneven (.multi rows) (.invalidInput .raggedRows)
  | large {rows : List (List Single)} {dim : Nat} (present : rows ≠ [])
      (shared : ∀ row ∈ rows, row.length = dim) (exceeds : Vector.maxDimension < dim) :
      Uneven (.multi rows) (.invalidInput (.dimensionTooLarge dim))

namespace Vector

variable {rows : List (List Single)}

theorem dimension_of_shared {dim : Nat} (present : rows ≠ [])
    (shared : ∀ row ∈ rows, row.length = dim) : dimension rows = dim := by
  cases rows with
  | nil => exact absurd rfl present
  | cons row rest => exact shared row List.mem_cons_self

theorem exists_dimension (present : rows ≠ []) : ∃ row ∈ rows, row.length = dimension rows := by
  cases rows with
  | nil => exact absurd rfl present
  | cons row rest => exact ⟨row, List.mem_cons_self, rfl⟩

theorem encodeMulti_accepts :
    (∃ bytes, encodeMulti rows = .ok bytes) ↔ (VectorValue.multi rows).IsEven := by
  simp only [encodeMulti_ok, exists_and_left, exists_eq, and_true, VectorValue.IsEven]
  constructor
  · rintro ⟨lengths, fits⟩
    exact ⟨dimension rows, fits, lengths⟩
  · rintro ⟨dim, fits, shared⟩
    by_cases empty : rows = []
    · subst empty
      exact ⟨nofun, Nat.zero_le _⟩
    · have same := dimension_of_shared empty shared
      rw [same]
      exact ⟨shared, fits⟩

theorem encodeMulti_error {e : Error} :
    encodeMulti rows = .error e ↔ (VectorValue.multi rows).Uneven e := by
  unfold encodeMulti
  constructor
  · intro failed
    dsimp only at failed
    split at failed
    · rename_i ragged
      obtain rfl := Except.error.inj failed
      simp only [List.any_eq_true, decide_eq_true_eq] at ragged
      obtain ⟨row, listed, differ⟩ := ragged
      obtain ⟨other, beside, same⟩ := exists_dimension (List.ne_nil_of_mem listed)
      exact .ragged listed beside (same ▸ differ)
    · rename_i even
      split at failed
      · rename_i exceeds
        obtain rfl := Except.error.inj failed
        have present : rows ≠ [] := by
          rintro rfl
          cases exceeds
        exact .large present (by simpa using even) exceeds
      · cases failed
  · intro uneven
    cases uneven with
    | ragged listed beside differ =>
      refine if_pos ?_
      by_contra even
      simp only [List.any_eq_true, decide_eq_true_eq, not_exists, not_and, not_not] at even
      exact differ ((even _ listed).trans (even _ beside).symm)
    | large present shared exceeds =>
      have same := dimension_of_shared present shared
      have even : ¬ rows.any (·.length ≠ dimension rows) = true := by
        rw [same]
        simpa using shared
      dsimp only
      rw [if_neg even, same, if_pos exceeds]

end Vector

namespace VectorValue

variable {name : String} {v : VectorValue}

theorem toWire_accepts : (∃ w, v.toWire name = .ok w) ↔ v.IsEven := by
  cases v with
  | single lanes => exact ⟨fun _ => trivial, fun _ => ⟨_, rfl⟩⟩
  | multi rows =>
    rw [← Vector.encodeMulti_accepts, toWire, bind_accepts]
    simp only [pure_accepts, and_true]

theorem toWire_error {e : Error} : v.toWire name = .error e ↔ v.Uneven e := by
  cases v with
  | single lanes => exact ⟨nofun, nofun⟩
  | multi rows =>
    rw [← Vector.encodeMulti_error, toWire, bind_error]
    exact or_iff_left fun ⟨_, _, failed⟩ => nomatch failed

end VectorValue

namespace Vector

open Wire

variable {rows : List (List Single)}

theorem length_encodeMulti {bytes : Bytes} {dim : Nat} (shared : ∀ row ∈ rows, row.length = dim)
    (written : encodeMulti rows = .ok bytes) : bytes.length = 2 + 4 * dim * rows.length := by
  obtain ⟨_, _, rfl⟩ := encodeMulti_ok.mp written
  rw [List.length_append, length_littleEndian, length_encode, length_flatten_of_shared shared,
    Nat.mul_comm rows.length, Nat.mul_assoc]

/-- Rows without lanes are written as their dimension alone. -/
theorem decodeMulti_encodeMulti_of_empty {bytes : Bytes} (empty : ∀ row ∈ rows, row.length = 0)
    (written : encodeMulti rows = .ok bytes) : decodeMulti bytes = .ok [] := by
  obtain ⟨_, _, rfl⟩ := encodeMulti_ok.mp written
  have none : rows.flatten = [] :=
    List.eq_nil_of_length_eq_zero (length_flatten_of_shared empty)
  have zero : dimension rows = 0 := by
    cases rows with
    | nil => rfl
    | cons row rest => exact empty row List.mem_cons_self
  rw [none, zero]
  rfl

theorem decodeMulti_encodeMulti_of_shared {bytes : Bytes} {dim : Nat}
    (shared : ∀ row ∈ rows, row.length = dim) (written : encodeMulti rows = .ok bytes) :
    decodeMulti bytes = .ok (if dim = 0 then [] else rows) := by
  by_cases zero : dim = 0
  · subst zero
    exact decodeMulti_encodeMulti_of_empty shared written
  · rw [if_neg zero]
    refine decodeMulti_encodeMulti written ?_
    by_cases none : rows = []
    · exact .inl none
    · rw [dimension_of_shared none shared]
      exact .inr (Nat.pos_of_ne_zero zero)

/-- Rows are written iff they share a dimension of at most 65535: two bytes for it and four for each
lane. They are read as they were if they have lanes, or if there are none. Other rows are refused as
invalid. -/
theorem encodeMulti_exact (rows : List (List Single)) :
    ((∃ bytes, encodeMulti rows = .ok bytes) ↔ ∃ dim ≤ 65535, ∀ row ∈ rows, row.length = dim) ∧
    (∀ bytes, encodeMulti rows = .ok bytes → ∀ dim, (∀ row ∈ rows, row.length = dim) →
      bytes.length = 2 + 4 * dim * rows.length ∧
        decodeMulti bytes = .ok (if dim = 0 then [] else rows)) ∧
    ∀ e, encodeMulti rows = .error e → ∃ fault, e = .invalidInput fault := by
  refine ⟨encodeMulti_accepts, ?_, ?_⟩
  · intro bytes written dim shared
    exact ⟨length_encodeMulti shared written, decodeMulti_encodeMulti_of_shared shared written⟩
  · intro e failed
    cases encodeMulti_error.mp failed with
    | ragged => exact ⟨_, rfl⟩
    | large => exact ⟨_, rfl⟩

/-- Two rows with a signed zero and a payload that is not a number, two rows without lanes, and two
rows of different lengths. -/
theorem encodeMulti_exact_signed :
    let lanes : List (List Single) := [[⟨0x80000000⟩, ⟨0x7fc00001⟩], [⟨0x3f800000⟩, ⟨0⟩]]
    (∃ bytes, encodeMulti lanes = .ok bytes ∧ bytes.length = 18 ∧ decodeMulti bytes = .ok lanes) ∧
      (∃ bytes, encodeMulti [[], []] = .ok bytes ∧ bytes.length = 2 ∧
        decodeMulti bytes = .ok []) ∧
      ∃ fault, encodeMulti [[⟨0⟩], []] = .error (.invalidInput fault) := by
  intro lanes
  obtain ⟨accepted, read, _⟩ := encodeMulti_exact lanes
  obtain ⟨empty_accepted, empty_read, _⟩ := encodeMulti_exact [[], []]
  obtain ⟨_, _, refused⟩ := encodeMulti_exact [[⟨0⟩], []]
  have pairs : ∀ row ∈ lanes, row.length = 2 := by decide
  have empty : ∀ row ∈ ([[], []] : List (List Single)), row.length = 0 := by decide
  obtain ⟨bytes, written⟩ := accepted.mpr ⟨2, by decide, pairs⟩
  obtain ⟨header, empty_written⟩ := empty_accepted.mpr ⟨0, by decide, empty⟩
  have failed : encodeMulti [[⟨0⟩], []] = .error (.invalidInput .raggedRows) := rfl
  obtain ⟨fault, same⟩ := refused _ failed
  exact ⟨⟨bytes, written, read bytes written 2 pairs⟩,
    ⟨header, empty_written, empty_read header empty_written 0 empty⟩,
    fault, same ▸ failed⟩

end Vector

end VectorClient
