import VectorClient.Proofs.Vector.Reading
import VectorClient.Proofs.Vector.Rows

/-!
# Which bytes are rows

Bytes are read as rows iff there are none, or a dimension stands in front and whole rows of it
follow. Rows that were read have that dimension, and they are written as the bytes that they were
read from. Each other byte string is refused for the first rule that it breaks.
-/

namespace VectorClient.Vector

open Number Wire

inductive BrokenRows : Bytes → Error → Prop
  | noDimension {byte : UInt8} : BrokenRows [byte] (.malformedVector 1 2)
  | splitLane {low high : UInt8} {rest : Bytes} (split : ¬ 4 ∣ rest.length) :
      BrokenRows (low :: high :: rest) (.malformedVector rest.length 4)
  | zeroDimension {low high : UInt8} {rest : Bytes} (zero : ofLittleEndian [low, high] = 0)
      (lanes : 4 ∣ rest.length) (present : rest ≠ []) :
      BrokenRows (low :: high :: rest) (.wireDecode .dimensionZero)
  | splitRow {low high : UInt8} {rest : Bytes} (positive : 1 ≤ ofLittleEndian [low, high])
      (lanes : 4 ∣ rest.length) (split : ¬ 4 * ofLittleEndian [low, high] ∣ rest.length) :
      BrokenRows (low :: high :: rest)
        (.malformedVector rest.length (4 * ofLittleEndian [low, high]))

variable {b rest : Bytes} {low high : UInt8} {rows : List (List Single)} {v : List Single}

theorem eq_nil_of_decode (read : decode rest = .ok v) : v = [] ↔ rest = [] := by
  rw [← List.length_eq_zero_iff, ← List.length_eq_zero_iff, length_decode read]
  omega

theorem decodeMulti_error {e : Error} : decodeMulti b = .error e ↔ BrokenRows b e := by
  match b with
  | [] => exact ⟨nofun, nofun⟩
  | [byte] =>
    constructor
    · intro failed
      obtain rfl := Except.error.inj failed
      exact .noDimension
    · intro broken
      cases broken
      rfl
  | low :: high :: rest =>
    simp only [decodeMulti, bind_error, decode_error]
    constructor
    · rintro (⟨split, rfl⟩ | ⟨v, read, failed⟩)
      · exact .splitLane fun whole => split (Nat.mod_eq_zero_of_dvd whole)
      · have lanes := decode_accepts.mp ⟨v, read⟩
        split at failed
        · rename_i zero
          split at failed
          · cases failed
          · rename_i present
            obtain rfl := Except.error.inj failed
            exact .zeroDimension zero lanes ((eq_nil_of_decode read).not.mp present)
        · rename_i positive
          split at failed
          · cases failed
          · rename_i split
            obtain rfl := Except.error.inj failed
            rw [Nat.mul_comm]
            refine .splitRow (Nat.pos_of_ne_zero positive) lanes fun whole => split ?_
            rw [length_decode read] at whole
            exact Nat.mod_eq_zero_of_dvd (Nat.dvd_of_mul_dvd_mul_left (by decide) whole)
    · intro broken
      cases broken with
      | splitLane split => exact .inl ⟨fun none => split (Nat.dvd_of_mod_eq_zero none), rfl⟩
      | zeroDimension zero lanes present =>
        obtain ⟨v, read⟩ := decode_accepts.mpr lanes
        refine .inr ⟨v, read, ?_⟩
        rw [if_pos zero, if_neg ((eq_nil_of_decode read).not.mpr present)]
      | splitRow positive lanes split =>
        obtain ⟨v, read⟩ := decode_accepts.mpr lanes
        rw [length_decode read] at split
        have rows_split : ¬ v.length % ofLittleEndian [low, high] = 0 := fun none =>
          split (Nat.mul_dvd_mul_left 4 (Nat.dvd_of_mod_eq_zero none))
        refine .inr ⟨v, read, ?_⟩
        rw [if_neg (Nat.ne_of_gt positive), if_neg rows_split, Nat.mul_comm]

theorem dimension_le (low high : UInt8) : ofLittleEndian [low, high] ≤ maxDimension := by
  have words : pow2 16 = maxDimension + 1 := by decide
  have below : ofLittleEndian [low, high] < pow2 16 := ofLittleEndian_lt [low, high]
  omega

theorem encodeMulti_of_decodeMulti (read : decodeMulti (low :: high :: rest) = .ok rows)
    (present : rows ≠ []) :
    (∀ row ∈ rows, row.length = ofLittleEndian [low, high]) ∧
      encodeMulti rows = .ok (low :: high :: rest) := by
  obtain ⟨whole, v, lanes, rfl⟩ := decodeMulti_ok.mp read
  have fits := dimension_le low high
  have front : littleEndian 2 (ofLittleEndian [low, high]) = [low, high] :=
    littleEndian_ofLittleEndian [low, high]
  generalize ofLittleEndian [low, high] = dim at *
  rw [length_decode lanes] at whole
  have rows_whole : dim ∣ v.length := Nat.dvd_of_mul_dvd_mul_left (by decide) whole
  have positive : 0 < dim := by
    rcases Nat.eq_zero_or_pos dim with rfl | positive
    · obtain rfl := List.length_eq_zero_iff.mp (Nat.eq_zero_of_zero_dvd rows_whole)
      exact absurd rfl present
    · exact positive
  have lengths := length_of_mem_chunks positive (Nat.mod_eq_zero_of_dvd rows_whole)
  have dimension_eq := dimension_of_shared present lengths
  refine ⟨lengths, encodeMulti_ok.mpr ⟨?_, ?_, ?_⟩⟩
  · rwa [dimension_eq]
  · rwa [dimension_eq]
  · rw [dimension_eq, front, flatten_chunks positive, encode_of_decode lanes]
    rfl

theorem eq_nil_of_decodeMulti (read : decodeMulti (low :: high :: rest) = .ok rows) :
    rows = [] ↔ rest = [] := by
  obtain ⟨_, v, lanes, rfl⟩ := decodeMulti_ok.mp read
  rw [← eq_nil_of_decode lanes]
  constructor
  · intro none
    by_contra present
    cases v with
    | nil => exact present rfl
    | cons x others => cases none
  · rintro rfl
    rfl

theorem decodeMulti_accepts_iff :
    (∃ rows, decodeMulti b = .ok rows) ↔ b = [] ∨ ∃ low high rest, b = low :: high :: rest ∧
      (ofLittleEndian [low, high] = 0 ∧ rest = [] ∨
        1 ≤ ofLittleEndian [low, high] ∧ 4 * ofLittleEndian [low, high] ∣ rest.length) := by
  match b with
  | [] => exact ⟨fun _ => .inl rfl, fun _ => ⟨[], rfl⟩⟩
  | [_] => exact ⟨nofun, nofun⟩
  | low :: high :: rest =>
    rw [decodeMulti_accepts]
    constructor
    · intro whole
      refine .inr ⟨low, high, rest, rfl, ?_⟩
      rcases Nat.eq_zero_or_pos (ofLittleEndian [low, high]) with zero | positive
      · rw [zero, Nat.mul_zero, Nat.zero_dvd] at whole
        exact .inl ⟨zero, List.length_eq_zero_iff.mp whole⟩
      · exact .inr ⟨positive, whole⟩
    · rintro (none | ⟨_, _, _, same, ⟨_, rfl⟩ | ⟨_, whole⟩⟩)
      · cases none
      · cases same
        exact Nat.dvd_zero _
      · cases same
        exact whole

/-- Bytes are read as rows iff they are empty, or two of them are a dimension and the others are
rows of it. What is read is written as the same bytes, unless there are no rows. -/
theorem decodeMulti_exact (b : Bytes) :
    ((∃ rows, decodeMulti b = .ok rows) ↔ b = [] ∨ ∃ low high rest, b = low :: high :: rest ∧
      (ofLittleEndian [low, high] = 0 ∧ rest = [] ∨
        1 ≤ ofLittleEndian [low, high] ∧ 4 * ofLittleEndian [low, high] ∣ rest.length)) ∧
    (∀ e, decodeMulti b = .error e ↔ BrokenRows b e) ∧
    ∀ rows, decodeMulti b = .ok rows → (rows = [] ↔ b.length ≤ 2) ∧
      (rows ≠ [] → (∀ row ∈ rows, row.length = ofLittleEndian (b.take 2)) ∧
        encodeMulti rows = .ok b) := by
  refine ⟨decodeMulti_accepts_iff, fun e => decodeMulti_error, fun rows read => ?_⟩
  match b with
  | [] =>
    obtain rfl := Except.ok.inj read
    exact ⟨iff_of_true rfl (Nat.zero_le 2), fun present => absurd rfl present⟩
  | [_] => cases read
  | low :: high :: rest =>
    refine ⟨?_, encodeMulti_of_decodeMulti read⟩
    rw [eq_nil_of_decodeMulti read, ← List.length_eq_zero_iff, List.length_cons, List.length_cons]
    omega

/-- Two rows of one lane, the second not a number; a dimension cut short, a lane cut short, lanes
of no dimension, and a row of two lanes with only one. -/
theorem decodeMulti_exact_rows_and_faults :
    (∃ rows, decodeMulti [1, 0, 0, 0, 128, 63, 1, 0, 192, 127] = .ok rows ∧ rows ≠ [] ∧
      (∀ row ∈ rows, row.length = 1) ∧
      encodeMulti rows = .ok [1, 0, 0, 0, 128, 63, 1, 0, 192, 127]) ∧
    decodeMulti [1] = .error (.malformedVector 1 2) ∧
    decodeMulti [0, 0, 0, 0, 0] = .error (.malformedVector 3 4) ∧
    decodeMulti [0, 0, 0, 0, 0, 0] = .error (.wireDecode .dimensionZero) ∧
    decodeMulti [2, 0, 0, 0, 0, 0] = .error (.malformedVector 4 8) := by
  obtain ⟨accepted, _, result⟩ := decodeMulti_exact [1, 0, 0, 0, 128, 63, 1, 0, 192, 127]
  have whole : 1 ≤ ofLittleEndian [1, 0] ∧ 4 * ofLittleEndian [1, 0] ∣ 8 := by decide
  obtain ⟨rows, read⟩ := accepted.mpr (.inr ⟨1, 0, _, rfl, .inr whole⟩)
  obtain ⟨empty_iff, written⟩ := result rows read
  have present : rows ≠ [] := fun none => absurd (empty_iff.mp none) (by decide)
  obtain ⟨lengths, same⟩ := written present
  have one : ofLittleEndian [1, 0] = 1 := by decide
  refine ⟨⟨rows, read, present, fun row listed => (lengths row listed).trans one, same⟩, ?_, ?_,
    ?_, ?_⟩
  · exact ((decodeMulti_exact _).2.1 _).mpr .noDimension
  · exact ((decodeMulti_exact _).2.1 _).mpr (.splitLane (by decide))
  · exact ((decodeMulti_exact _).2.1 _).mpr (.zeroDimension (by decide) (by decide) (by decide))
  · exact ((decodeMulti_exact _).2.1 _).mpr (.splitRow (by decide) (by decide) (by decide))

end VectorClient.Vector
