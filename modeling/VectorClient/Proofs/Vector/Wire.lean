import VectorClient.Proofs.KeyMap
import VectorClient.Proofs.Vector.Lanes
import VectorClient.Vector.Wire

/-!
# Vectors read back

Rows are written iff they share a dimension that fits its prefix. A vector, or a multi-vector whose
rows have lanes, is read from its message as it was written, and so is a whole map of them.
-/

namespace VectorClient

open Number Wire

namespace Vector

variable {rows : List (List Single)} {bytes : Bytes}

theorem encode_flatten (rows : List (List Single)) :
    encode rows.flatten = rows.flatMap encode := by
  unfold encode
  rw [List.flatten_eq_flatMap, List.flatMap_assoc]
  rfl

theorem encodeMulti_ok :
    encodeMulti rows = .ok bytes ↔ (∀ row ∈ rows, row.length = dimension rows) ∧
      dimension rows ≤ maxDimension ∧
      bytes = littleEndian 2 (dimension rows) ++ encode rows.flatten := by
  have shared : rows.any (·.length ≠ dimension rows) = false ↔
      ∀ row ∈ rows, row.length = dimension rows := by simp
  simp only [encodeMulti, encode_flatten]
  split
  · rename_i ragged
    refine ⟨nofun, ?_⟩
    rintro ⟨lengths, _⟩
    rw [shared.mpr lengths] at ragged
    cases ragged
  · rename_i even
    have lengths := shared.mp (eq_false_of_ne_true even)
    split
    · rename_i tooLarge
      exact ⟨nofun, fun ⟨_, fits, _⟩ => absurd fits (Nat.not_le.mpr tooLarge)⟩
    · rename_i fits
      refine ⟨fun written => ⟨lengths, Nat.not_lt.mp fits, (Except.ok.inj written).symm⟩, ?_⟩
      rintro ⟨_, _, rfl⟩
      rfl

theorem length_flatten_of_shared {dim : Nat} (shared : ∀ row ∈ rows, row.length = dim) :
    rows.flatten.length = rows.length * dim := by
  rw [List.length_flatten, List.map_congr_left shared, List.map_const', List.sum_replicate_nat]

theorem decodeMulti_rows {dim : Nat} (positive : 0 < dim) (fits : dim ≤ maxDimension)
    (lengths : ∀ row ∈ rows, row.length = dim) :
    decodeMulti (littleEndian 2 dim ++ encode rows.flatten) = .ok rows := by
  have prefixed : ofLittleEndian (littleEndian 2 dim) = dim :=
    ofLittleEndian_littleEndian (Nat.lt_succ_of_le fits)
  have whole : rows.flatten.length % dim = 0 := by
    rw [length_flatten_of_shared lengths]
    exact Nat.mul_mod_left rows.length dim
  obtain ⟨low, high, same⟩ : ∃ low high, littleEndian 2 dim = [low, high] := ⟨_, _, rfl⟩
  rw [same] at prefixed ⊢
  change decode (encode rows.flatten) >>= _ = _
  rw [decode_encode, bind_ok]
  refine ⟨rows.flatten, rfl, ?_⟩
  simp only [prefixed]
  rw [if_neg (Nat.ne_of_gt positive), if_pos whole, chunks_flatten positive lengths]
  rfl

theorem decodeMulti_encodeMulti (written : encodeMulti rows = .ok bytes)
    (positive : rows = [] ∨ 0 < dimension rows) : decodeMulti bytes = .ok rows := by
  obtain ⟨lengths, fits, rfl⟩ := encodeMulti_ok.mp written
  obtain rfl | positive := positive
  · rfl
  · exact decodeMulti_rows positive fits lengths

end Vector

namespace VectorValue

variable {name : String} {value : VectorValue} {w : Wire.Vectors}

/-- Rows without lanes cannot be told from no rows. -/
def HasDimension : VectorValue → Prop
  | .single _ => True
  | .multi rows => rows = [] ∨ 0 < Vector.dimension rows

theorem hasDimension_of_filled (filled : value.isEmpty = false) : value.HasDimension := by
  cases value with
  | single v => trivial
  | multi rows =>
    cases rows with
    | nil => exact .inl rfl
    | cons row rest =>
      simp only [isEmpty, List.any_cons, Bool.or_eq_false_iff] at filled
      exact .inr (List.length_pos_iff.mpr (by simpa using filled.2.1))

theorem ofWire_toWire_of_dimension (written : value.toWire name = .ok w)
    (positive : value.HasDimension) : w.name = name ∧ ofWire w = .ok value := by
  cases value with
  | single v =>
    obtain rfl := Except.ok.inj written
    have differs : singleType ≠ multiType := by decide
    refine ⟨rfl, ?_⟩
    rw [ofWire, if_neg differs, if_pos (.inl rfl), Vector.decode_encode]
    rfl
  | multi rows =>
    obtain ⟨bytes, encoded, written⟩ := bind_ok.mp written
    obtain rfl := pure_ok written
    refine ⟨rfl, ?_⟩
    rw [ofWire, if_pos rfl, Vector.decodeMulti_encodeMulti encoded positive]
    rfl

theorem ofWire_toWire (written : value.toWire name = .ok w) (filled : value.isEmpty = false) :
    w.name = name ∧ ofWire w = .ok value :=
  ofWire_toWire_of_dimension written (hasDimension_of_filled filled)

end VectorValue

theorem Vector.decodeAll_singleton {w : Wire.Vectors} {value : VectorValue}
    (read : VectorValue.ofWire w = .ok value) : decodeAll [] [w] = .ok [(w.name, value)] := by
  rw [decodeAll, if_pos rfl, collect, List.foldlM_cons, read]
  rfl

/-- Messages that read as the entries of a map, in its order, are collected into that map. -/
theorem Vector.collect_entries (found : KeyMap VectorValue) {entries : KeyMap VectorValue}
    {named : List Wire.Vectors} (ordered : KeyMap.Ordered (found ++ entries))
    (each : List.Forall₂ (fun e (w : Wire.Vectors) =>
      w.name = e.1 ∧ VectorValue.ofWire w = .ok e.2) entries named) :
    collect named found = .ok (found ++ entries) := by
  induction each generalizing found with
  | nil =>
    rw [List.append_nil]
    rfl
  | @cons e w entries named first _ ih =>
    obtain ⟨name, value⟩ := e
    obtain ⟨rfl, read⟩ := first
    rw [List.append_cons] at ordered
    have last : found.insert w.name value = found ++ [(w.name, value)] :=
      KeyMap.insert_of_last (KeyMap.before_of_ordered ordered)
    rw [collect, List.foldlM_cons, read, List.append_cons, ← ih _ ordered, ← last]
    rfl

end VectorClient
