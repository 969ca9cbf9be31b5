import VectorClient.Proofs.Vector.Lanes
import VectorClient.Vector.Wire

/-!
# Which vectors are read

Bytes are read as a vector iff they divide into lanes, and as a multi-vector iff what follows the
dimension divides into rows of it. The vectors of an object are read iff each of them is.
-/

namespace VectorClient

open Number Wire

inductive Wire.Vectors.WellFormed (v : Vectors) : Prop
  | single (type : v.type = VectorValue.singleType ∨ v.type = VectorValue.unspecifiedType)
      (whole : 4 ∣ v.vectorBytes.length)
  | empty (type : v.type = VectorValue.multiType) (nothing : v.vectorBytes = [])
  | rows (type : v.type = VectorValue.multiType) {low high : UInt8} {rest : Bytes}
      (bytes : v.vectorBytes = low :: high :: rest)
      (whole : 4 * ofLittleEndian [low, high] ∣ rest.length)

namespace Vector

variable {b : Bytes}

theorem decode_accepts : (∃ v, decode b = .ok v) ↔ 4 ∣ b.length := by
  rw [decode, map_accepts, lanes_accepts]

theorem length_decode {v : List Single} (read : decode b = .ok v) : b.length = 4 * v.length := by
  rw [← encode_of_decode read, length_encode]

theorem decodeMulti_ok {low high : UInt8} {rest : Bytes} {rows : List (List Single)} :
    decodeMulti (low :: high :: rest) = .ok rows ↔
      4 * ofLittleEndian [low, high] ∣ rest.length ∧
        ∃ v, decode rest = .ok v ∧ rows = chunks (ofLittleEndian [low, high]) v := by
  simp only [decodeMulti, bind_ok]
  generalize ofLittleEndian [low, high] = dim
  constructor
  · rintro ⟨v, read, cut⟩
    rw [length_decode read]
    split at cut
    · rename_i zero
      split at cut
      · rename_i empty
        subst empty
        exact ⟨Nat.dvd_zero _, [], read, (pure_ok cut).symm⟩
      · cases cut
    · split at cut
      · rename_i whole
        exact ⟨Nat.mul_dvd_mul_left 4 (Nat.dvd_of_mod_eq_zero whole), v, read, (pure_ok cut).symm⟩
      · cases cut
  · rintro ⟨whole, v, read, rfl⟩
    rw [length_decode read] at whole
    have rows_whole : dim ∣ v.length := Nat.dvd_of_mul_dvd_mul_left (by decide) whole
    refine ⟨v, read, ?_⟩
    by_cases zero : dim = 0
    · subst zero
      obtain rfl := List.length_eq_zero_iff.mp (Nat.eq_zero_of_zero_dvd rows_whole)
      rfl
    · rw [if_neg zero, if_pos (Nat.mod_eq_zero_of_dvd rows_whole)]
      rfl

theorem decodeMulti_accepts {low high : UInt8} {rest : Bytes} :
    (∃ rows, decodeMulti (low :: high :: rest) = .ok rows) ↔
      4 * ofLittleEndian [low, high] ∣ rest.length := by
  simp only [decodeMulti_ok]
  constructor
  · rintro ⟨_, whole, _⟩
    exact whole
  · intro whole
    obtain ⟨v, read⟩ := decode_accepts.mpr (Nat.dvd_trans (Nat.dvd_mul_right 4 _) whole)
    exact ⟨_, whole, v, read, rfl⟩

end Vector

theorem VectorValue.ofWire_accepts {v : Vectors} :
    (∃ value, VectorValue.ofWire v = .ok value) ↔ v.WellFormed := by
  rw [VectorValue.ofWire]
  split
  · rename_i type
    rw [map_accepts]
    constructor
    · rintro ⟨rows, read⟩
      match bytes : v.vectorBytes with
      | [] => exact .empty type bytes
      | [_] =>
        rw [bytes] at read
        cases read
      | low :: high :: rest =>
        rw [bytes] at read
        exact .rows type bytes (Vector.decodeMulti_accepts.mp ⟨rows, read⟩)
    · intro wellFormed
      cases wellFormed with
      | single other _ =>
        rw [type] at other
        exact absurd other (by decide)
      | empty _ nothing =>
        rw [nothing]
        exact ⟨[], rfl⟩
      | rows _ bytes whole =>
        rw [bytes]
        exact Vector.decodeMulti_accepts.mpr whole
  · rename_i not_multi
    split
    · rename_i type
      rw [map_accepts, Vector.decode_accepts]
      refine ⟨.single type, fun wellFormed => ?_⟩
      cases wellFormed with
      | single _ whole => exact whole
      | empty multi _ => exact absurd multi not_multi
      | rows multi _ _ => exact absurd multi not_multi
    · rename_i not_single
      refine ⟨nofun, fun wellFormed => ?_⟩
      cases wellFormed with
      | single type _ => exact absurd type not_single
      | empty multi _ => exact absurd multi not_multi
      | rows multi _ _ => exact absurd multi not_multi

theorem Vector.collect_accepts {named : List Vectors} {found : KeyMap VectorValue} :
    (∃ all, collect named found = .ok all) ↔ ∀ v ∈ named, v.WellFormed := by
  induction named generalizing found with
  | nil => exact ⟨fun _ => nofun, fun _ => ⟨found, rfl⟩⟩
  | cons v rest ih =>
    unfold collect at ih
    simp only [collect, List.foldlM_cons, bind_accepts, ih, exists_and_right, pure_accepts,
      and_true, VectorValue.ofWire_accepts, List.forall_mem_cons]

theorem Vector.decodeAll_accepts {anonymous : Bytes} {named : List Vectors} :
    (∃ all, decodeAll anonymous named = .ok all) ↔
      4 ∣ anonymous.length ∧ ∀ v ∈ named, v.WellFormed := by
  unfold decodeAll
  by_cases empty : anonymous = []
  · rw [if_pos empty, collect_accepts, empty]
    exact (and_iff_right (Nat.dvd_zero 4)).symm
  · rw [if_neg empty]
    simp only [bind_accepts, collect_accepts, exists_and_right, decode_accepts]

end VectorClient
