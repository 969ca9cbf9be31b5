import VectorClient.Proofs.Property.Reading
import VectorClient.Proofs.Vector.Reading
import VectorClient.Reply.Wire

/-!
# Which metadata is read

The metadata of an object is read iff it has an id, its vectors are well formed, and the times that
it marks as present are in range. What it does not mark has no influence.
-/

namespace VectorClient

open Wire

inductive Wire.MetadataResult.HasUuid (m : MetadataResult) : Prop
  | octets (present : m.idAsBytes ≠ []) {id : Uuid} (read : Uuid.ofOctets? m.idAsBytes = some id)
  | text (absent : m.idAsBytes = []) {id : Uuid} (read : Uuid.read? m.id = some id)

structure Wire.MetadataResult.Readable (m : MetadataResult) : Prop where
  uuid : m.HasUuid
  lanes : 4 ∣ m.vectorBytes.length
  vectors : ∀ v ∈ m.vectors, v.WellFormed
  creation : m.creationTimeUnixPresent = true →
    ∃ d, Date.ofMillis? m.creationTimeUnix.toInt = some d
  lastUpdate : m.lastUpdateTimeUnixPresent = true →
    ∃ d, Date.ofMillis? m.lastUpdateTimeUnix.toInt = some d

namespace Wire.MetadataResult

variable {m : MetadataResult}

theorem uuid_accepts : (∃ id, m.uuid = .ok id) ↔ m.HasUuid := by
  rw [uuid]
  split
  · rename_i present
    constructor
    · rintro ⟨id, read⟩
      split at read
      · rename_i octets
        exact .octets present octets
      · cases read
    · intro hasUuid
      cases hasUuid with
      | octets _ read => exact ⟨_, by rw [read]⟩
      | text absent _ => exact absurd absent present
  · rename_i absent
    have nothing : m.idAsBytes = [] := not_not.mp absent
    split
    · rename_i empty
      refine ⟨nofun, fun hasUuid => ?_⟩
      cases hasUuid with
      | octets present _ => exact absurd present absent
      | text _ read =>
        rw [empty] at read
        cases read
    · simp only [readUuid_ok]
      refine ⟨fun ⟨id, read⟩ => .text nothing read, fun hasUuid => ?_⟩
      cases hasUuid with
      | octets present _ => exact absurd present absent
      | text _ read => exact ⟨_, read⟩

theorem vectorMap_accepts :
    (∃ all, m.vectorMap = .ok all) ↔ 4 ∣ m.vectorBytes.length ∧ ∀ v ∈ m.vectors, v.WellFormed := by
  rw [← Vector.decodeAll_accepts, vectorMap, bind_accepts]
  refine exists_congr fun found => and_iff_left ?_
  split <;> exact ⟨_, rfl⟩

end Wire.MetadataResult

theorem readMillis_ok {millis : Int64} {d : Date} :
    readMillis millis = .ok d ↔ Date.ofMillis? millis.toInt = some d := by
  unfold readMillis
  cases Date.ofMillis? millis.toInt <;> simp

theorem readMillisWhen_accepts {present : Bool} {millis : Int64} :
    (∃ d, readMillisWhen present millis = .ok d) ↔
      (present = true → ∃ d, Date.ofMillis? millis.toInt = some d) := by
  cases present with
  | false => exact ⟨fun _ => nofun, fun _ => ⟨none, rfl⟩⟩
  | true =>
    rw [readMillisWhen, if_pos rfl, map_accepts, forall_prop_of_true rfl]
    simp only [readMillis_ok]

theorem Identity.ofWire_accepts {metadata : Option MetadataResult} :
    (∃ identity, Identity.ofWire metadata = .ok identity) ↔
      ∃ m, metadata = some m ∧ m.Readable := by
  cases metadata with
  | none =>
    constructor
    · rintro ⟨_, read⟩
      cases read
    · rintro ⟨_, missing, _⟩
      cases missing
  | some m =>
    simp only [Identity.ofWire, Metadata.ofWire, bind_accepts, pure_accepts, and_true,
      exists_and_right, MetadataResult.uuid_accepts, MetadataResult.vectorMap_accepts,
      readMillisWhen_accepts]
    constructor
    · rintro ⟨uuid, ⟨lanes, vectors⟩, creation, lastUpdate⟩
      exact ⟨m, rfl, uuid, lanes, vectors, creation, lastUpdate⟩
    · rintro ⟨_, same, uuid, lanes, vectors, creation, lastUpdate⟩
      obtain rfl := Option.some.inj same
      exact ⟨uuid, ⟨lanes, vectors⟩, creation, lastUpdate⟩

end VectorClient
