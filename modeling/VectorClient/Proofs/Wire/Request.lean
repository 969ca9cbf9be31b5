import VectorClient.Proofs.Batch.Objects
import VectorClient.Proofs.Property.Order
import VectorClient.Proofs.Search.Pairing
import VectorClient.Proofs.Wire.Batch
import VectorClient.Proofs.Wire.Reading
import VectorClient.Proofs.Wire.Search
import VectorClient.Wire.Message

/-!
# Requests that arrive

A server reads of the bytes of a request what was built, with every value that is a default where
absence means something else. Only zeros in plain fields lose their signs.
-/

namespace VectorClient

open Number

namespace Wire

theorem received_of_sent {α : Type} [Outgoing α] [Incoming α] {a a' : α}
    (types : Incoming.type α = Outgoing.type α)
    (sent : Sent (Outgoing.type α) (Outgoing.toFields a) (Outgoing.toFields a'))
    (read : Incoming.ofFields (Outgoing.toFields a') = a')
    (shallow : fieldLevels (Outgoing.toFields a) ≤ maxLevels)
    (small : (Outgoing.bytes a).length < pow2 64) :
    Incoming.ofBytes? (Outgoing.bytes a) = some a' := by
  rw [Incoming.ofBytes?, types, Outgoing.bytes, sent.decode shallow small, Option.map_some, read]

end Wire

/-! ### Searches -/

namespace Search

variable {b : RequestBuilder} {r : Wire.SearchRequest}

theorem RequestBuilder.Resolves.weights {target : Option TargetVectors} {s : ResolvedTargets}
    (resolves : b.Resolves target s) : Wire.OrderedWeights s.targets := by
  intro t chosen
  have none : t.weights = [] := by
    cases resolves with
    | unselected | name => cases chosen
    | single | many | combined =>
      obtain rfl := Option.some.inj chosen
      rfl
  rw [none]
  exact List.Pairwise.nil

theorem HoldsInput.ordered {several : Bool} {m : Wire.NearVector} {input : VectorInput}
    (holds : HoldsInput several m input)
    (inOrder : ∀ map, input = .perTarget map → KeyMap.Ordered map) :
    m.vectorPerTarget.Ordered := by
  have of_none (none : m.vectorPerTarget = []) : m.vectorPerTarget.Ordered := by
    rw [none]
    exact List.Pairwise.nil
  cases input with
  | single => exact of_none holds.2.2.2.2
  | multi => exact of_none holds.2.2.2.2
  | perTarget map =>
    have carried := holds.carriers
    obtain ⟨_, _, _, sent⟩ := holds
    cases several with
    | true => exact of_none sent.1
    | false =>
      rw [Search.carriers, sent.1, List.map_nil, List.nil_append] at carried
      exact (inOrder map rfl).of_keys carried

/-- The only maps of a request that is built are the vectors by target. -/
theorem RequestBuilder.Builds.orderedMaps (builds : b.Builds r)
    (vectors : ∀ m ∈ nearVectors r, m.vectorPerTarget.Ordered) : r.OrderedMaps := by
  refine ⟨fun s member => ?_, vectors⟩
  obtain ⟨target, resolves⟩ := builds.originates.selections s member
  exact resolves.weights

end Search

/-! ### Batches -/

def BatchObject.InOrder (o : BatchObject) : Prop :=
  ∀ p ∈ o.properties, KeyMap.Ordered p ∧ EntriesInOrder p

/-- One of the objects that a batch is sent as. -/
def InBatch (w : Wire.BatchObject) : Prop :=
  ∃ fresh next usesNamedVectors tenant caps objects sent,
    (∀ o ∈ objects, BatchObject.InOrder o) ∧
      Batch.toWire fresh next usesNamedVectors tenant caps objects = .ok sent ∧ w ∈ sent

theorem InBatch.orderedMaps {w : Wire.BatchObject} (inBatch : InBatch w) : w.OrderedMaps := by
  obtain ⟨fresh, next, usesNamedVectors, tenant, caps, objects, sent, inOrder, mapped, member⟩ :=
    inBatch
  obtain ⟨o, listed, id, done⟩ := exists_of_forall₂ (Batch.forall₂_toWire mapped) w member
  obtain ⟨_, placed, _, rfl⟩ := BatchObject.toWire_ok done
  intro sent same own given
  have sent_eq : o.propertiesToWire caps = some sent := same
  unfold BatchObject.propertiesToWire at sent_eq
  split at sent_eq
  · cases sent_eq
  · obtain rfl := Option.some.inj sent_eq
    obtain ⟨p, chosen, rfl⟩ := Option.map_eq_some_iff.mp given
    obtain ⟨keys, inside⟩ := inOrder o listed p chosen
    exact ⟨keys.of_keys (keys_propertiesToWire p), ordered_properties p inside⟩

/-! ### Requests -/

/-- What is built is what a server receives, up to the signs of zeros in plain fields: every request
for a search, and every request with objects of batches. Maps are in order, messages nest no deeper
than a server reads, and lengths are words. -/
theorem requests_received :
    (∀ (b : Search.RequestBuilder) (r : Wire.SearchRequest), b.Builds r →
      (∀ m ∈ Search.nearVectors r, m.vectorPerTarget.Ordered) →
      Wire.fieldLevels r.toFields ≤ Wire.maxLevels → (Wire.Outgoing.bytes r).length < pow2 64 →
      Wire.Incoming.ofBytes? (Wire.Outgoing.bytes r) = some r.received) ∧
    ∀ r : Wire.BatchRequest, (∀ w ∈ r.objects, InBatch w) →
      Wire.fieldLevels r.toFields ≤ Wire.maxLevels → (Wire.Outgoing.bytes r).length < pow2 64 →
      Wire.Incoming.ofBytes? (Wire.Outgoing.bytes r) = some r.received := by
  constructor
  · intro b r builds vectors shallow small
    have sent := Wire.SearchRequest.sent (builds.orderedMaps vectors)
    exact Wire.received_of_sent rfl sent r.received.ofFields_toFields shallow small
  · intro r objects shallow small
    have sent := r.sent fun w member => (objects w member).orderedMaps
    exact Wire.received_of_sent rfl sent r.received.ofFields_toFields shallow small

/-- Of vectors by target, a filter with a truth value that is false and a threshold of minus zero
nothing is lost, and of an object only the sign of a coordinate. -/
theorem requests_received_defaults :
    let b : Search.RequestBuilder := ⟨{ name := "Article" }, ⟨⟨1, 26, 0⟩⟩⟩
    let map : KeyMap VectorValue := [("body", .single [⟨0x80000000⟩]), ("title", .single [⟨0⟩])]
    let filter : Filter := .compare .equal (.property "published") (.boolean false)
    let o : Search.NearOptions :=
      { certainty := some ⟨0x8000000000000000⟩, common := { filter := some filter } }
    let object : BatchObject :=
      { collection := "Article"
        properties := some [("active", .boolean false),
          ("place", .geo ⟨⟨0x80000000⟩, ⟨0x3f800000⟩⟩), ("tags", .textArray [])] }
    let arrived : Wire.Properties :=
      [("active", .bool false), ("place", .geo ⟨⟨0x3f800000⟩, .zero⟩),
        ("tags", .list [] (.texts []))]
    (∃ r, b.nearVector (.perTarget map) o = .ok r ∧
      Wire.Incoming.ofBytes? (Wire.Outgoing.bytes r) = some r) ∧
    ∃ w, Batch.toWire Uuid.ofNat 0 false none .latest [object] = .ok [w] ∧
      Wire.Incoming.ofBytes? (Wire.Outgoing.bytes (⟨[w], none⟩ : Wire.BatchRequest)) =
        some (⟨[{ w with properties := some { nonRefProperties := some arrived } }], none⟩ :
          Wire.BatchRequest) := by
  intro b map filter o object arrived
  have ordered : map.Ordered := by
    unfold KeyMap.Ordered
    decide
  have inOrder : ∀ o ∈ [object], o.InOrder := by
    intro o listed p same
    obtain rfl := List.mem_singleton.mp listed
    obtain rfl := Option.some.inj same
    refine ⟨?_, trivial, trivial, trivial, trivial⟩
    unfold KeyMap.Ordered
    decide
  constructor
  · obtain ⟨r, built, same, shallow, small⟩ : ∃ r, b.nearVector (.perTarget map) o = .ok r ∧
        r.received = r ∧ Wire.fieldLevels r.toFields ≤ Wire.maxLevels ∧
        (Wire.Outgoing.bytes r).length < pow2 64 := ⟨_, rfl, rfl, by decide, by decide +kernel⟩
    have received := requests_received.1 b r (.nearVector built) ?_ shallow small
    · rw [same] at received
      exact ⟨r, built, received⟩
    · obtain ⟨_, message, _, made, rfl⟩ := Search.RequestBuilder.nearVector_ok built
      intro m listed
      obtain rfl := List.mem_singleton.mp listed
      exact (Search.HoldsInput.of_nearVectorMessage made).ordered fun map' same =>
        Search.VectorInput.perTarget.inj same ▸ ordered
  · obtain ⟨w, mapped, same, shallow, small⟩ :
        ∃ w, Batch.toWire Uuid.ofNat 0 false none .latest [object] = .ok [w] ∧
          Wire.BatchRequest.received ⟨[w], none⟩ =
            ⟨[{ w with properties := some { nonRefProperties := some arrived } }], none⟩ ∧
          Wire.fieldLevels (Wire.BatchRequest.toFields ⟨[w], none⟩) ≤ Wire.maxLevels ∧
          (Wire.Outgoing.bytes (⟨[w], none⟩ : Wire.BatchRequest)).length < pow2 64 :=
      ⟨_, rfl, rfl, by decide, by decide +kernel⟩
    have inBatch : InBatch w :=
      ⟨_, _, _, _, _, [object], [w], inOrder, mapped, List.mem_singleton_self w⟩
    have received := requests_received.2 ⟨[w], none⟩ (List.forall_mem_singleton.mpr inBatch)
      shallow small
    rw [same] at received
    exact ⟨w, mapped, received⟩

end VectorClient
