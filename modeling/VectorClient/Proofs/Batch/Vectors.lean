import VectorClient.Proofs.Batch.Objects
import VectorClient.Proofs.Vector.Wire

/-!
# Inserted vectors read back

The vectors of an inserted object are read from its message bit for bit, and in the same way from
either place that a vector alone can have.
-/

namespace VectorClient

/-- Lanes of a vector alone, dimensions of rows, and one vector under each name. -/
def ObjectVectors.Filled : ObjectVectors → Prop
  | .single lanes => lanes ≠ []
  | .named vectors => KeyMap.Ordered vectors ∧ ∀ entry ∈ vectors, entry.2.HasDimension

/-- Vectors by name, where a vector alone has the name `default`. -/
def ObjectVectors.byName : Option ObjectVectors → KeyMap VectorValue
  | none => []
  | some (.single lanes) => [(VectorValue.defaultName, .single lanes)]
  | some (.named vectors) => vectors

namespace Vector

theorem decodeAll_encode {lanes : List Number.Single} (filled : lanes ≠ []) :
    decodeAll (encode lanes) [] = .ok [(VectorValue.defaultName, .single lanes)] := by
  have present : encode lanes ≠ [] := by
    cases lanes with
    | nil => exact absurd rfl filled
    | cons x rest => exact nofun
  rw [decodeAll, if_neg present, decode_encode]
  rfl

theorem decodeAll_named {vectors : KeyMap VectorValue} {named : List Wire.Vectors}
    (written : List.Forall₂ (fun entry w => entry.2.toWire entry.1 = .ok w) vectors named)
    (ordered : vectors.Ordered) (dimensions : ∀ entry ∈ vectors, entry.2.HasDimension) :
    decodeAll [] named = .ok vectors := by
  have each := (List.forall₂_and_left vectors named).mpr ⟨dimensions, written⟩
  rw [decodeAll, if_pos rfl]
  exact collect_entries [] ordered <|
    each.imp fun _ _ both => VectorValue.ofWire_toWire_of_dimension both.2 both.1

end Vector

/-- Where the vectors stand does not matter to those who read them. -/
theorem PlacedVectors.Holds.decodeAll {usesNamedVectors : Bool} {caps : Capabilities}
    {vectors : Option ObjectVectors} {placed : PlacedVectors}
    (holds : placed.Holds usesNamedVectors caps vectors) (filled : ∀ v ∈ vectors, v.Filled) :
    Vector.decodeAll placed.anonymous placed.named = .ok (ObjectVectors.byName vectors) := by
  cases holds with
  | none => rfl
  | anonymous =>
    have present := filled _ rfl
    exact Vector.decodeAll_encode present
  | single _ written =>
    obtain ⟨name, read⟩ := VectorValue.ofWire_toWire_of_dimension written trivial
    rw [Vector.decodeAll_singleton read, name]
    rfl
  | named _ _ each =>
    obtain ⟨ordered, dimensions⟩ := filled _ rfl
    exact Vector.decodeAll_named each ordered dimensions

/-- Vectors that were inserted are read back as they were, from either placement. -/
theorem Batch.vectors_read_back {fresh : Nat → Uuid} {next : Nat} {usesNamedVectors : Bool}
    {tenant : Option String} {caps : Capabilities} {objects : List BatchObject}
    {sent : List Wire.BatchObject}
    (mapped : toWire fresh next usesNamedVectors tenant caps objects = .ok sent) :
    List.Forall₂ (fun o w => (∀ v ∈ o.vectors, v.Filled) →
      Vector.decodeAll w.vectorBytes w.vectors = .ok (ObjectVectors.byName o.vectors))
      objects sent := by
  refine (forall₂_toWire mapped).imp fun o w ⟨id, done⟩ filled => ?_
  obtain ⟨_, placed, written, rfl⟩ := BatchObject.toWire_ok done
  exact (BatchObject.vectorsToWire_ok written).decodeAll filled

/-- A vector alone in both placements, with a lane that is not a number, and rows beside no rows. -/
theorem Batch.vectors_read_back_both_placements :
    let lanes : List Number.Single := [⟨0x7fc00001⟩, ⟨0x80000000⟩]
    let alone : BatchObject := { collection := "Article", vectors := some (.single lanes) }
    let several : BatchObject :=
      { collection := "Article"
        vectors := some (.named [
          ("body", .single []), ("rows", .multi []), ("title", .multi [lanes, lanes])]) }
    let send (usesNamedVectors : Bool) (objects : List BatchObject) :=
      Batch.toWire Uuid.ofNat 0 usesNamedVectors none ⟨⟨1, 31, 0⟩⟩ objects
    (∀ v ∈ alone.vectors, v.Filled) ∧ (∀ v ∈ several.vectors, v.Filled) ∧
      (∃ w, send false [alone] = .ok [w] ∧ w.vectors = [] ∧
        Vector.decodeAll w.vectorBytes w.vectors = .ok [("default", .single lanes)]) ∧
      ∃ w w', send true [alone, several] = .ok [w, w'] ∧ w.vectorBytes = [] ∧
        Vector.decodeAll w.vectorBytes w.vectors = .ok [("default", .single lanes)] ∧
        Vector.decodeAll w'.vectorBytes w'.vectors = .ok (ObjectVectors.byName several.vectors) := by
  intro lanes alone several send
  have alone_filled : ∀ v ∈ alone.vectors, v.Filled := by
    intro v member
    obtain rfl := Option.some.inj member
    exact List.cons_ne_nil _ _
  have several_filled : ∀ v ∈ several.vectors, v.Filled := by
    intro v member
    obtain rfl := Option.some.inj member
    refine ⟨by unfold KeyMap.Ordered; decide, ?_⟩
    simp [VectorValue.HasDimension, Vector.dimension, lanes]
  obtain ⟨w, anonymous⟩ : ∃ w, send false [alone] = .ok [w] := ⟨_, rfl⟩
  obtain ⟨w₁, w₂, named⟩ : ∃ w₁ w₂, send true [alone, several] = .ok [w₁, w₂] := ⟨_, _, rfl⟩
  have read := List.forall₂_cons.mp (Batch.vectors_read_back anonymous)
  have reads := List.forall₂_cons.mp (Batch.vectors_read_back named)
  refine ⟨alone_filled, several_filled, ⟨w, anonymous, ?_, read.1 alone_filled⟩, w₁, w₂, named, ?_,
    reads.1 alone_filled, (List.forall₂_cons.mp reads.2).1 several_filled⟩
  · obtain rfl := List.head_eq_of_cons_eq (Except.ok.inj anonymous)
    rfl
  · obtain rfl := List.head_eq_of_cons_eq (Except.ok.inj named)
    rfl

end VectorClient
