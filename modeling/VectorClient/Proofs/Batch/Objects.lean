import VectorClient.Batch.Wire
import VectorClient.Proofs.Steps
import VectorClient.Proofs.Uuid

/-!
# Objects of a batch

The wire objects of a batch stand one to one and in order for its objects, each with its id and with
its vectors in one of their places.
-/

namespace VectorClient

/-! ### Vectors in their places -/

theorem namedVectorsToWire_eq_mapM (vectors : List (String × VectorValue)) :
    namedVectorsToWire vectors = vectors.mapM fun entry => entry.2.toWire entry.1 := by
  induction vectors with
  | nil => rfl
  | cons entry rest ih => rw [namedVectorsToWire, ih, List.mapM_cons]

inductive PlacedVectors.Holds (usesNamedVectors : Bool) (caps : Capabilities) :
    Option ObjectVectors → PlacedVectors → Prop
  | none : Holds usesNamedVectors caps none {}
  | anonymous {lanes : List Number.Single} (unnamed : usesNamedVectors = false) :
      Holds usesNamedVectors caps (some (.single lanes)) { anonymous := Vector.encode lanes }
  | single {lanes : List Number.Single} {w : Wire.Vectors} (uses : usesNamedVectors = true)
      (written : (VectorValue.single lanes).toWire VectorValue.defaultName = .ok w) :
      Holds usesNamedVectors caps (some (.single lanes)) { named := [w] }
  | named {vectors : KeyMap VectorValue} {ws : List Wire.Vectors} (uses : usesNamedVectors = true)
      (known : vectors.any (·.2.isMulti) = true → caps.require .multiVectorPerTarget = .ok ())
      (each : List.Forall₂ (fun entry w => entry.2.toWire entry.1 = .ok w) vectors ws) :
      Holds usesNamedVectors caps (some (.named vectors)) { named := ws }

namespace BatchObject

theorem vectorsToWire_ok {usesNamedVectors : Bool} {caps : Capabilities} {o : BatchObject}
    {placed : PlacedVectors} (written : o.vectorsToWire usesNamedVectors caps = .ok placed) :
    placed.Holds usesNamedVectors caps o.vectors := by
  rw [vectorsToWire] at written
  generalize o.vectors = vectors at written ⊢
  cases vectors with
  | none =>
    obtain rfl := Except.ok.inj written
    exact .none
  | some vectors =>
    cases vectors with
    | single lanes =>
      cases usesNamedVectors with
      | false =>
        obtain rfl := Except.ok.inj written
        exact .anonymous rfl
      | true =>
        obtain ⟨w, single, done⟩ := bind_ok.mp written
        obtain rfl := pure_ok done
        exact .single rfl single
    | named vectors =>
      cases usesNamedVectors with
      | false => cases written
      | true =>
        dsimp only at written
        rw [if_pos rfl, namedVectorsToWire_eq_mapM] at written
        by_cases several : vectors.any (·.2.isMulti) = true
        · rw [if_pos several] at written
          obtain ⟨_, known, written⟩ := bind_ok.mp written
          obtain ⟨ws, each, done⟩ := bind_ok.mp written
          obtain rfl := pure_ok done
          exact .named rfl (fun _ => known) (mapM_ok_iff.mp each)
        · rw [if_neg several] at written
          obtain ⟨ws, each, done⟩ := bind_ok.mp written
          obtain rfl := pure_ok done
          exact .named rfl (fun isMulti => absurd isMulti several) (mapM_ok_iff.mp each)

/-! ### Ids and messages -/

theorem length_assignIds (fresh : Nat → Uuid) (n : Nat) (objects : List BatchObject) :
    (assignIds fresh n objects).length = objects.length := by
  induction objects generalizing n with
  | nil => rfl
  | cons o rest ih =>
    rw [assignIds]
    cases o.id <;> exact congrArg (· + 1) (ih _)

theorem getElem?_assignIds (fresh : Nat → Uuid) (n : Nat) {objects : List BatchObject} {i : Nat}
    {o : BatchObject} (at_i : objects[i]? = some o) :
    (assignIds fresh n objects)[i]? =
      some (o.id.getD (fresh (n + countUnnamed (objects.take i)))) := by
  induction objects generalizing n i with
  | nil => simp at at_i
  | cons first rest ih =>
    rw [assignIds]
    cases i with
    | zero =>
      obtain rfl := Option.some.inj at_i
      cases first.id <;> rfl
    | succ i =>
      have later : ∀ n, (assignIds fresh n rest)[i]? =
          some (o.id.getD (fresh (n + countUnnamed (rest.take i)))) := fun n => ih n at_i
      cases own : first.id with
      | some id => simp [later, countUnnamed, own]
      | none => simp [later, countUnnamed, own, Nat.add_assoc, Nat.add_comm 1]

theorem assignIds_given (fresh : Nat → Uuid) (n : Nat) {objects : List BatchObject} {i : Nat}
    {o : BatchObject} {id given : Uuid} (at_i : objects[i]? = some o) (named : o.id = some given)
    (assigned : (assignIds fresh n objects)[i]? = some id) : id = given := by
  rw [getElem?_assignIds fresh n at_i, named] at assigned
  exact (Option.some.inj assigned).symm

theorem toWire_ok {named : Bool} {tenant : Option String} {caps : Capabilities} {o : BatchObject}
    {id : Uuid} {sent : Wire.BatchObject} (mapped : o.toWire named tenant caps id = .ok sent) :
    o.collection ≠ "" ∧ ∃ placed, o.vectorsToWire named caps = .ok placed ∧ sent = {
      uuid := id.text
      properties := o.propertiesToWire caps
      collection := o.collection
      tenant := (o.tenant.orElse fun _ => tenant).getD ""
      vectorBytes := placed.anonymous
      vectors := placed.named } := by
  rw [toWire] at mapped
  split at mapped
  · cases mapped
  · rename_i present
    obtain ⟨placed, place, done⟩ := bind_ok.mp mapped
    exact ⟨present, placed, place, (pure_ok done).symm⟩

end BatchObject

namespace Batch

variable {fresh : Nat → Uuid} {next : Nat} {named : Bool} {tenant : Option String}
  {caps : Capabilities} {objects : List BatchObject} {sent : List Wire.BatchObject}

theorem length_toWire (mapped : toWire fresh next named tenant caps objects = .ok sent) :
    sent.length = objects.length := by
  rw [length_of_mapM_ok mapped, List.length_zip, BatchObject.length_assignIds, Nat.min_self]

theorem getElem?_toWire (mapped : toWire fresh next named tenant caps objects = .ok sent) {i : Nat}
    {o : BatchObject} (at_i : objects[i]? = some o) :
    ∃ id w, (BatchObject.assignIds fresh next objects)[i]? = some id ∧ sent[i]? = some w ∧
      o.toWire named tenant caps id = .ok w := by
  have inside : i < (BatchObject.assignIds fresh next objects).length := by
    rw [BatchObject.length_assignIds]
    exact (List.getElem?_eq_some_iff.mp at_i).1
  have assigned := List.getElem?_eq_getElem inside
  have paired : (objects.zip (BatchObject.assignIds fresh next objects))[i]? =
      some (o, (BatchObject.assignIds fresh next objects)[i]) :=
    List.getElem?_zip_eq_some.mpr ⟨at_i, assigned⟩
  obtain ⟨w, found, done⟩ := getElem?_of_mapM_ok mapped paired
  exact ⟨_, w, assigned, found, done⟩

/-- A caller finds the id that was given in what is sent. -/
theorem given_of_toWire (mapped : toWire fresh next named tenant caps objects = .ok sent) {i : Nat}
    {o : BatchObject} {w : Wire.BatchObject} {id given : Uuid} (at_i : objects[i]? = some o)
    (sent_at : sent[i]? = some w) (sentAs : w.uuid = id.text) (own : o.id = some given) :
    id = given := by
  obtain ⟨assigned, w', assigned_at, found, done⟩ := getElem?_toWire mapped at_i
  obtain rfl := Option.some.inj (found.symm.trans sent_at)
  obtain ⟨_, _, _, rfl⟩ := BatchObject.toWire_ok done
  have same : id = assigned := Uuid.text_injective sentAs.symm
  rw [same]
  exact BatchObject.assignIds_given _ _ at_i own assigned_at

theorem mem_toWire (mapped : toWire fresh next named tenant caps objects = .ok sent)
    {w : Wire.BatchObject} (member : w ∈ sent) :
    ∃ (o : BatchObject) (id : Uuid), o.toWire named tenant caps id = .ok w := by
  obtain ⟨i, at_i⟩ := List.mem_iff_getElem?.mp member
  have inside : i < objects.length := by
    rw [← length_toWire mapped]
    exact (List.getElem?_eq_some_iff.mp at_i).1
  obtain ⟨id, w', _, found, done⟩ := getElem?_toWire mapped (List.getElem?_eq_getElem inside)
  obtain rfl : w' = w := Option.some.inj (found.symm.trans at_i)
  exact ⟨_, id, done⟩

theorem forall₂_toWire (mapped : toWire fresh next named tenant caps objects = .ok sent) :
    List.Forall₂ (fun (o : BatchObject) w => ∃ id, o.toWire named tenant caps id = .ok w)
      objects sent := by
  have lengths := BatchObject.length_assignIds fresh next objects
  rw [← List.map_fst_zip (Nat.le_of_eq lengths.symm), List.forall₂_map_left_iff]
  exact (mapM_ok_iff.mp mapped).imp fun paired _ done => ⟨paired.2, done⟩

theorem uuid_toWire (mapped : toWire fresh next named tenant caps objects = .ok sent)
    {w : Wire.BatchObject} (member : w ∈ sent) : ∃ id : Uuid, w.uuid = id.text := by
  obtain ⟨o, id, done⟩ := mem_toWire mapped member
  obtain ⟨_, _, _, rfl⟩ := BatchObject.toWire_ok done
  exact ⟨id, rfl⟩

end Batch

end VectorClient
