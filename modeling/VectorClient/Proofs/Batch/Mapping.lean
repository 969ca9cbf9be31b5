import VectorClient.Proofs.Batch.Objects
import VectorClient.Proofs.KeyMap
import VectorClient.Proofs.Search.Targets
import VectorClient.Proofs.Vector.Rows

/-!
# Which batches are sent

A batch is sent iff each of its objects can be, and otherwise refused with the error of the first
that cannot. Its messages stand for its objects in order: with the id of the object or the next
fresh one, with its own tenant before that of the batch, and with each reference once.
-/

namespace VectorClient

/-! ### Objects -/

namespace BatchObject

/-- The named vectors of an object, none if it has a vector alone. -/
def namedVectors (o : BatchObject) : KeyMap VectorValue :=
  match o.vectors with
  | some (.named vectors) => vectors
  | _ => []

structure IsValid (usesNamedVectors : Bool) (caps : Capabilities) (o : BatchObject) : Prop where
  collection : o.collection ≠ ""
  named : ∀ vectors, o.vectors = some (.named vectors) → usesNamedVectors = true
  known : ∀ entry ∈ o.namedVectors, entry.2.isMulti = true →
    caps.supports .multiVectorPerTarget = true
  even : ∀ entry ∈ o.namedVectors, entry.2.IsEven

/-- The error of an object that is not valid; of several faults the first in this order counts, and
that of the first vector. -/
inductive IsRefused (usesNamedVectors : Bool) (caps : Capabilities) (o : BatchObject) :
    Error → Prop
  | noCollection (missing : o.collection = "") :
      IsRefused usesNamedVectors caps o (.invalidInput .noCollection)
  | unnamed {vectors : KeyMap VectorValue} (collection : o.collection ≠ "")
      (given : o.vectors = some (.named vectors)) (unused : usesNamedVectors = false) :
      IsRefused usesNamedVectors caps o (.invalidInput (.unnamedVectors o.collection))
  | unsupported {entry : String × VectorValue} (collection : o.collection ≠ "")
      (uses : usesNamedVectors = true) (member : entry ∈ o.namedVectors)
      (multi : entry.2.isMulti = true) (old : caps.supports .multiVectorPerTarget = false) :
      IsRefused usesNamedVectors caps o (caps.unsupported .multiVectorPerTarget)
  | uneven {before after : KeyMap VectorValue} {entry : String × VectorValue} {e : Error}
      (collection : o.collection ≠ "") (uses : usesNamedVectors = true)
      (known : ∀ entry ∈ o.namedVectors, entry.2.isMulti = true →
        caps.supports .multiVectorPerTarget = true)
      (split : o.namedVectors = before ++ entry :: after)
      (earlier : ∀ d ∈ before, d.2.IsEven) (fault : entry.2.Uneven e) :
      IsRefused usesNamedVectors caps o e

variable {usesNamedVectors : Bool} {caps : Capabilities} {tenant : Option String}
  {vectors : KeyMap VectorValue} {o : BatchObject} {id : Uuid} {e : Error}

/-- Several vectors for one name need a server that knows them. -/
def checkKnown (caps : Capabilities) (vectors : KeyMap VectorValue) : Except Error Unit :=
  if vectors.any (·.2.isMulti) then caps.require .multiVectorPerTarget else .ok ()

theorem checkKnown_accepts :
    (∃ u, checkKnown caps vectors = .ok u) ↔
      ∀ entry ∈ vectors, entry.2.isMulti = true → caps.supports .multiVectorPerTarget = true := by
  unfold checkKnown
  split
  · rename_i several
    obtain ⟨entry, member, multi⟩ := List.any_eq_true.mp several
    simp only [Capabilities.require_ok, exists_const]
    exact ⟨fun supported _ _ _ => supported, fun known => known entry member multi⟩
  · rename_i alone
    have none_multi : ∀ entry ∈ vectors, ¬ entry.2.isMulti = true := by simpa using alone
    exact ⟨fun _ entry member multi => absurd multi (none_multi entry member), fun _ => ⟨(), rfl⟩⟩

theorem checkKnown_error :
    checkKnown caps vectors = .error e ↔ caps.supports .multiVectorPerTarget = false ∧
      e = caps.unsupported .multiVectorPerTarget ∧ ∃ entry ∈ vectors, entry.2.isMulti = true := by
  unfold checkKnown Capabilities.require
  rw [← List.any_eq_true]
  cases vectors.any (·.2.isMulti) <;> cases caps.supports .multiVectorPerTarget <;> simp [eq_comm]

theorem namedVectors_of_given (given : o.vectors = some (.named vectors)) :
    o.namedVectors = vectors := by
  rw [namedVectors, given]

theorem given_of_mem_namedVectors {entry : String × VectorValue}
    (member : entry ∈ o.namedVectors) : o.vectors = some (.named o.namedVectors) := by
  cases given : o.vectors with
  | none => simp [namedVectors, given] at member
  | some kind =>
    cases kind with
    | single => simp [namedVectors, given] at member
    | named vectors => rw [namedVectors_of_given given]

theorem vectorsToWire_named (given : o.vectors = some (.named vectors)) :
    o.vectorsToWire true caps = (do
      checkKnown caps vectors
      let named ← vectors.mapM fun entry => entry.2.toWire entry.1
      return { named }) := by
  rw [vectorsToWire, given]
  dsimp only
  rw [if_pos rfl, namedVectorsToWire_eq_mapM, checkKnown]
  split <;> rfl

theorem vectorsToWire_accepts :
    (∃ placed, o.vectorsToWire usesNamedVectors caps = .ok placed) ↔
      (∀ vectors, o.vectors = some (.named vectors) → usesNamedVectors = true) ∧
      (∀ entry ∈ o.namedVectors, entry.2.isMulti = true →
        caps.supports .multiVectorPerTarget = true) ∧
      ∀ entry ∈ o.namedVectors, entry.2.IsEven := by
  match given : o.vectors with
  | none => simp [vectorsToWire, namedVectors, given]
  | some (.single lanes) =>
    cases usesNamedVectors <;>
      simp [vectorsToWire, namedVectors, given, VectorValue.toWire]
  | some (.named vectors) =>
    cases usesNamedVectors with
    | false => simp [vectorsToWire, given]
    | true =>
      simp only [vectorsToWire_named given, bind_accepts, mapM_accepts, pure_accepts, and_true,
        exists_and_right, checkKnown_accepts, VectorValue.toWire_accepts,
        namedVectors_of_given given, implies_true, true_and]

theorem toWire_eq :
    o.toWire usesNamedVectors tenant caps id =
      if o.collection = "" then .error (.invalidInput .noCollection)
      else (o.vectorsToWire usesNamedVectors caps).map fun placed => {
        uuid := id.text
        properties := o.propertiesToWire caps
        collection := o.collection
        tenant := (o.tenant.orElse fun _ => tenant).getD ""
        vectorBytes := placed.anonymous
        vectors := placed.named } := by
  unfold toWire
  split
  · rfl
  · cases o.vectorsToWire usesNamedVectors caps <;> rfl

theorem toWire_accepts :
    (∃ w, o.toWire usesNamedVectors tenant caps id = .ok w) ↔ o.IsValid usesNamedVectors caps := by
  rw [toWire_eq]
  split
  · rename_i missing
    exact ⟨nofun, fun valid => absurd missing valid.collection⟩
  · rename_i present
    rw [map_accepts, vectorsToWire_accepts]
    exact ⟨fun ⟨named, known, even⟩ => ⟨present, named, known, even⟩,
      fun valid => ⟨valid.named, valid.known, valid.even⟩⟩

theorem isRefused_of_vectorsToWire (present : o.collection ≠ "")
    (failed : o.vectorsToWire usesNamedVectors caps = .error e) :
    o.IsRefused usesNamedVectors caps e := by
  match given : o.vectors with
  | none => simp [vectorsToWire, given] at failed
  | some (.single lanes) =>
    cases usesNamedVectors <;> simp [vectorsToWire, given, VectorValue.toWire] at failed
  | some (.named vectors) =>
    cases usesNamedVectors with
    | false =>
      simp only [vectorsToWire, given] at failed
      obtain rfl := Except.error.inj failed
      exact .unnamed present given rfl
    | true =>
      obtain rfl := namedVectors_of_given given
      rw [vectorsToWire_named given, bind_error] at failed
      obtain unknown | ⟨_, known, failed⟩ := failed
      · obtain ⟨old, rfl, entry, member, multi⟩ := checkKnown_error.mp unknown
        exact .unsupported present rfl member multi old
      · obtain failed | ⟨_, _, impossible⟩ := bind_error.mp failed
        · obtain ⟨before, entry, after, split, passed, fault⟩ := mapM_error_iff.mp failed
          exact .uneven present rfl (checkKnown_accepts.mp ⟨_, known⟩) split
            (fun d member => VectorValue.toWire_accepts.mp (passed d member))
            (VectorValue.toWire_error.mp fault)
        · cases impossible

theorem vectorsToWire_of_isRefused (present : o.collection ≠ "")
    (refused : o.IsRefused usesNamedVectors caps e) :
    o.vectorsToWire usesNamedVectors caps = .error e := by
  cases refused with
  | noCollection missing => exact absurd missing present
  | unnamed _ given unused =>
    rw [vectorsToWire, given, unused]
    rfl
  | unsupported _ uses member multi old =>
    rw [uses, vectorsToWire_named (given_of_mem_namedVectors member)]
    exact bind_error.mpr (.inl (checkKnown_error.mpr ⟨old, rfl, _, member, multi⟩))
  | @uneven before after entry _ _ uses known split earlier fault =>
    have member : entry ∈ o.namedVectors := by
      rw [split]
      exact List.mem_append_right _ List.mem_cons_self
    obtain ⟨_, accepted⟩ := checkKnown_accepts.mpr known
    rw [uses, vectorsToWire_named (given_of_mem_namedVectors member)]
    refine bind_error.mpr (.inr ⟨_, accepted, bind_error.mpr (.inl ?_)⟩)
    exact mapM_error_iff.mpr ⟨before, entry, after, split,
      fun d member => VectorValue.toWire_accepts.mpr (earlier d member),
      VectorValue.toWire_error.mpr fault⟩

theorem toWire_error :
    o.toWire usesNamedVectors tenant caps id = .error e ↔ o.IsRefused usesNamedVectors caps e := by
  rw [toWire_eq]
  split
  · rename_i missing
    constructor
    · intro failed
      obtain rfl := Except.error.inj failed
      exact .noCollection missing
    · intro refused
      cases refused with
      | noCollection => rfl
      | unnamed present | unsupported present | uneven present => exact absurd missing present
  · rename_i present
    rw [map_error]
    exact ⟨isRefused_of_vectorsToWire present, vectorsToWire_of_isRefused present⟩

end BatchObject

/-! ### References -/

section References

variable {refs : KeyMap ReferenceTargets}

def singleReference? : String × ReferenceTargets → Option Wire.SingleTargetReferences
  | (name, .single ids) => some ⟨ids.map Uuid.text, name⟩
  | (_, .multi _ _) => none

def multiReference? : String × ReferenceTargets → Option Wire.MultiTargetReferences
  | (_, .single _) => none
  | (name, .multi collection ids) => some ⟨ids.map Uuid.text, name, collection⟩

theorem singleReferences_eq (refs : KeyMap ReferenceTargets) :
    singleReferences refs = refs.filterMap singleReference? := by
  induction refs with
  | nil => rfl
  | cons entry rest ih =>
    obtain ⟨name, targets⟩ := entry
    cases targets with
    | single ids => exact congrArg (_ :: ·) ih
    | multi => exact ih

theorem multiReferences_eq (refs : KeyMap ReferenceTargets) :
    multiReferences refs = refs.filterMap multiReference? := by
  induction refs with
  | nil => rfl
  | cons entry rest ih =>
    obtain ⟨name, targets⟩ := entry
    cases targets with
    | single => exact ih
    | multi collection ids => exact congrArg (_ :: ·) ih

theorem mem_singleReferences {r : Wire.SingleTargetReferences} :
    r ∈ singleReferences refs ↔
      ∃ name ids, (name, .single ids) ∈ refs ∧ r = ⟨ids.map Uuid.text, name⟩ := by
  rw [singleReferences_eq, List.mem_filterMap]
  constructor
  · rintro ⟨⟨name, targets⟩, member, written⟩
    cases targets with
    | single ids => exact ⟨name, ids, member, (Option.some.inj written).symm⟩
    | multi => cases written
  · rintro ⟨name, ids, member, rfl⟩
    exact ⟨_, member, rfl⟩

theorem mem_multiReferences {r : Wire.MultiTargetReferences} :
    r ∈ multiReferences refs ↔ ∃ name collection ids,
      (name, .multi collection ids) ∈ refs ∧ r = ⟨ids.map Uuid.text, name, collection⟩ := by
  rw [multiReferences_eq, List.mem_filterMap]
  constructor
  · rintro ⟨⟨name, targets⟩, member, written⟩
    cases targets with
    | single => cases written
    | multi collection ids =>
      exact ⟨name, collection, ids, member, (Option.some.inj written).symm⟩
  · rintro ⟨name, collection, ids, member, rfl⟩
    exact ⟨_, member, rfl⟩

theorem singleReferences_ascending (ordered : refs.Ordered) :
    ((singleReferences refs).map (·.propName)).Pairwise (· < ·) := by
  rw [singleReferences_eq]
  refine ordered.names_filterMap ?_
  rintro ⟨name, targets⟩ r written
  cases targets with
  | single => exact Option.some.inj written ▸ rfl
  | multi => cases written

theorem multiReferences_ascending (ordered : refs.Ordered) :
    ((multiReferences refs).map (·.propName)).Pairwise (· < ·) := by
  rw [multiReferences_eq]
  refine ordered.names_filterMap ?_
  rintro ⟨name, targets⟩ r written
  cases targets with
  | single => cases written
  | multi => exact Option.some.inj written ▸ rfl

theorem references_perm (refs : KeyMap ReferenceTargets) :
    ((singleReferences refs).map (·.propName) ++ (multiReferences refs).map (·.propName)).Perm
      refs.keys := by
  induction refs with
  | nil => exact .nil
  | cons entry rest ih =>
    obtain ⟨name, targets⟩ := entry
    cases targets with
    | single ids => exact ih.cons name
    | multi collection ids => exact List.perm_middle.trans (ih.cons name)

end References

structure Wire.BatchProperties.Lists (p : Wire.BatchProperties) (refs : KeyMap ReferenceTargets) :
    Prop where
  single : ∀ r, r ∈ p.singleTarget ↔
    ∃ name ids, (name, .single ids) ∈ refs ∧ r = ⟨ids.map Uuid.text, name⟩
  multi : ∀ r, r ∈ p.multiTarget ↔ ∃ name collection ids,
    (name, .multi collection ids) ∈ refs ∧ r = ⟨ids.map Uuid.text, name, collection⟩
  once : (p.singleTarget.map (·.propName) ++ p.multiTarget.map (·.propName)).Perm refs.keys
  ascending : refs.Ordered → (p.singleTarget.map (·.propName)).Pairwise (· < ·) ∧
    (p.multiTarget.map (·.propName)).Pairwise (· < ·)

namespace BatchObject

structure SentAs (tenant : Option String) (o : BatchObject) (id : Uuid) (w : Wire.BatchObject) :
    Prop where
  uuid : w.uuid = id.text
  collection : w.collection = o.collection
  tenant : w.tenant = o.tenant.getD (tenant.getD "")
  properties : w.properties = none ↔ o.properties = none ∧ o.references = none
  references : ∀ p ∈ w.properties, p.Lists (o.references.getD [])

variable {usesNamedVectors : Bool} {caps : Capabilities} {tenant : Option String}
  {o : BatchObject} {id : Uuid}

theorem propertiesToWire_eq_none :
    o.propertiesToWire caps = none ↔ o.properties = none ∧ o.references = none := by
  unfold propertiesToWire
  rw [ite_eq_left_iff]
  simp [← Option.isNone_iff_eq_none]

theorem lists_of_propertiesToWire {p : Wire.BatchProperties}
    (written : o.propertiesToWire caps = some p) : p.Lists (o.references.getD []) := by
  unfold propertiesToWire at written
  split at written
  · cases written
  · obtain rfl := Option.some.inj written
    exact ⟨fun _ => mem_singleReferences, fun _ => mem_multiReferences, references_perm _,
      fun ordered => ⟨singleReferences_ascending ordered, multiReferences_ascending ordered⟩⟩

theorem sentAs_of_toWire {w : Wire.BatchObject}
    (mapped : o.toWire usesNamedVectors tenant caps id = .ok w) : o.SentAs tenant id w := by
  obtain ⟨_, placed, _, rfl⟩ := toWire_ok mapped
  refine ⟨rfl, rfl, ?_, propertiesToWire_eq_none, fun p written => lists_of_propertiesToWire written⟩
  cases o.tenant <;> rfl

end BatchObject

/-! ### Whole batches -/

/-- A batch is sent iff all its objects are valid, and otherwise refused for the first that is not.
Its messages are those of the objects in order; an object without an id takes the next one of the
supply. -/
theorem Batch.toWire_exact (fresh : Nat → Uuid) (next : Nat) (usesNamedVectors : Bool)
    (tenant : Option String) (caps : Capabilities) (objects : List BatchObject) :
    let mapped := toWire fresh next usesNamedVectors tenant caps objects
    ((∃ sent, mapped = .ok sent) ↔ ∀ o ∈ objects, o.IsValid usesNamedVectors caps) ∧
    (∀ e, mapped = .error e ↔ ∃ before o after, objects = before ++ o :: after ∧
      (∀ p ∈ before, p.IsValid usesNamedVectors caps) ∧ o.IsRefused usesNamedVectors caps e) ∧
    ∀ sent, mapped = .ok sent → sent.length = objects.length ∧
      ∀ i (o : BatchObject), objects[i]? = some o → ∃ w, sent[i]? = some w ∧
        o.SentAs tenant
          (o.id.getD (fresh (next + BatchObject.countUnnamed (objects.take i)))) w := by
  intro mapped
  have paired : (objects.zip (BatchObject.assignIds fresh next objects)).map Prod.fst = objects :=
    List.map_fst_zip (Nat.le_of_eq (BatchObject.length_assignIds fresh next objects).symm)
  refine ⟨?_, fun e => ?_, fun sent done => ⟨length_toWire done, fun i o at_i => ?_⟩⟩
  · simp only [mapped, toWire, mapM_accepts, BatchObject.toWire_accepts]
    conv => rhs; rw [← paired]
    exact List.forall_mem_map.symm
  · simp only [mapped, toWire, mapM_error_iff, BatchObject.toWire_accepts, BatchObject.toWire_error]
    constructor
    · rintro ⟨before, x, after, split, valid, refused⟩
      refine ⟨before.map Prod.fst, x.1, after.map Prod.fst, ?_, List.forall_mem_map.mpr valid,
        refused⟩
      rw [← paired, split, List.map_append, List.map_cons]
    · rintro ⟨before, o, after, split, valid, refused⟩
      rw [split] at paired
      obtain ⟨before', rest, zipped, rfl, others⟩ := List.map_eq_append_iff.mp paired
      obtain ⟨x, after', rfl, rfl, rfl⟩ := List.map_eq_cons_iff.mp others
      rw [← split] at zipped
      exact ⟨before', x, after', zipped, List.forall_mem_map.mp valid, refused⟩
  · obtain ⟨id, w, assigned, found, written⟩ := getElem?_toWire done at_i
    rw [BatchObject.getElem?_assignIds fresh next at_i] at assigned
    obtain rfl := Option.some.inj assigned
    exact ⟨w, found, BatchObject.sentAs_of_toWire written⟩

/-- Two objects with the ids five and six of the supply, before one whose rows differ. -/
theorem Batch.toWire_exact_uneven :
    let linked : BatchObject :=
      { collection := "Article"
        references := some [("authors", .multi "Person" [.ofNat 1, .ofNat 2]),
          ("section", .single [.ofNat 3])]
        tenant := some "" }
    let plain : BatchObject := { collection := "Article" }
    let uneven : BatchObject :=
      { collection := "Article"
        vectors := some (.named [("rows", .multi [[.zero], []]), ("title", .multi [[.zero]])]) }
    let send := Batch.toWire Uuid.ofNat 5 true (some "shared") ⟨⟨1, 27, 0⟩⟩
    linked.IsValid true ⟨⟨1, 27, 0⟩⟩ ∧ plain.IsValid true ⟨⟨1, 27, 0⟩⟩ ∧
      send [linked, plain, uneven] = .error (.invalidInput .raggedRows) ∧
      ∃ sent w w', send [linked, plain] = .ok sent ∧ sent[0]? = some w ∧ sent[1]? = some w' ∧
        linked.SentAs (some "shared") (.ofNat 5) w ∧
        plain.SentAs (some "shared") (.ofNat 6) w' := by
  intro linked plain uneven send
  have linked_valid : linked.IsValid true ⟨⟨1, 27, 0⟩⟩ := ⟨by decide, nofun, nofun, nofun⟩
  have plain_valid : plain.IsValid true ⟨⟨1, 27, 0⟩⟩ := ⟨by decide, nofun, nofun, nofun⟩
  have both_valid : ∀ o ∈ [linked, plain], o.IsValid true ⟨⟨1, 27, 0⟩⟩ := by
    simp only [List.forall_mem_cons, List.not_mem_nil, false_implies, implies_true, and_true]
    exact ⟨linked_valid, plain_valid⟩
  have refused : uneven.IsRefused true ⟨⟨1, 27, 0⟩⟩ (.invalidInput .raggedRows) := by
    have split : uneven.namedVectors =
        [] ++ ("rows", .multi [[.zero], []]) :: [("title", .multi [[.zero]])] := rfl
    refine .uneven (by decide) rfl (fun _ _ _ => rfl) split nofun ?_
    exact .ragged List.mem_cons_self (List.mem_cons_of_mem _ List.mem_cons_self) (by decide)
  obtain ⟨_, failing, _⟩ := Batch.toWire_exact Uuid.ofNat 5 true (some "shared") ⟨⟨1, 27, 0⟩⟩
    [linked, plain, uneven]
  obtain ⟨accepted, _, mapped⟩ := Batch.toWire_exact Uuid.ofNat 5 true (some "shared")
    ⟨⟨1, 27, 0⟩⟩ [linked, plain]
  obtain ⟨sent, done⟩ := accepted.mpr both_valid
  obtain ⟨_, each⟩ := mapped sent done
  obtain ⟨w, first, linked_sent⟩ := each 0 linked rfl
  obtain ⟨w', second, plain_sent⟩ := each 1 plain rfl
  exact ⟨linked_valid, plain_valid,
    (failing _).mpr ⟨[linked, plain], uneven, [], rfl, both_valid, refused⟩,
    sent, w, w', done, first, second, linked_sent, plain_sent⟩

end VectorClient
