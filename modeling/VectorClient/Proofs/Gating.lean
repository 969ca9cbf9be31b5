import VectorClient.Proofs.Batch.Objects
import VectorClient.Proofs.Property.ListForm
import VectorClient.Proofs.Search.Request

/-!
# Messages that fit the server

Nothing is sent that the version of the server does not know. Requests hold target vectors, near
vectors and keyword operators that each come from one checked place, and the objects of a batch
hold lists in the form of the server.
-/

namespace VectorClient

open Search

/-! ### Searches -/

structure SelectionFits (caps : Capabilities) (s : ResolvedTargets) : Prop where
  message : s.targets.isSome = true → caps.supports .multiTargetSearch = true
  names : s.names ≠ [] → caps.supports .multiTargetSearch = false ∧ s.names.length = 1
  weights : ∀ targets ∈ s.targets, targets.weightsForTargets ≠ [] →
    caps.supports .perTargetWeights = true

structure NearVectorFits (caps : Capabilities) (m : Wire.NearVector) : Prop where
  vectors : m.vectors ≠ [] → caps.supports .multiVectorPerTarget = true
  vectorForTargets : m.vectorForTargets ≠ [] → caps.supports .multiVectorPerTarget = true
  vectorPerTarget : m.vectorPerTarget ≠ [] →
    caps.supports .multiTargetSearch = true ∧ caps.supports .multiVectorPerTarget = false

structure RequestFits (caps : Capabilities) (r : Wire.SearchRequest) : Prop where
  selections : ∀ s ∈ selections r, SelectionFits caps s
  nearVectors : ∀ m ∈ nearVectors r, NearVectorFits caps m
  operators : keywordOperators r ≠ [] → caps.supports .keywordOperator = true
  uses125Api : r.uses125Api = caps.supports .typedListValues
  uses127Api : r.uses127Api = caps.supports .multiVectorPerTarget

variable {b : RequestBuilder}

theorem SelectionFits.of_message {caps : Capabilities} {t : Wire.Targets}
    (known : caps.supports .multiTargetSearch = true)
    (allowed : t.weightsForTargets ≠ [] → caps.supports .perTargetWeights = true) :
    SelectionFits caps { targets := some t } := by
  refine ⟨fun _ => known, fun some => absurd rfl some, fun targets same => ?_⟩
  obtain rfl := Option.some.inj same
  exact allowed

theorem SelectionFits.of_resolves {target : Option TargetVectors} {s : ResolvedTargets}
    (resolves : b.Resolves target s) : SelectionFits b.capabilities s := by
  cases resolves with
  | unselected => exact ⟨nofun, fun some => absurd rfl some, nofun⟩
  | name _ old => exact ⟨nofun, fun _ => ⟨old, rfl⟩, nofun⟩
  | single _ known => exact .of_message known fun weighted => absurd rfl weighted
  | many known _ => exact .of_message known fun weighted => absurd rfl weighted
  | combined known _ _ allowed _ =>
    exact .of_message known fun weighted =>
      allowed fun none => weighted (congrArg (List.map _) none)

theorem NearVectorFits.of_carries {input : VectorInput}
    {certainty distance : Option Number.Double} {target : Option TargetVectors}
    {m : Wire.NearVector} (carries : b.Carries certainty distance input target m) :
    NearVectorFits b.capabilities m := by
  cases carries with
  | single => exact ⟨absurd rfl, absurd rfl, absurd rfl⟩
  | multi known => exact ⟨fun _ => known, absurd rfl, absurd rfl⟩
  | perTarget _ _ _ _ _ several => exact ⟨absurd rfl, fun _ => several, absurd rfl⟩
  | onePerTarget known _ _ _ _ old => exact ⟨absurd rfl, absurd rfl, fun _ => ⟨known, old⟩⟩

theorem RequestFits.of_originates {r : Wire.SearchRequest} (originates : Originates b r) :
    RequestFits b.capabilities r where
  selections s member := by
    obtain ⟨target, resolves⟩ := originates.selections s member
    exact .of_resolves resolves
  nearVectors m member := by
    obtain ⟨_, _, _, _, built⟩ := originates.nearVectors m member
    exact .of_carries (RequestBuilder.nearVectorMessage_ok.mp built).2
  operators some := by
    obtain ⟨m, member⟩ := List.exists_mem_of_ne_nil _ some
    obtain ⟨o, built⟩ := originates.operators m member
    rcases RequestBuilder.searchOperator_ok built with ⟨_, none⟩ | ⟨_, _, _, known, _⟩
    · cases none
    · exact known
  uses125Api := originates.uses125Api
  uses127Api := originates.uses127Api

/-! ### Objects -/

structure ObjectFits (caps : Capabilities) (w : Wire.BatchObject) : Prop where
  lists : ∀ sent ∈ w.properties, ∀ properties ∈ sent.nonRefProperties,
    ∀ l ∈ Wire.listsOfFields properties, Wire.InForm (caps.supports .typedListValues) l
  vectors : ∀ v ∈ w.vectors, v.type = VectorValue.multiType →
    caps.supports .multiVectorPerTarget = true

theorem VectorValue.type_toWire {name : String} {value : VectorValue} {v : Wire.Vectors}
    (written : value.toWire name = .ok v) (isMulti : v.type = multiType) :
    value.isMulti = true := by
  cases value with
  | single =>
    obtain rfl := Except.ok.inj written
    have differs : singleType ≠ multiType := by decide
    exact absurd isMulti differs
  | multi => rfl

/-- Rows stand only in messages for servers that know them. -/
theorem PlacedVectors.Holds.known_of_multi {usesNamedVectors : Bool} {caps : Capabilities}
    {vectors : Option ObjectVectors} {placed : PlacedVectors}
    (holds : placed.Holds usesNamedVectors caps vectors) {v : Wire.Vectors}
    (member : v ∈ placed.named) (isMulti : v.type = VectorValue.multiType) :
    caps.supports .multiVectorPerTarget = true := by
  cases holds with
  | none | anonymous => cases member
  | single _ written =>
    obtain rfl := List.mem_singleton.mp member
    cases VectorValue.type_toWire written isMulti
  | @named vectors _ _ known each =>
    obtain ⟨entry, listed, written⟩ := exists_of_forall₂ each v member
    have several : vectors.any (·.2.isMulti) = true :=
      List.any_eq_true.mpr ⟨entry, listed, VectorValue.type_toWire written isMulti⟩
    exact Capabilities.require_ok.mp (known several)

theorem ObjectFits.of_toWire {usesNamedVectors : Bool} {tenant : Option String}
    {caps : Capabilities} {o : BatchObject} {id : Uuid} {w : Wire.BatchObject}
    (mapped : o.toWire usesNamedVectors tenant caps id = .ok w) : ObjectFits caps w := by
  obtain ⟨_, placed, written, rfl⟩ := BatchObject.toWire_ok mapped
  refine ⟨fun sent same properties own => ?_, fun v member isMulti =>
    (BatchObject.vectorsToWire_ok written).known_of_multi member isMulti⟩
  have sent_eq : o.propertiesToWire caps = some sent := same
  unfold BatchObject.propertiesToWire at sent_eq
  split at sent_eq
  · cases sent_eq
  · obtain rfl := Option.some.inj sent_eq
    obtain ⟨p, _, rfl⟩ := Option.map_eq_some_iff.mp own
    exact inForm_propertiesToWire _ p

/-! ### Everything that is sent -/

/-- The requests of every kind of search and the objects of every batch fit the server. -/
theorem sent_fits_server (caps : Capabilities) :
    (∀ (context : CollectionContext) r, RequestBuilder.Builds ⟨context, caps⟩ r →
      RequestFits caps r) ∧
      ∀ fresh next usesNamedVectors tenant objects sent,
        Batch.toWire fresh next usesNamedVectors tenant caps objects = .ok sent →
          ∀ w ∈ sent, ObjectFits caps w := by
  refine ⟨fun context r builds => .of_originates builds.originates,
    fun fresh next usesNamedVectors tenant objects sent mapped w member => ?_⟩
  obtain ⟨o, id, done⟩ := Batch.mem_toWire mapped member
  exact .of_toWire done

/-- A server that knows typed lists and one target only. -/
theorem sent_fits_server_single_target :
    let b : RequestBuilder := ⟨{ name := "Article" }, ⟨⟨1, 25, 0⟩⟩⟩
    let o : BatchObject :=
      { collection := "Article"
        properties := some [("parts", .objectArray [[("tags", .textArray ["a"])]])] }
    (∃ r, b.nearObject (.ofNat 1) { target := some (.single "title") } = .ok r ∧
      selections r = [{ names := ["title"] }] ∧ RequestFits b.capabilities r) ∧
      ∃ sent, Batch.toWire Uuid.ofNat 0 false none b.capabilities [o] = .ok sent ∧
        sent.length = 1 ∧ ∀ w ∈ sent, ObjectFits b.capabilities w := by
  intro b o
  have request : ∃ r, b.nearObject (.ofNat 1) { target := some (.single "title") } = .ok r ∧
      selections r = [{ names := ["title"] }] := ⟨_, rfl, rfl⟩
  obtain ⟨r, built, selected⟩ := request
  exact ⟨⟨r, built, selected, (sent_fits_server b.capabilities).1 b.context r (.nearObject built)⟩,
    _, rfl, rfl, (sent_fits_server b.capabilities).2 Uuid.ofNat 0 false none [o] _ rfl⟩

end VectorClient
