import VectorClient.Proofs.Search.Request
import VectorClient.Proofs.Vector.Wire

/-!
# The vectors of a search

The vectors that a search is given can be read from its message with the decoders of replies. None
is lost or moved to another target, whichever field the version of the server puts them in.
-/

namespace VectorClient.Search

open Number

namespace RequestBuilder

variable {b : RequestBuilder} {map : KeyMap VectorValue}

/-! ### The vectors of each target -/

theorem vectorForTargets_read {sent : List Wire.VectorForTarget}
    (written : vectorForTargets map = .ok sent) (filled : ∀ entry ∈ map, entry.2.isEmpty = false) :
    sent.map (fun s => (s.name, Vector.decodeAll [] s.vectors)) =
      map.map fun entry => (entry.1, .ok [entry]) := by
  induction map generalizing sent with
  | nil =>
    obtain rfl := Except.ok.inj written
    rfl
  | cons entry rest ih =>
    obtain ⟨name, value⟩ := entry
    obtain ⟨w, first, written⟩ := bind_ok.mp written
    obtain ⟨others, others_written, written⟩ := bind_ok.mp written
    obtain rfl := pure_ok written
    obtain ⟨value_filled, rest_filled⟩ := List.forall_mem_cons.mp filled
    obtain ⟨rfl, read⟩ := VectorValue.ofWire_toWire first value_filled
    rw [List.map_cons, List.map_cons, ih others_written rest_filled,
      Vector.decodeAll_singleton read]

theorem vectorPerTarget_read {sent : KeyMap Wire.Bytes}
    (written : b.vectorPerTarget map = .ok sent) :
    sent.map (fun s => (s.1, (Vector.decode s.2).map VectorValue.single)) =
      map.map fun entry => (entry.1, .ok entry.2) := by
  induction map generalizing sent with
  | nil =>
    obtain rfl := Except.ok.inj written
    rfl
  | cons entry rest ih =>
    obtain ⟨name, value⟩ := entry
    cases value with
    | single v =>
      obtain ⟨others, others_written, written⟩ := bind_ok.mp written
      obtain rfl := pure_ok written
      rw [List.map_cons, List.map_cons, ih others_written, Vector.decode_encode]
      rfl
    | multi rows => cases written

end RequestBuilder

/-! ### What a message holds -/

/-- The message holds the vectors of the input and no others. Several targets have entries that may
hold multi-vectors (`several`), or the lanes of one vector each. -/
def HoldsInput (several : Bool) (m : Wire.NearVector) : VectorInput → Prop
  | .single v =>
    Vector.decode m.vectorBytes = .ok v ∧
      m.vector = [] ∧ m.vectors = [] ∧ m.vectorForTargets = [] ∧ m.vectorPerTarget = []
  | .multi rows =>
    (∃ w, m.vectors = [w] ∧ Vector.decodeMulti w.vectorBytes = .ok rows) ∧
      m.vector = [] ∧ m.vectorBytes = [] ∧ m.vectorForTargets = [] ∧ m.vectorPerTarget = []
  | .perTarget map =>
    m.vector = [] ∧ m.vectorBytes = [] ∧ m.vectors = [] ∧
      if several then
        m.vectorPerTarget = [] ∧
          m.vectorForTargets.map (fun s => (s.name, Vector.decodeAll [] s.vectors)) =
            map.map fun entry => (entry.1, .ok [entry])
      else
        m.vectorForTargets = [] ∧
          m.vectorPerTarget.map (fun s => (s.1, (Vector.decode s.2).map VectorValue.single)) =
            map.map fun entry => (entry.1, .ok entry.2)

/-- The vectors of the input stand in the message near vectors inside of the hybrid message. -/
def HoldsInside (several : Bool) (m : Wire.Hybrid) (input : VectorInput) : Prop :=
  m.vector = [] ∧ m.vectorBytes = [] ∧
    ∃ near, m.nearVector = some near ∧ HoldsInput several near input

/-- The hybrid message holds the vectors of its vector half and no others. -/
def HoldsHalf (several : Bool) (m : Wire.Hybrid) : Option HybridVector → Prop
  | some (.vector (.single v)) =>
    Vector.decode m.vectorBytes = .ok v ∧ m.vector = [] ∧ m.nearVector = none
  | some (.vector (.multi rows)) => HoldsInside several m (.multi rows)
  | some (.vector (.perTarget map)) => HoldsInside several m (.perTarget map)
  | some (.nearVector input _ _) => HoldsInside several m input
  | some (.nearText ..) | none => m.vector = [] ∧ m.vectorBytes = [] ∧ m.nearVector = none

variable {b : RequestBuilder}

theorem HoldsInput.of_carries {input : VectorInput} {certainty distance : Option Double}
    {target : Option TargetVectors} {m : Wire.NearVector}
    (carries : b.Carries certainty distance input target m) :
    HoldsInput (b.supports .multiVectorPerTarget) m input := by
  cases carries with
  | single => exact ⟨Vector.decode_encode _, rfl, rfl, rfl, rfl⟩
  | @multi rows _ _ w _ filled _ written _ =>
    have read := (VectorValue.ofWire_toWire written filled).2
    obtain ⟨bytes, _, written⟩ := bind_ok.mp written
    obtain rfl := pure_ok written
    obtain ⟨rows', decoded, same⟩ := map_ok.mp read
    obtain rfl := VectorValue.multi.inj same
    exact ⟨⟨_, rfl, decoded⟩, rfl, rfl, rfl, rfl⟩
  | perTarget _ _ noneEmpty _ _ several written =>
    have filled := List.find?_eq_none.mp noneEmpty
    refine ⟨rfl, rfl, rfl, ?_⟩
    rw [if_pos several]
    exact ⟨rfl, RequestBuilder.vectorForTargets_read written fun entry member =>
      eq_false_of_ne_true (filled entry member)⟩
  | onePerTarget _ _ _ _ _ old written =>
    refine ⟨rfl, rfl, rfl, ?_⟩
    rw [if_neg (Bool.not_eq_true _ ▸ old)]
    exact ⟨rfl, RequestBuilder.vectorPerTarget_read written⟩

theorem HoldsInput.of_nearVectorMessage {input : VectorInput} {certainty distance : Option Double}
    {target : Option TargetVectors} {m : Wire.NearVector}
    (built : b.nearVectorMessage input certainty distance target = .ok m) :
    HoldsInput (b.supports .multiVectorPerTarget) m input :=
  .of_carries (RequestBuilder.nearVectorMessage_ok.mp built).2

theorem HoldsHalf.of_adds {message m : Wire.Hybrid} {v : Option HybridVector}
    (adds : b.Adds message v m) (noLanes : message.vector = []) (noBytes : message.vectorBytes = [])
    (noVector : message.nearVector = none) :
    HoldsHalf (b.supports .multiVectorPerTarget) m v := by
  cases adds with
  | keywords => exact ⟨noLanes, noBytes, noVector⟩
  | bytes => exact ⟨Vector.decode_encode _, noLanes, noVector⟩
  | @input input near several built =>
    have inside : HoldsInput (b.supports .multiVectorPerTarget) near input :=
      .of_nearVectorMessage built
    cases input with
    | single v => exact absurd rfl (several v)
    | multi rows => exact ⟨noLanes, noBytes, near, rfl, inside⟩
    | perTarget map => exact ⟨noLanes, noBytes, near, rfl, inside⟩
  | nearVector built => exact ⟨noLanes, noBytes, _, rfl, .of_nearVectorMessage built⟩
  | nearText => exact ⟨noLanes, noBytes, noVector⟩

/-! ### Requests -/

/-- Every search near vectors and every hybrid search sends exactly the vectors it was given, each
under the target it was given for. -/
theorem vectors_recovered (b : RequestBuilder) :
    (∀ input o r, b.nearVector input o = .ok r →
      ∃ m, r.nearVector = some m ∧ HoldsInput (b.supports .multiVectorPerTarget) m input) ∧
      ∀ query o r, b.hybrid query o = .ok r →
        ∃ m, r.hybridSearch = some m ∧ HoldsHalf (b.supports .multiVectorPerTarget) m o.vector := by
  constructor
  · intro input o r built
    obtain ⟨filters, message, _, message_ok, rfl⟩ := RequestBuilder.nearVector_ok built
    exact ⟨message, rfl, .of_nearVectorMessage message_ok⟩
  · intro query o r built
    obtain ⟨filters, s, operator, message, _, _, _, adds, rfl⟩ := RequestBuilder.hybrid_ok built
    exact ⟨message, rfl, .of_adds adds rfl rfl rfl⟩

/-- A vector and a multi-vector for two targets. An older server gets the vector alone, in a hybrid
search. -/
theorem vectors_recovered_per_target :
    let server (minor : UInt32) : RequestBuilder :=
      ⟨{ name := "Article" }, ⟨⟨1, minor, 0⟩⟩⟩
    let one : VectorValue := .single [⟨0x3f800000⟩, ⟨0x7fc00001⟩]
    let rows : VectorValue := .multi [[⟨0x80000000⟩], [⟨0x3f800000⟩]]
    let both : VectorInput := .perTarget [("body", one), ("title", rows)]
    let o : HybridOptions :=
      { alpha := HybridOptions.defaultAlpha
        vector := some (.vector (.perTarget [("body", one)])) }
    (∃ r m, (server 27).nearVector both {} = .ok r ∧ r.nearVector = some m ∧
      HoldsInput true m both) ∧
      ∃ r m, (server 26).hybrid none o = .ok r ∧ r.hybridSearch = some m ∧
        HoldsHalf false m o.vector := by
  intro server one rows both o
  have near_built : ∃ r, (server 27).nearVector both {} = .ok r := ⟨_, rfl⟩
  have hybrid_built : ∃ r, (server 26).hybrid none o = .ok r := ⟨_, rfl⟩
  obtain ⟨near, near_built⟩ := near_built
  obtain ⟨hybrid, hybrid_built⟩ := hybrid_built
  obtain ⟨m, same, holds⟩ := (vectors_recovered (server 27)).1 both {} near near_built
  obtain ⟨h, same', holds'⟩ := (vectors_recovered (server 26)).2 none o hybrid hybrid_built
  exact ⟨⟨near, m, near_built, same, holds⟩, hybrid, h, hybrid_built, same', holds'⟩

end VectorClient.Search
