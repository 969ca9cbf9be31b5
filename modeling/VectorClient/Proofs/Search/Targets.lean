import VectorClient.Proofs.KeyMap
import VectorClient.Proofs.Steps
import VectorClient.Search.Request

/-!
# Targets and near vectors

Which message stands for a selection of target vectors and for the vectors of a search, and which
checks it has passed. Later results follow these relations instead of the definitions.
-/

namespace VectorClient

theorem Capabilities.require_ok {caps : Capabilities} {c : Capability} {u : Unit} :
    caps.require c = .ok u ↔ caps.supports c = true := by
  unfold require
  split <;> simp_all

namespace Search

variable {b : RequestBuilder}

/-! ### Checks -/

theorem refuse_ok {condition : Bool} {fault : InputFault} {u : Unit} :
    refuse condition fault = .ok u ↔ condition = false := by
  cases condition <;> simp [refuse, invalid]

theorem checkTargetsMatch_ok {map : KeyMap VectorValue} {target : TargetVectors} {u : Unit} :
    checkTargetsMatch map target = .ok u ↔ ∀ name, name ∈ target.names ↔ name ∈ map.keys := by
  have selected : map.keys.find? (· ∉ target.names) = none ↔
      ∀ name ∈ map.keys, name ∈ target.names := by simp
  have given : (target.names.find? fun name => !map.contains name) = none ↔
      ∀ name ∈ target.names, name ∈ map.keys := by simp [KeyMap.contains_iff]
  unfold checkTargetsMatch
  split
  · rename_i unselected
    refine ⟨nofun, fun same => ?_⟩
    rw [selected.mpr fun name member => (same name).mpr member] at unselected
    cases unselected
  · rename_i noneUnselected
    split
    · rename_i missing
      refine ⟨nofun, fun same => ?_⟩
      rw [given.mpr fun name member => (same name).mp member] at missing
      cases missing
    · rename_i noneMissing
      exact ⟨fun _ name => ⟨given.mp noneMissing name, selected.mp noneUnselected name⟩,
        fun _ => rfl⟩

namespace RequestBuilder

theorem require_ok {c : Capability} {u : Unit} :
    b.require c = .ok u ↔ b.supports c = true := Capabilities.require_ok

/-! ### Target vectors -/

/-- Several targets and how their results are joined. -/
def combinedTargets (combination : Combination) (names : List String)
    (weights : List TargetWeight) : Wire.Targets :=
  { targetVectors := names
    combination := combination.number
    weightsForTargets := weights.map fun w => ⟨w.target, w.weight⟩ }

inductive Resolves (b : RequestBuilder) : Option TargetVectors → ResolvedTargets → Prop
  | unselected : Resolves b none {}
  | name {name : String} (named : Text.isBlank name = false)
      (old : b.supports .multiTargetSearch = false) :
      Resolves b (some (.single name)) { names := [name] }
  | single {name : String} (named : Text.isBlank name = false)
      (known : b.supports .multiTargetSearch = true) :
      Resolves b (some (.single name)) { targets := some { targetVectors := [name] } }
  | many {names : List String} (known : b.supports .multiTargetSearch = true)
      (nonempty : names ≠ []) :
      Resolves b (some (.many names)) { targets := some { targetVectors := names } }
  | combined {combination : Combination} {names : List String} {weights : List TargetWeight}
      (known : b.supports .multiTargetSearch = true) (nonempty : names ≠ [])
      (weighted : combination.needsWeights = true → weights ≠ [])
      (allowed : weights ≠ [] → b.supports .perTargetWeights = true)
      (selected : ∀ w ∈ weights, w.target ∈ names) :
      Resolves b (some (.combined combination names weights))
        { targets := some (combinedTargets combination names weights) }

theorem targets_ok {t : Option TargetVectors} {s : ResolvedTargets} :
    b.targets t = .ok s ↔ b.Resolves t s := by
  constructor
  · intro resolved
    match t with
    | none =>
      obtain rfl := pure_ok resolved
      exact .unselected
    | some (.single name) =>
      obtain ⟨_, named, resolved⟩ := bind_ok.mp resolved
      rw [refuse_ok] at named
      by_cases known : b.supports .multiTargetSearch = true
      · rw [if_pos known] at resolved
        obtain rfl := pure_ok resolved
        exact .single named known
      · rw [if_neg known] at resolved
        obtain rfl := pure_ok resolved
        exact .name named (eq_false_of_ne_true known)
    | some (.many names) =>
      obtain ⟨_, known, resolved⟩ := bind_ok.mp resolved
      obtain ⟨_, nonempty, resolved⟩ := bind_ok.mp resolved
      obtain rfl := pure_ok resolved
      exact .many (require_ok.mp known) (List.isEmpty_eq_false_iff.mp (refuse_ok.mp nonempty))
    | some (.combined combination names weights) =>
      obtain ⟨_, known, resolved⟩ := bind_ok.mp resolved
      obtain ⟨_, nonempty, resolved⟩ := bind_ok.mp resolved
      obtain ⟨_, weighted, resolved⟩ := bind_ok.mp resolved
      have weighted' : combination.needsWeights = true → weights ≠ [] := by
        intro needs empty
        rw [needs, empty] at weighted
        cases refuse_ok.mp weighted
      have allowed : weights ≠ [] → b.supports .perTargetWeights = true := by
        cases weights with
        | nil => exact fun nonempty => absurd rfl nonempty
        | cons w rest =>
          obtain ⟨_, allowed, _⟩ := bind_ok.mp resolved
          exact fun _ => require_ok.mp allowed
      have settled : weights.find? (·.target ∉ names) = none ∧
          s = { targets := some (combinedTargets combination names weights) } := by
        cases weights with
        | nil => exact ⟨rfl, (pure_ok resolved).symm⟩
        | cons w rest =>
          obtain ⟨_, _, resolved⟩ := bind_ok.mp resolved
          cases found : (w :: rest).find? (·.target ∉ names) with
          | some unknown =>
            rw [found] at resolved
            cases resolved
          | none =>
            rw [found] at resolved
            exact ⟨rfl, (pure_ok resolved).symm⟩
      obtain ⟨noneUnknown, rfl⟩ := settled
      exact .combined (require_ok.mp known) (List.isEmpty_eq_false_iff.mp (refuse_ok.mp nonempty))
        weighted' allowed (by simpa using noneUnknown)
  · intro resolves
    cases resolves with
    | unselected => rfl
    | name named old =>
      refine bind_ok.mpr ⟨(), refuse_ok.mpr named, ?_⟩
      rw [if_neg (Bool.not_eq_true _ ▸ old)]
      rfl
    | single named known =>
      refine bind_ok.mpr ⟨(), refuse_ok.mpr named, ?_⟩
      rw [if_pos known]
      rfl
    | many known nonempty =>
      exact bind_ok.mpr ⟨(), require_ok.mpr known, bind_ok.mpr
        ⟨(), refuse_ok.mpr (List.isEmpty_eq_false_iff.mpr nonempty), rfl⟩⟩
    | @combined combination names weights known nonempty weighted allowed selected =>
      have noneMissing : (combination.needsWeights && weights.isEmpty) = false := by
        cases needs : combination.needsWeights with
        | false => rfl
        | true => exact List.isEmpty_eq_false_iff.mpr (weighted needs)
      have noneUnknown : weights.find? (·.target ∉ names) = none := by simpa using selected
      refine bind_ok.mpr ⟨(), require_ok.mpr known, bind_ok.mpr
        ⟨(), refuse_ok.mpr (List.isEmpty_eq_false_iff.mpr nonempty), bind_ok.mpr
          ⟨(), refuse_ok.mpr noneMissing, ?_⟩⟩⟩
      cases weights with
      | nil => rfl
      | cons w rest =>
        refine bind_ok.mpr ⟨(), require_ok.mpr (allowed (List.cons_ne_nil _ _)), ?_⟩
        rw [noneUnknown]
        rfl

/-! ### Near vectors -/

/-- The selection that a map of vectors is searched with: its own names unless others are given,
which must be the same. -/
inductive Selects (map : KeyMap VectorValue) : Option TargetVectors → TargetVectors → Prop
  | own : Selects map none (.many map.keys)
  | given {target : TargetVectors} (same : checkTargetsMatch map target = .ok ()) :
      Selects map (some target) target

inductive Carries (b : RequestBuilder) (certainty distance : Option Number.Double) :
    VectorInput → Option TargetVectors → Wire.NearVector → Prop
  | single {v : List Number.Single} {target : Option TargetVectors} {s : ResolvedTargets}
      (nonempty : v.isEmpty = false) (resolved : b.Resolves target s) :
      Carries b certainty distance (.single v) target
        { certainty, distance, vectorBytes := Vector.encode v
          targetVectors := s.names, targets := s.targets }
  | multi {rows : List (List Number.Single)} {target : Option TargetVectors} {s : ResolvedTargets}
      {vectors : Wire.Vectors} (known : b.supports .multiVectorPerTarget = true)
      (nonempty : (rows.isEmpty || rows.any List.isEmpty) = false)
      (one : target.any (1 < ·.names.length) = false)
      (encoded : (VectorValue.multi rows).toWire "" = .ok vectors)
      (resolved : b.Resolves target s) :
      Carries b certainty distance (.multi rows) target
        { certainty, distance, vectors := [vectors]
          targetVectors := s.names, targets := s.targets }
  | perTarget {map : KeyMap VectorValue} {target : Option TargetVectors} {selected : TargetVectors}
      {s : ResolvedTargets} {vectors : List Wire.VectorForTarget}
      (known : b.supports .multiTargetSearch = true) (nonempty : map.isEmpty = false)
      (noneEmpty : List.find? (fun entry => entry.2.isEmpty) map = none)
      (selects : Selects map target selected) (resolved : b.Resolves (some selected) s)
      (several : b.supports .multiVectorPerTarget = true)
      (encoded : vectorForTargets map = .ok vectors) :
      Carries b certainty distance (.perTarget map) target
        { certainty, distance, vectorForTargets := vectors
          targetVectors := s.names, targets := s.targets }
  | onePerTarget {map : KeyMap VectorValue} {target : Option TargetVectors}
      {selected : TargetVectors} {s : ResolvedTargets} {vectors : KeyMap Wire.Bytes}
      (known : b.supports .multiTargetSearch = true) (nonempty : map.isEmpty = false)
      (noneEmpty : List.find? (fun entry => entry.2.isEmpty) map = none)
      (selects : Selects map target selected) (resolved : b.Resolves (some selected) s)
      (old : b.supports .multiVectorPerTarget = false)
      (encoded : b.vectorPerTarget map = .ok vectors) :
      Carries b certainty distance (.perTarget map) target
        { certainty, distance, vectorPerTarget := vectors
          targetVectors := s.names, targets := s.targets }

theorem select_ok {α : Type} {map : KeyMap VectorValue} {target : Option TargetVectors}
    {next : TargetVectors → Except Error α} {a : α} :
    (match target with
      | some selected => checkTargetsMatch map selected >>= fun _ => pure selected >>= next
      | none => pure (TargetVectors.many map.keys) >>= next) = .ok a ↔
    ∃ selected, Selects map target selected ∧ next selected = .ok a := by
  constructor
  · intro built
    cases target with
    | none => exact ⟨_, .own, built⟩
    | some selected =>
      obtain ⟨_, same, built⟩ := bind_ok.mp built
      exact ⟨_, .given same, built⟩
  · rintro ⟨selected, selects, done⟩
    cases selects with
    | own => exact done
    | given same => exact bind_ok.mpr ⟨(), same, done⟩

theorem nearVectorMessage_ok {input : VectorInput} {certainty distance : Option Number.Double}
    {target : Option TargetVectors} {m : Wire.NearVector} :
    b.nearVectorMessage input certainty distance target = .ok m ↔
      checkThreshold certainty distance = .ok () ∧
        b.Carries certainty distance input target m := by
  constructor
  · intro built
    obtain ⟨_, threshold, built⟩ := bind_ok.mp built
    refine ⟨threshold, ?_⟩
    match input with
    | .single v =>
      obtain ⟨_, nonempty, built⟩ := bind_ok.mp built
      obtain ⟨s, resolved, built⟩ := bind_ok.mp built
      obtain rfl := pure_ok built
      exact .single (refuse_ok.mp nonempty) (targets_ok.mp resolved)
    | .multi rows =>
      obtain ⟨_, known, built⟩ := bind_ok.mp built
      obtain ⟨_, nonempty, built⟩ := bind_ok.mp built
      obtain ⟨_, one, built⟩ := bind_ok.mp built
      obtain ⟨vectors, encoded, built⟩ := bind_ok.mp built
      obtain ⟨s, resolved, built⟩ := bind_ok.mp built
      obtain rfl := pure_ok built
      exact .multi (require_ok.mp known) (refuse_ok.mp nonempty) (refuse_ok.mp one) encoded
        (targets_ok.mp resolved)
    | .perTarget map =>
      obtain ⟨_, known, built⟩ := bind_ok.mp built
      obtain ⟨_, nonempty, built⟩ := bind_ok.mp built
      match noneEmpty : List.find? (fun entry => entry.2.isEmpty) map with
      | some entry =>
        rw [noneEmpty] at built
        cases built
      | none =>
        rw [noneEmpty] at built
        obtain ⟨selected, selects, built⟩ := select_ok.mp built
        obtain ⟨s, resolved, built⟩ := bind_ok.mp built
        by_cases several : b.supports .multiVectorPerTarget = true
        · rw [if_pos several] at built
          obtain ⟨vectors, encoded, built⟩ := bind_ok.mp built
          obtain rfl := pure_ok built
          exact .perTarget (require_ok.mp known) (refuse_ok.mp nonempty) noneEmpty selects
            (targets_ok.mp resolved) several encoded
        · rw [if_neg several] at built
          obtain ⟨vectors, encoded, built⟩ := bind_ok.mp built
          obtain rfl := pure_ok built
          exact .onePerTarget (require_ok.mp known) (refuse_ok.mp nonempty) noneEmpty selects
            (targets_ok.mp resolved) (eq_false_of_ne_true several) encoded
  · rintro ⟨threshold, carries⟩
    refine bind_ok.mpr ⟨(), threshold, ?_⟩
    cases carries with
    | single nonempty resolved =>
      exact bind_ok.mpr ⟨(), refuse_ok.mpr nonempty, bind_ok.mpr ⟨_, targets_ok.mpr resolved, rfl⟩⟩
    | multi known nonempty one encoded resolved =>
      exact bind_ok.mpr ⟨(), require_ok.mpr known, bind_ok.mpr ⟨(), refuse_ok.mpr nonempty,
        bind_ok.mpr ⟨(), refuse_ok.mpr one, bind_ok.mpr ⟨_, encoded,
          bind_ok.mpr ⟨_, targets_ok.mpr resolved, rfl⟩⟩⟩⟩⟩
    | perTarget known nonempty noneEmpty selects resolved several encoded =>
      refine bind_ok.mpr ⟨(), require_ok.mpr known, bind_ok.mpr ⟨(), refuse_ok.mpr nonempty, ?_⟩⟩
      rw [noneEmpty]
      refine select_ok.mpr ⟨_, selects, bind_ok.mpr ⟨_, targets_ok.mpr resolved, ?_⟩⟩
      rw [if_pos several]
      exact bind_ok.mpr ⟨_, encoded, rfl⟩
    | onePerTarget known nonempty noneEmpty selects resolved old encoded =>
      refine bind_ok.mpr ⟨(), require_ok.mpr known, bind_ok.mpr ⟨(), refuse_ok.mpr nonempty, ?_⟩⟩
      rw [noneEmpty]
      refine select_ok.mpr ⟨_, selects, bind_ok.mpr ⟨_, targets_ok.mpr resolved, ?_⟩⟩
      rw [if_neg (Bool.not_eq_true _ ▸ old)]
      exact bind_ok.mpr ⟨_, encoded, rfl⟩

end RequestBuilder

end Search

end VectorClient
