import VectorClient.Proofs.Search.Request

/-!
# Hybrid searches and searches near vectors

A hybrid search resolves its selection of target vectors apart from its vector half. A search near
vectors takes the same inputs only where the selection fits the vectors, which a hybrid search does
not ask for; and a map of vectors in the vector half is sent with a selection of its own.
-/

namespace VectorClient.Search

open Number

inductive HybridVector.IsNear :
    HybridVector → VectorInput → Option Double → Option Double → Prop
  | vector (input : VectorInput) : IsNear (.vector input) input none none
  | nearVector (input : VectorInput) (certainty distance : Option Double) :
      IsNear (.nearVector input certainty distance) input certainty distance

/-- A multi-vector is searched in one target, and vectors of targets in exactly those. -/
def VectorInput.Fits : VectorInput → TargetVectors → Prop
  | .single _, _ => True
  | .multi _, target => target.names.length ≤ 1
  | .perTarget map, target => ∀ name, name ∈ target.names ↔ name ∈ map.keys

def VectorInput.ownTargets : VectorInput → Option Wire.Targets
  | .single _ | .multi _ => none
  | .perTarget map => some { targetVectors := map.keys }

def HybridVector.ownTargets : HybridVector → Option Wire.Targets
  | .vector input | .nearVector input _ _ => input.ownTargets
  | .nearText .. => none

namespace RequestBuilder

variable {b : RequestBuilder} {input : VectorInput} {certainty distance : Option Double}

/-! ### With a selection and without -/

theorem selects_given {map : KeyMap VectorValue} {target selected : TargetVectors} :
    Selects map (some target) selected ↔
      selected = target ∧ (VectorInput.perTarget map).Fits target := by
  constructor
  · intro selects
    cases selects with
    | given same => exact ⟨rfl, checkTargetsMatch_ok.mp same⟩
  · rintro ⟨rfl, same⟩
    exact .given (checkTargetsMatch_ok.mpr same)

theorem resolves_keys {map : KeyMap VectorValue} (known : b.supports .multiTargetSearch = true)
    (nonempty : map.isEmpty = false) :
    b.Resolves (some (.many map.keys)) { targets := some { targetVectors := map.keys } } := by
  refine .many known fun noKeys => ?_
  rw [List.map_eq_nil_iff.mp noKeys] at nonempty
  cases nonempty

theorem carries_given {target : TargetVectors} :
    (∃ m, b.Carries certainty distance input (some target) m) ↔
      (∃ m, b.Carries certainty distance input none m) ∧ (∃ s, b.Resolves (some target) s) ∧
        input.Fits target := by
  constructor
  · rintro ⟨m, carries⟩
    cases carries with
    | single nonempty resolved =>
      exact ⟨⟨_, .single nonempty .unselected⟩, ⟨_, resolved⟩, trivial⟩
    | multi known nonempty one encoded resolved =>
      have atMostOne : target.names.length ≤ 1 := by simpa using one
      exact ⟨⟨_, .multi known nonempty rfl encoded .unselected⟩, ⟨_, resolved⟩, atMostOne⟩
    | perTarget known nonempty noneEmpty selects resolved several encoded =>
      obtain ⟨rfl, fits⟩ := selects_given.mp selects
      exact ⟨⟨_, .perTarget known nonempty noneEmpty .own (resolves_keys known nonempty) several
        encoded⟩, ⟨_, resolved⟩, fits⟩
    | onePerTarget known nonempty noneEmpty selects resolved old encoded =>
      obtain ⟨rfl, fits⟩ := selects_given.mp selects
      exact ⟨⟨_, .onePerTarget known nonempty noneEmpty .own (resolves_keys known nonempty) old
        encoded⟩, ⟨_, resolved⟩, fits⟩
  · rintro ⟨⟨m, carries⟩, ⟨s, resolved⟩, fits⟩
    cases carries with
    | single nonempty => exact ⟨_, .single nonempty resolved⟩
    | multi known nonempty _ encoded =>
      have one : (some target).any (1 < ·.names.length) = false := by
        simpa [VectorInput.Fits] using fits
      exact ⟨_, .multi known nonempty one encoded resolved⟩
    | perTarget known nonempty noneEmpty _ _ several encoded =>
      have selects : Selects _ (some target) target := selects_given.mpr ⟨rfl, fits⟩
      exact ⟨_, .perTarget known nonempty noneEmpty selects resolved several encoded⟩
    | onePerTarget known nonempty noneEmpty _ _ old encoded =>
      have selects : Selects _ (some target) target := selects_given.mpr ⟨rfl, fits⟩
      exact ⟨_, .onePerTarget known nonempty noneEmpty selects resolved old encoded⟩

/-- A selection of targets adds two conditions to the message near vectors: that it can be sent, and
that it fits the vectors. -/
theorem nearVectorMessage_given {target : Option TargetVectors} :
    (∃ m, b.nearVectorMessage input certainty distance target = .ok m) ↔
      (∃ m, b.nearVectorMessage input certainty distance none = .ok m) ∧
        (∃ s, b.Resolves target s) ∧ ∀ t ∈ target, input.Fits t := by
  cases target with
  | none =>
    refine ⟨fun built => ⟨built, ⟨_, .unselected⟩, nofun⟩, ?_⟩
    rintro ⟨built, _⟩
    exact built
  | some target =>
    constructor
    · rintro ⟨m, built⟩
      obtain ⟨threshold, carries⟩ := nearVectorMessage_ok.mp built
      obtain ⟨⟨m', without⟩, resolved, fits⟩ := carries_given.mp ⟨m, carries⟩
      refine ⟨⟨m', nearVectorMessage_ok.mpr ⟨threshold, without⟩⟩, resolved, ?_⟩
      intro t same
      obtain rfl := Option.some.inj same
      exact fits
    · rintro ⟨⟨m, built⟩, resolved, fits⟩
      obtain ⟨threshold, without⟩ := nearVectorMessage_ok.mp built
      obtain ⟨m', carries⟩ := carries_given.mpr ⟨⟨m, without⟩, resolved, fits target rfl⟩
      exact ⟨m', nearVectorMessage_ok.mpr ⟨threshold, carries⟩⟩

/-! ### Which searches are accepted -/

theorem nearVector_accepted {o : NearOptions} :
    (∃ r, b.nearVector input o = .ok r) ↔
      (∃ m, b.nearVectorMessage input o.certainty o.distance o.target = .ok m) ∧
        ∃ filters, Filter.serialize? o.common.filter = .ok filters := by
  constructor
  · rintro ⟨r, built⟩
    obtain ⟨filters, message, serialized, message_ok, _⟩ := nearVector_ok built
    exact ⟨⟨message, message_ok⟩, filters, serialized⟩
  · rintro ⟨⟨message, message_ok⟩, filters, serialized⟩
    exact ⟨_, bind_ok.mpr ⟨message, message_ok,
      bind_ok.mpr ⟨_, bind_ok.mpr ⟨filters, serialized, rfl⟩, rfl⟩⟩⟩

variable {half : HybridVector}

theorem Adds.message_ok {message m : Wire.Hybrid} (adds : b.Adds message (some half) m)
    (near : half.IsNear input certainty distance) :
    ∃ inner, b.nearVectorMessage input certainty distance none = .ok inner := by
  cases near with
  | vector =>
    cases adds with
    | bytes nonempty => exact ⟨_, nearVectorMessage_ok.mpr ⟨rfl, .single nonempty .unselected⟩⟩
    | input _ built => exact ⟨_, built⟩
  | nearVector =>
    cases adds with
    | nearVector built => exact ⟨_, built⟩

theorem withHybridVector_of_message_ok {inner : Wire.NearVector} (message : Wire.Hybrid)
    (near : half.IsNear input certainty distance)
    (built : b.nearVectorMessage input certainty distance none = .ok inner) :
    ∃ m, b.withHybridVector message (some half) = .ok m := by
  cases near with
  | vector =>
    cases input with
    | single v =>
      -- The lanes stand in the hybrid message itself, after the same check.
      obtain ⟨_, carries⟩ := nearVectorMessage_ok.mp built
      cases carries with
      | single nonempty => exact ⟨_, bind_ok.mpr ⟨(), refuse_ok.mpr nonempty, rfl⟩⟩
    | multi rows => exact ⟨_, bind_ok.mpr ⟨inner, built, rfl⟩⟩
    | perTarget map => exact ⟨_, bind_ok.mpr ⟨inner, built, rfl⟩⟩
  | nearVector => exact ⟨_, bind_ok.mpr ⟨inner, built, rfl⟩⟩

theorem hybrid_accepted (near : half.IsNear input certainty distance) {query : Option String}
    {o : HybridOptions} (half_eq : o.vector = some half) (alpha : o.alpha.inUnitInterval = true)
    (noOperator : o.operator = none) :
    (∃ r, b.hybrid query o = .ok r) ↔
      (∃ m, b.nearVectorMessage input certainty distance none = .ok m) ∧
        (∃ s, b.Resolves o.target s) ∧
          ∃ filters, Filter.serialize? o.common.filter = .ok filters := by
  constructor
  · rintro ⟨r, built⟩
    obtain ⟨filters, s, operator, message, serialized, resolved, _, adds, _⟩ := hybrid_ok built
    rw [half_eq] at adds
    exact ⟨adds.message_ok near, ⟨s, resolved⟩, filters, serialized⟩
  · rintro ⟨⟨inner, inner_built⟩, ⟨s, resolved⟩, filters, serialized⟩
    have asked : refuse (query.all Text.isBlank && o.vector.isNone) .emptyHybrid = .ok () := by
      rw [half_eq, Option.isNone_some, Bool.and_false]
      rfl
    have inRange : refuse (!o.alpha.inUnitInterval) (.alpha o.alpha) = .ok () := by
      rw [alpha]
      rfl
    have unrestricted : b.searchOperator o.operator = .ok none := by
      rw [noOperator]
      rfl
    obtain ⟨message, added⟩ := withHybridVector_of_message_ok _ near inner_built
    rw [← half_eq] at added
    exact ⟨_, bind_ok.mpr ⟨(), asked, bind_ok.mpr ⟨(), inRange,
      bind_ok.mpr ⟨s, targets_ok.mpr resolved, bind_ok.mpr ⟨none, unrestricted,
        bind_ok.mpr ⟨message, added,
          bind_ok.mpr ⟨_, bind_ok.mpr ⟨filters, serialized, rfl⟩, rfl⟩⟩⟩⟩⟩⟩⟩

/-- A search near vectors is accepted iff the hybrid search with the same vectors, selection and
options is, and the selection fits the vectors. -/
theorem nearVector_accepted_iff_hybrid (near : half.IsNear input certainty distance)
    (query : Option String) {o : HybridOptions} (half_eq : o.vector = some half)
    (alpha : o.alpha.inUnitInterval = true) (noOperator : o.operator = none) :
    (∃ r, b.nearVector input ⟨certainty, distance, o.target, o.common⟩ = .ok r) ↔
      (∃ r, b.hybrid query o = .ok r) ∧ ∀ target ∈ o.target, input.Fits target := by
  rw [nearVector_accepted, nearVectorMessage_given, hybrid_accepted near half_eq alpha noOperator]
  constructor
  · rintro ⟨⟨built, resolved, fits⟩, serialized⟩
    exact ⟨⟨built, resolved, serialized⟩, fits⟩
  · rintro ⟨⟨built, resolved, serialized⟩, fits⟩
    exact ⟨⟨built, resolved, fits⟩, serialized⟩

/-- A map of vectors that is searched in its only target. -/
theorem nearVector_accepted_iff_hybrid_per_target :
    let b : RequestBuilder := ⟨{ name := "Article" }, .latest⟩
    let input : VectorInput := .perTarget [("title", .single [⟨0x3f800000⟩])]
    let o : HybridOptions :=
      { alpha := HybridOptions.defaultAlpha, vector := some (.nearVector input none none)
        target := some (.single "title") }
    (∃ r, b.hybrid none o = .ok r) ∧ input.Fits (.single "title") ∧
      ∃ r, b.nearVector input ⟨none, none, o.target, o.common⟩ = .ok r := by
  intro b input o
  have accepted : ∃ r, b.hybrid none o = .ok r := ⟨_, rfl⟩
  have fits : ∀ target ∈ o.target, input.Fits target := by
    intro target same name
    obtain rfl := Option.some.inj same
    exact Iff.rfl
  exact ⟨accepted, fits _ rfl, (nearVector_accepted_iff_hybrid (.nearVector input none none) none
    rfl (by decide) rfl).mpr ⟨accepted, fits⟩⟩

/-- A hybrid search takes a multi-vector for two targets, and a map of vectors for a target that it
does not have. A search near vectors refuses both. -/
theorem hybrid_accepts_unfit_selection :
    let b : RequestBuilder := ⟨{ name := "Article" }, .latest⟩
    let rows : VectorInput := .multi [[⟨0x3f800000⟩]]
    let map : VectorInput := .perTarget [("title", .single [⟨0x3f800000⟩])]
    let accepts (input : VectorInput) (target : TargetVectors) : Prop :=
      ∃ r, b.hybrid none {
        alpha := HybridOptions.defaultAlpha, vector := some (.nearVector input none none)
        target := some target } = .ok r
    (accepts rows (.many ["a", "b"]) ∧
      b.nearVector rows { target := some (.many ["a", "b"]) } =
        .error (.invalidInput .severalTargets)) ∧
      accepts map (.single "body") ∧
        b.nearVector map { target := some (.single "body") } =
          .error (.invalidInput (.unselectedTarget "title")) := by
  intro b rows map accepts
  exact ⟨⟨⟨_, rfl⟩, rfl⟩, ⟨_, rfl⟩, rfl⟩

/-! ### Where the targets stand -/

theorem Carries.selection_of_none {m : Wire.NearVector}
    (carries : b.Carries certainty distance input none m) :
    m.targetVectors = [] ∧ m.targets = input.ownTargets := by
  cases carries with
  | single _ resolved =>
    cases resolved
    exact ⟨rfl, rfl⟩
  | multi _ _ _ _ resolved =>
    cases resolved
    exact ⟨rfl, rfl⟩
  | perTarget _ _ _ selects resolved =>
    cases selects
    cases resolved
    exact ⟨rfl, rfl⟩
  | onePerTarget _ _ _ selects resolved =>
    cases selects
    cases resolved
    exact ⟨rfl, rfl⟩

theorem Adds.inner_selection {message m : Wire.Hybrid} {v : Option HybridVector}
    (adds : b.Adds message v m) (noVector : message.nearVector = none) :
    ∀ near ∈ m.nearVector,
      near.targetVectors = [] ∧ near.targets = v.bind HybridVector.ownTargets := by
  intro near same
  cases adds with
  | keywords => simp [noVector] at same
  | bytes => simp [noVector] at same
  | nearText => simp [noVector] at same
  | input _ built =>
    obtain rfl := Option.some.inj same
    exact (nearVectorMessage_ok.mp built).2.selection_of_none
  | nearVector built =>
    obtain rfl := Option.some.inj same
    exact (nearVectorMessage_ok.mp built).2.selection_of_none

/-- The selection stands in the hybrid message. Of the messages inside of it only that near vectors
can name targets, and these are the ones of a map of vectors. -/
theorem hybrid_targets {query : Option String} {o : HybridOptions} {r : Wire.SearchRequest}
    (built : b.hybrid query o = .ok r) :
    ∃ m s, r.hybridSearch = some m ∧ b.Resolves o.target s ∧
      m.targetVectors = s.names ∧ m.targets = s.targets ∧
      (∀ text ∈ m.nearText, text.targetVectors = [] ∧ text.targets = none) ∧
      ∀ near ∈ m.nearVector,
        near.targetVectors = [] ∧ near.targets = o.vector.bind HybridVector.ownTargets := by
  obtain ⟨filters, s, operator, m, _, resolved, _, adds, rfl⟩ := hybrid_ok built
  obtain ⟨names, targets, _⟩ := adds.frame
  obtain ⟨_, texts⟩ := adds.half rfl rfl
  exact ⟨m, s, rfl, resolved, names, targets, texts, adds.inner_selection rfl⟩

/-- A map of vectors whose only target is selected: it is named twice. -/
theorem hybrid_targets_of_selected_map :
    let b : RequestBuilder := ⟨{ name := "Article" }, .latest⟩
    let o : HybridOptions :=
      { alpha := HybridOptions.defaultAlpha, target := some (.single "title")
        vector := some (.vector (.perTarget [("title", .single [⟨0x3f800000⟩])])) }
    ∃ r m near, b.hybrid none o = .ok r ∧ r.hybridSearch = some m ∧ m.nearVector = some near ∧
      m.targets = some { targetVectors := ["title"] } ∧
      near.targets = some { targetVectors := ["title"] } := by
  intro b o
  have accepted : ∃ r m near, b.hybrid none o = .ok r ∧ r.hybridSearch = some m ∧
      m.nearVector = some near := ⟨_, _, _, rfl, rfl, rfl⟩
  obtain ⟨r, m, near, built, found, inside⟩ := accepted
  obtain ⟨m', s, found', resolved, _, targets, _, vectors⟩ := hybrid_targets built
  obtain rfl := Option.some.inj (found.symm.trans found')
  have selected : s.targets = some { targetVectors := ["title"] } := by
    cases resolved with
    | name _ old => cases old
    | single => rfl
  exact ⟨r, m, near, built, found, inside, targets.trans selected, (vectors near inside).2⟩

/-- Without a selection the targets of a map are named in the message near vectors alone. -/
theorem hybrid_targets_of_map_inside :
    let b : RequestBuilder := ⟨{ name := "Article" }, .latest⟩
    let o : HybridOptions :=
      { alpha := HybridOptions.defaultAlpha
        vector := some (.vector (.perTarget [("title", .single [⟨0x3f800000⟩])])) }
    ∃ r m near, b.hybrid none o = .ok r ∧ r.hybridSearch = some m ∧ m.nearVector = some near ∧
      m.targetVectors = [] ∧ m.targets = none ∧
      near.targets = some { targetVectors := ["title"] } := by
  intro b o
  exact ⟨_, _, _, rfl, rfl, rfl, rfl, rfl, rfl⟩

end RequestBuilder

end VectorClient.Search
