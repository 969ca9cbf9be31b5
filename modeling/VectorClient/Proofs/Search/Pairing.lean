import VectorClient.Proofs.Search.Vectors

/-!
# Targets and the vectors they carry

A search with a vector for each target names the targets in its selection and again with their
vectors. The two name the same targets, and each vector has one; but a selection that repeats a name
is sent as it was given.
-/

namespace VectorClient

namespace Search

/-- The names that vectors are sent under, in either form. -/
def carriers (m : Wire.NearVector) : List String :=
  m.vectorForTargets.map (·.name) ++ m.vectorPerTarget.keys

theorem HoldsInput.carriers {several : Bool} {m : Wire.NearVector} {map : KeyMap VectorValue}
    (holds : HoldsInput several m (.perTarget map)) : carriers m = map.keys := by
  obtain ⟨_, _, _, sent⟩ := holds
  cases several with
  | true =>
    obtain ⟨noneAlone, several⟩ := sent
    have names := congrArg (List.map Prod.fst) several
    rw [List.map_map, List.map_map] at names
    rw [Search.carriers, noneAlone, KeyMap.keys, List.map_nil, List.append_nil]
    exact names
  | false =>
    obtain ⟨noneSeveral, alone⟩ := sent
    have names := congrArg (List.map Prod.fst) alone
    rw [List.map_map, List.map_map] at names
    rw [Search.carriers, noneSeveral, List.map_nil, List.nil_append]
    exact names

namespace RequestBuilder

variable {b : RequestBuilder} {map : KeyMap VectorValue} {target : Option TargetVectors}

theorem Selects.names {selected : TargetVectors} (selects : Selects map target selected) :
    selected.names = (target.map TargetVectors.names).getD map.keys ∧
      ∀ name, name ∈ selected.names ↔ name ∈ map.keys := by
  cases selects with
  | own => exact ⟨rfl, fun _ => Iff.rfl⟩
  | given same => exact ⟨rfl, checkTargetsMatch_ok.mp same⟩

theorem Resolves.targets_of_known {selected : TargetVectors} {s : ResolvedTargets}
    (known : b.supports .multiTargetSearch = true) (resolves : b.Resolves (some selected) s) :
    ∃ t, s.targets = some t ∧ t.targetVectors = selected.names ∧ s.names = [] := by
  cases resolves with
  | name _ old =>
    rw [known] at old
    cases old
  | single => exact ⟨_, rfl, rfl, rfl⟩
  | many => exact ⟨_, rfl, rfl, rfl⟩
  | combined => exact ⟨_, rfl, rfl, rfl⟩

theorem Carries.selection_perTarget {certainty distance : Option Number.Double}
    {m : Wire.NearVector} (carries : b.Carries certainty distance (.perTarget map) target m) :
    ∃ t, m.targets = some t ∧ m.targetVectors = [] ∧
      t.targetVectors = (target.map TargetVectors.names).getD map.keys ∧
      ∀ name, name ∈ t.targetVectors ↔ name ∈ map.keys := by
  cases carries with
  | perTarget known _ _ selects resolved =>
    obtain ⟨t, sent, names, alone⟩ := resolved.targets_of_known known
    obtain ⟨given, same⟩ := selects.names
    rw [← names] at given same
    exact ⟨t, sent, alone, given, same⟩
  | onePerTarget known _ _ selects resolved =>
    obtain ⟨t, sent, names, alone⟩ := resolved.targets_of_known known
    obtain ⟨given, same⟩ := selects.names
    rw [← names] at given same
    exact ⟨t, sent, alone, given, same⟩

/-- A search with a vector for each target selects the targets of the vectors and no others. Each
vector has a target of its own, and each target is selected once unless a selection that was given
repeats it. -/
theorem targets_carry_vectors {o : NearOptions} {r : Wire.SearchRequest} (ordered : map.Ordered)
    (built : b.nearVector (.perTarget map) o = .ok r) :
    ∃ m t, r.nearVector = some m ∧ m.targets = some t ∧ m.targetVectors = [] ∧
      t.targetVectors = (o.target.map TargetVectors.names).getD map.keys ∧
      (∀ name, name ∈ t.targetVectors ↔ name ∈ map.keys) ∧
      (t.targetVectors.Perm map.keys ↔ ∀ selection ∈ o.target, selection.names.Nodup) ∧
      carriers m = map.keys ∧ (carriers m).Nodup := by
  obtain ⟨filters, m, _, message_ok, rfl⟩ := nearVector_ok built
  obtain ⟨t, sent, alone, given, same⟩ :=
    (nearVectorMessage_ok.mp message_ok).2.selection_perTarget
  have carried : carriers m = map.keys :=
    HoldsInput.carriers (.of_nearVectorMessage message_ok)
  have keys_nodup : map.keys.Nodup := ordered.nodup_keys
  have paired : t.targetVectors.Perm map.keys ↔ t.targetVectors.Nodup := by
    constructor
    · intro perm
      exact perm.nodup_iff.mpr keys_nodup
    · intro nodup
      exact (List.perm_ext_iff_of_nodup nodup keys_nodup).mpr same
  have once : t.targetVectors.Nodup ↔ ∀ selection ∈ o.target, selection.names.Nodup := by
    rw [given]
    cases o.target with
    | none => simp [keys_nodup]
    | some selection => simp
  exact ⟨m, t, rfl, sent, alone, given, same, paired.trans once, carried, carried ▸ keys_nodup⟩

/-- A vector and a multi-vector, whose targets are selected with weights in another order. -/
theorem targets_carry_vectors_weighted :
    let b : RequestBuilder := ⟨{ name := "Article" }, .latest⟩
    let map : KeyMap VectorValue :=
      [("body", .single [⟨0x3f800000⟩]), ("title", .multi [[⟨0⟩], [⟨0x3f800000⟩]])]
    let weights : List TargetWeight := [⟨"title", ⟨0x3f000000⟩⟩, ⟨"body", ⟨0x3f800000⟩⟩]
    let o : NearOptions := { target := some (.combined .manualWeights ["title", "body"] weights) }
    map.Ordered ∧ ∃ r m t, b.nearVector (.perTarget map) o = .ok r ∧ r.nearVector = some m ∧
      m.targets = some t ∧ t.targetVectors = ["title", "body"] ∧
      t.targetVectors.Perm map.keys ∧ carriers m = map.keys := by
  intro b map weights o
  have ordered : map.Ordered := by
    unfold KeyMap.Ordered
    decide
  obtain ⟨r, built⟩ : ∃ r, b.nearVector (.perTarget map) o = .ok r := ⟨_, rfl⟩
  obtain ⟨m, t, found, sent, _, given, _, paired, carried, _⟩ :=
    targets_carry_vectors ordered built
  have once : ∀ selection ∈ o.target, selection.names.Nodup := by
    intro selection same
    obtain rfl := Option.some.inj same
    decide
  exact ⟨ordered, r, m, t, built, found, sent, given, paired.mpr once, carried⟩

/-- A selection that names its only target twice is accepted and sent as it is. -/
theorem targets_repeated_in_selection :
    let b : RequestBuilder := ⟨{ name := "Article" }, .latest⟩
    let map : KeyMap VectorValue := [("title", .single [⟨0x3f800000⟩])]
    ∃ r m t, b.nearVector (.perTarget map) { target := some (.many ["title", "title"]) } = .ok r ∧
      r.nearVector = some m ∧ m.targets = some t ∧ t.targetVectors = ["title", "title"] ∧
      ¬ t.targetVectors.Perm map.keys ∧ carriers m = ["title"] := by
  intro b map
  refine ⟨_, _, _, rfl, rfl, rfl, rfl, ?_, rfl⟩
  decide

end RequestBuilder

end Search

end VectorClient
