import VectorClient.Proofs.Search.Pairing

/-!
# Selections of target vectors

The target vectors of a request are named by the selection of its search and by the map of its
vectors. All of these names are sent and no others, whichever fields the server has for them. That a
name is not blank is checked of a single target alone.
-/

namespace VectorClient

namespace Wire.Targets

def names (t : Wire.Targets) : List String :=
  t.targetVectors ++ t.weights.keys ++ t.weightsForTargets.map (·.target)

end Wire.Targets

namespace Search

/-! ### Where names are sent -/

def ResolvedTargets.allNames (s : ResolvedTargets) : List String :=
  s.names ++ s.targets.toList.flatMap Wire.Targets.names

/-- The selection of a message near vectors. -/
def nearSelection (m : Wire.NearVector) : ResolvedTargets := ⟨m.targetVectors, m.targets⟩

/-- The names that vectors are sent under, on the entries of targets and on the vectors in them. -/
def vectorNames (m : Wire.NearVector) : List String :=
  carriers m ++ m.vectorForTargets.flatMap fun t => t.vectors.map (·.name)

def targetNames (r : Wire.SearchRequest) : List String :=
  (selections r).flatMap ResolvedTargets.allNames ++ (nearVectors r).flatMap vectorNames

/-! ### What names are given -/

/-- The vectors that are given by target. -/
def VectorInput.named : VectorInput → KeyMap VectorValue
  | .single _ | .multi _ => []
  | .perTarget map => map

def HybridVector.named : HybridVector → KeyMap VectorValue
  | .vector input | .nearVector input _ _ => input.named
  | .nearText .. => []

def selectedNames : Option TargetVectors → List String
  | none => []
  | some selection => selection.names

namespace RequestBuilder

inductive BuildsFor (b : RequestBuilder) :
    Option TargetVectors → KeyMap VectorValue → Wire.SearchRequest → Prop
  | fetch {o : FetchOptions} {r : Wire.SearchRequest} (built : b.fetch o = .ok r) :
      BuildsFor b none [] r
  | fetchById {id : Uuid} {o : CommonOptions} {r : Wire.SearchRequest}
      (built : b.fetchById id o = .ok r) : BuildsFor b none [] r
  | keywords {query : String} {o : KeywordOptions} {r : Wire.SearchRequest}
      (built : b.keywords query o = .ok r) : BuildsFor b none [] r
  | hybrid {query : Option String} {o : HybridOptions} {r : Wire.SearchRequest}
      (built : b.hybrid query o = .ok r) :
      BuildsFor b o.target ((o.vector.map HybridVector.named).getD []) r
  | nearObject {id : Uuid} {o : NearOptions} {r : Wire.SearchRequest}
      (built : b.nearObject id o = .ok r) : BuildsFor b o.target [] r
  | nearVector {input : VectorInput} {o : NearOptions} {r : Wire.SearchRequest}
      (built : b.nearVector input o = .ok r) : BuildsFor b o.target input.named r
  | nearText {query : List String} {o : NearTextOptions} {r : Wire.SearchRequest}
      (built : b.nearText query o = .ok r) : BuildsFor b o.near.target [] r
  | nearMedia {media : Media} {content : String} {o : NearOptions} {r : Wire.SearchRequest}
      (built : b.nearMedia media content o = .ok r) : BuildsFor b o.target [] r
  | withGroupBy {target : Option TargetVectors} {map : KeyMap VectorValue}
      {r grouped : Wire.SearchRequest} {g : GroupByOptions} (before : BuildsFor b target map r)
      (added : withGroupBy r g = .ok grouped) : BuildsFor b target map grouped
  | withGenerative {target : Option TargetVectors} {map : KeyMap VectorValue}
      {r generating : Wire.SearchRequest} {g : GenerativeOptions}
      (before : BuildsFor b target map r) (added : withGenerative r g = .ok generating) :
      BuildsFor b target map generating

inductive Places (b : RequestBuilder) : Option TargetVectors → KeyMap VectorValue →
    List ResolvedTargets → List Wire.NearVector → Prop
  | nowhere : Places b none [] [] []
  | message {target : Option TargetVectors} {s : ResolvedTargets}
      (resolves : b.Resolves target s) : Places b target [] [s] []
  /-- A text inside of a hybrid search has no selection of its own. -/
  | text {target : Option TargetVectors} {s : ResolvedTargets}
      (resolves : b.Resolves target s) : Places b target [] [s, {}] []
  | nearVector {input : VectorInput} {certainty distance : Option Number.Double}
      {target : Option TargetVectors} {m : Wire.NearVector}
      (carries : b.Carries certainty distance input target m) :
      Places b target input.named [nearSelection m] [m]
  | hybrid {target : Option TargetVectors} {s : ResolvedTargets} {input : VectorInput}
      {certainty distance : Option Number.Double} {m : Wire.NearVector}
      (resolves : b.Resolves target s) (carries : b.Carries certainty distance input none m) :
      Places b target input.named [s, nearSelection m] [m]

variable {b : RequestBuilder} {r : Wire.SearchRequest} {target : Option TargetVectors}
  {map : KeyMap VectorValue} {s : ResolvedTargets}

theorem Adds.places {message m : Wire.Hybrid} {v : Option HybridVector} {o : CommonOptions}
    {filters : Option Wire.Filters} (adds : b.Adds message v m)
    (resolves : b.Resolves target ⟨message.targetVectors, message.targets⟩)
    (noVector : message.nearVector = none) (noText : message.nearText = none) :
    let r : Wire.SearchRequest := { b.shared o filters with hybridSearch := some m }
    b.Places target ((v.map HybridVector.named).getD []) (selections r) (nearVectors r) := by
  obtain ⟨query, properties, vector, alpha, fusion, bytes, names, text, near, targets, operator,
    distance⟩ := message
  obtain rfl : near = none := noVector
  obtain rfl : text = none := noText
  cases adds with
  | keywords => exact .message resolves
  | bytes => exact .message resolves
  | input _ built => exact .hybrid resolves (nearVectorMessage_ok.mp built).2
  | nearVector built => exact .hybrid resolves (nearVectorMessage_ok.mp built).2
  | nearText => exact .text resolves

theorem BuildsFor.places (builds : b.BuildsFor target map r) :
    b.Places target map (selections r) (nearVectors r) := by
  induction builds with
  | fetch built =>
    obtain ⟨filters, _, rfl⟩ := fetch_ok built
    exact .nowhere
  | fetchById built =>
    obtain ⟨filters, rfl⟩ := fetchById_ok built
    exact .nowhere
  | keywords built =>
    obtain ⟨filters, operator, _, _, rfl⟩ := keywords_ok built
    exact .nowhere
  | hybrid built =>
    obtain ⟨filters, s, operator, message, _, resolves, _, adds, rfl⟩ := hybrid_ok built
    exact adds.places resolves rfl rfl
  | nearObject built =>
    obtain ⟨filters, s, _, resolves, _, rfl⟩ := nearObject_ok built
    exact .message resolves
  | nearVector built =>
    obtain ⟨filters, m, _, message_ok, rfl⟩ := nearVector_ok built
    exact .nearVector (nearVectorMessage_ok.mp message_ok).2
  | nearText built =>
    obtain ⟨filters, s, towards, away, _, resolves, _, _, _, _, rfl⟩ := nearText_ok built
    exact .message resolves
  | @nearMedia media _ _ _ built =>
    obtain ⟨filters, s, _, resolves, _, rfl⟩ := nearMedia_ok built
    cases media <;> exact .message resolves
  | withGroupBy before added ih =>
    obtain ⟨limit, groupBy, rfl⟩ := withGroupBy_frame added
    exact ih
  | withGenerative before added ih =>
    obtain ⟨generative, rfl⟩ := withGenerative_frame added
    exact ih

/-! ### Names -/

theorem Resolves.mem_allNames (resolves : b.Resolves target s) {name : String} :
    name ∈ s.allNames ↔ name ∈ selectedNames target := by
  cases resolves with
  | unselected => exact Iff.rfl
  | name => simp [ResolvedTargets.allNames, selectedNames, TargetVectors.names]
  | single | many =>
    simp [ResolvedTargets.allNames, selectedNames, TargetVectors.names, Wire.Targets.names,
      KeyMap.keys]
  | @combined _ names weights _ _ _ _ selected =>
    have weightNames : ∀ w ∈ weights, w.target = name → name ∈ names := by
      rintro w member rfl
      exact selected w member
    simpa [ResolvedTargets.allNames, selectedNames, TargetVectors.names, Wire.Targets.names,
      KeyMap.keys, combinedTargets] using weightNames

theorem Selects.mem_names {selected : TargetVectors} (selects : Selects map target selected)
    (resolves : b.Resolves (some selected) s) {name : String} :
    name ∈ s.allNames ∨ name ∈ map.keys ↔ name ∈ selectedNames target ∨ name ∈ map.keys := by
  have searched : name ∈ s.allNames ↔ name ∈ map.keys :=
    resolves.mem_allNames.trans (selects.names.2 name)
  have given : name ∈ selectedNames target → name ∈ map.keys := by
    cases selects with
    | own => exact nofun
    | given same => exact (checkTargetsMatch_ok.mp same name).mp
  rw [or_iff_right_of_imp searched.mp, or_iff_right_of_imp given]

theorem names_of_vectorForTargets {sent : List Wire.VectorForTarget}
    (written : vectorForTargets map = .ok sent)
    (filled : ∀ entry ∈ map, entry.2.isEmpty = false) :
    (sent.flatMap fun t => t.vectors.map (·.name)) = map.keys := by
  induction map generalizing sent with
  | nil =>
    obtain rfl := Except.ok.inj written
    rfl
  | cons entry rest ih =>
    obtain ⟨name, value⟩ := entry
    obtain ⟨w, first, written⟩ := bind_ok.mp written
    obtain ⟨others, others_written, written⟩ := bind_ok.mp written
    obtain rfl := pure_ok written
    obtain ⟨value_filled, rest_filled⟩ := List.forall_mem_cons.mp filled
    rw [List.flatMap_cons, ih others_written rest_filled]
    exact congrArg (· :: KeyMap.keys rest) (VectorValue.ofWire_toWire first value_filled).1

theorem Carries.mem_vectorNames {input : VectorInput} {certainty distance : Option Number.Double}
    {m : Wire.NearVector} (carries : b.Carries certainty distance input target m) {name : String} :
    name ∈ vectorNames m ↔ name ∈ input.named.keys := by
  have carried := HoldsInput.of_carries carries
  cases carries with
  | single | multi => exact Iff.rfl
  | perTarget _ _ noneEmpty _ _ _ written =>
    have filled := fun entry member =>
      eq_false_of_ne_true (List.find?_eq_none.mp noneEmpty entry member)
    rw [vectorNames, carried.carriers, names_of_vectorForTargets written filled, List.mem_append,
      or_self]
    rfl
  | onePerTarget =>
    rw [vectorNames, carried.carriers, List.flatMap_nil, List.append_nil]
    rfl

theorem Carries.mem_names {input : VectorInput} {certainty distance : Option Number.Double}
    {m : Wire.NearVector} (carries : b.Carries certainty distance input target m) {name : String} :
    name ∈ (nearSelection m).allNames ∨ name ∈ vectorNames m ↔
      name ∈ selectedNames target ∨ name ∈ input.named.keys := by
  rw [carries.mem_vectorNames]
  cases carries with
  | single _ resolved => exact or_congr_left resolved.mem_allNames
  | multi _ _ _ _ resolved => exact or_congr_left resolved.mem_allNames
  | perTarget _ _ _ selects resolved => exact selects.mem_names resolved
  | onePerTarget _ _ _ selects resolved => exact selects.mem_names resolved

theorem Places.mem_names {sent : List ResolvedTargets} {near : List Wire.NearVector}
    (places : b.Places target map sent near) {name : String} :
    name ∈ sent.flatMap ResolvedTargets.allNames ∨ name ∈ near.flatMap vectorNames ↔
      name ∈ selectedNames target ∨ name ∈ map.keys := by
  cases places with
  | nowhere => exact Iff.rfl
  | message resolves =>
    rw [List.flatMap_singleton, resolves.mem_allNames]
    exact Iff.rfl
  | text resolves =>
    have plain : name ∉ ({} : ResolvedTargets).allNames := List.not_mem_nil
    rw [List.flatMap_cons, List.flatMap_singleton, List.mem_append, resolves.mem_allNames,
      or_iff_left plain]
    exact Iff.rfl
  | nearVector carries =>
    rw [List.flatMap_singleton, List.flatMap_singleton, carries.mem_names]
  | hybrid resolves carries =>
    have unselected : name ∉ selectedNames none := List.not_mem_nil
    rw [List.flatMap_cons, List.flatMap_singleton, List.flatMap_singleton, List.mem_append,
      or_assoc, carries.mem_names, resolves.mem_allNames, or_iff_right unselected]

/-- A request names the target vectors of its selection and of its vectors, and no others. -/
theorem BuildsFor.mem_targetNames (builds : b.BuildsFor target map r) {name : String} :
    name ∈ targetNames r ↔ name ∈ selectedNames target ∨ name ∈ map.keys :=
  List.mem_append.trans builds.places.mem_names

theorem Selects.selected {selected : TargetVectors} (selects : Selects map target selected)
    (resolves : b.Resolves (some selected) s) :
    b.Resolves target s ∨ target = none ∧ b.Resolves (some (.many map.keys)) s := by
  cases selects with
  | own => exact .inr ⟨rfl, resolves⟩
  | given => exact .inl resolves

theorem Carries.selected {input : VectorInput} {certainty distance : Option Number.Double}
    {m : Wire.NearVector} (carries : b.Carries certainty distance input target m) :
    b.Resolves target (nearSelection m) ∨
      target = none ∧ b.Resolves (some (.many input.named.keys)) (nearSelection m) := by
  cases carries with
  | single _ resolved => exact .inl resolved
  | multi _ _ _ _ resolved => exact .inl resolved
  | perTarget _ _ _ selects resolved => exact selects.selected resolved
  | onePerTarget _ _ _ selects resolved => exact selects.selected resolved

theorem Places.resolves {sent : List ResolvedTargets} {near : List Wire.NearVector}
    (places : b.Places target map sent near) : ∃ s, b.Resolves target s := by
  cases places with
  | nowhere => exact ⟨_, .unselected⟩
  | message resolves | text resolves | hybrid resolves => exact ⟨_, resolves⟩
  | nearVector carries =>
    rcases carries.selected with resolves | ⟨rfl, _⟩
    · exact ⟨_, resolves⟩
    · exact ⟨_, .unselected⟩

/-! ### Blank names -/

/-- The names of a selection of several targets, which are not looked at. -/
def listedNames : Option TargetVectors → List String
  | none | some (.single _) => []
  | some (.many names) | some (.combined _ names _) => names

theorem Resolves.named_iff (resolves : b.Resolves target s) :
    (∀ name ∈ selectedNames target, Text.isBlank name = false) ↔
      ∀ name ∈ listedNames target, Text.isBlank name = false := by
  cases resolves with
  | unselected | many | combined => exact Iff.rfl
  | name named | single named =>
    exact ⟨fun _ => nofun, fun _ => List.forall_mem_singleton.mpr named⟩

/-- A request names the target vectors of its selection and of its vectors. None of them is blank
iff none is blank of a list of targets and of the keys of a map: a single target that is blank is
refused. -/
theorem blank_target_sent_iff (builds : b.BuildsFor target map r) :
    (∀ name, name ∈ targetNames r ↔ name ∈ selectedNames target ∨ name ∈ map.keys) ∧
      ((∀ name ∈ targetNames r, Text.isBlank name = false) ↔
        ∀ name ∈ listedNames target ++ map.keys, Text.isBlank name = false) := by
  obtain ⟨s, resolves⟩ := builds.places.resolves
  refine ⟨fun name => builds.mem_targetNames, ?_⟩
  simp only [builds.mem_targetNames, or_imp, forall_and]
  rw [resolves.named_iff, List.forall_mem_append]

/-- A list of targets beside a vector for another one, for a server that takes one vector for
each. -/
theorem blank_target_sent_iff_beside_vector :
    let b : RequestBuilder := ⟨{ name := "Article" }, ⟨⟨1, 26, 0⟩⟩⟩
    let o : HybridOptions :=
      { alpha := HybridOptions.defaultAlpha, target := some (.many ["title", "body"])
        vector := some (.vector (.perTarget [("kind", .single [⟨0x3f800000⟩])])) }
    ∃ r, b.hybrid none o = .ok r ∧ targetNames r = ["title", "body", "kind", "kind"] ∧
      ∀ name ∈ targetNames r, Text.isBlank name = false := by
  intro b o
  have built : ∃ r, b.hybrid none o = .ok r ∧ targetNames r = ["title", "body", "kind", "kind"] :=
    ⟨_, rfl, rfl⟩
  obtain ⟨r, built, names⟩ := built
  exact ⟨r, built, names, (blank_target_sent_iff (.hybrid built)).2.mpr (by decide)⟩

/-- A blank name is refused as a single target, and sent in a list of targets, in a join and as the
key of a vector in either form. -/
theorem blank_targets_sent :
    let server (minor : UInt32) : RequestBuilder := ⟨{ name := "Article" }, ⟨⟨1, minor, 0⟩⟩⟩
    let near (target : TargetVectors) : Except Error Wire.SearchRequest :=
      (server 27).nearObject (.ofNat 0) { target := some target }
    let keyed : VectorInput := .perTarget [(" ", .single [⟨0x3f800000⟩])]
    Text.isBlank " " = true ∧ near (.single " ") = .error (.invalidInput .blankTarget) ∧
      (∃ r, near (.many [" "]) = .ok r ∧ " " ∈ targetNames r) ∧
      (∃ r, near (.sum ["title", " "]) = .ok r ∧ " " ∈ targetNames r) ∧
      (∃ r m, (server 27).nearVector keyed {} = .ok r ∧ r.nearVector = some m ∧
        m.vectorForTargets.map (·.name) = [" "]) ∧
      ∃ r m, (server 26).nearVector keyed {} = .ok r ∧ r.nearVector = some m ∧
        m.vectorPerTarget.keys = [" "] := by
  intro server near keyed
  refine ⟨rfl, rfl, ⟨_, rfl, ?_⟩, ⟨_, rfl, ?_⟩, ⟨_, _, rfl, rfl, rfl⟩, _, _, rfl, rfl, rfl⟩
  · exact List.mem_cons_self
  · exact List.mem_cons_of_mem _ List.mem_cons_self

end RequestBuilder

end Search

end VectorClient
