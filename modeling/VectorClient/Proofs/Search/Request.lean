import VectorClient.Proofs.Search.Targets
import VectorClient.Search.Composition

/-!
# How requests are built

What a request of each kind of search is built from. Every request is the shared part with the
message of its search; what it holds of target vectors, near vectors and keyword operators comes
from one place each.
-/

namespace VectorClient.Search

/-! ### Counts -/

theorem toInt32?_eq_some {count : UInt32} {n : Int32} :
    toInt32? count = some n ↔ count.toNat < Number.pow2 31 ∧ n = count.toInt32 := by
  unfold toInt32?
  split
  · rename_i small
    rw [Option.some.injEq, and_iff_right small, eq_comm]
  · rename_i large
    exact ⟨nofun, fun ⟨small, _⟩ => absurd small large⟩

/-- A count that needs no bit for a sign is the same number with one. -/
theorem toInt_toInt32 {count : UInt32} (small : count.toNat < Number.pow2 31) :
    count.toInt32.toInt = count.toNat := by
  have bound : 2 * count.toBitVec.toNat < 2 ^ 32 := by
    have half : count.toNat < 2147483648 := small
    change 2 * count.toNat < 4294967296
    omega
  exact BitVec.toInt_eq_toNat_of_lt bound

namespace RequestBuilder

variable {b : RequestBuilder} {r : Wire.SearchRequest}

/-! ### Parts -/

theorem base_ok {o : CommonOptions} (built : b.base o = .ok r) :
    ∃ filters, Filter.serialize? o.filter = .ok filters ∧ r = b.shared o filters := by
  obtain ⟨filters, serialized, built⟩ := bind_ok.mp built
  exact ⟨filters, serialized, (pure_ok built).symm⟩

theorem searchOperator_ok {o : Option KeywordOperator} {w : Option Wire.SearchOperatorOptions}
    (built : b.searchOperator o = .ok w) :
    o = none ∧ w = none ∨
      ∃ operator message, o = some operator ∧ b.supports .keywordOperator = true ∧
        operator.toWire = .ok message ∧ w = some message := by
  cases o with
  | none => exact .inl ⟨rfl, (Except.ok.inj built).symm⟩
  | some operator =>
    obtain ⟨_, known, built⟩ := bind_ok.mp built
    obtain ⟨message, written, rfl⟩ := map_ok.mp built
    exact .inr ⟨operator, message, rfl, require_ok.mp known, written, rfl⟩

inductive Adds (b : RequestBuilder) (message : Wire.Hybrid) :
    Option HybridVector → Wire.Hybrid → Prop
  | keywords : Adds b message none message
  | bytes {v : List Number.Single} (nonempty : v.isEmpty = false) :
      Adds b message (some (.vector (.single v)))
        { message with vectorBytes := Vector.encode v }
  | input {input : VectorInput} {near : Wire.NearVector} (several : ∀ v, input ≠ .single v)
      (built : b.nearVectorMessage input none none none = .ok near) :
      Adds b message (some (.vector input)) { message with nearVector := some near }
  | nearVector {input : VectorInput} {certainty distance : Option Number.Double}
      {near : Wire.NearVector}
      (built : b.nearVectorMessage input certainty distance none = .ok near) :
      Adds b message (some (.nearVector input certainty distance))
        { message with nearVector := some near }
  | nearText {query : List String} {certainty distance : Option Number.Double}
      {moveTo moveAway : Option Move} {towards away : Option Wire.Move}
      (concepts : checkConcepts query = .ok ())
      (threshold : checkThreshold certainty distance = .ok ())
      (towards_ok : Move.toWire? moveTo = .ok towards)
      (away_ok : Move.toWire? moveAway = .ok away) :
      Adds b message (some (.nearText query certainty distance moveTo moveAway))
        { message with
          nearText := some { query, certainty, distance, moveTo := towards, moveAway := away } }

theorem withHybridVector_ok {message m : Wire.Hybrid} {v : Option HybridVector}
    (built : b.withHybridVector message v = .ok m) : b.Adds message v m := by
  match v with
  | none =>
    obtain rfl := Except.ok.inj built
    exact .keywords
  | some (.vector (.single v)) =>
    obtain ⟨_, nonempty, built⟩ := bind_ok.mp built
    obtain rfl := pure_ok built
    exact .bytes (refuse_ok.mp nonempty)
  | some (.vector (.multi rows)) =>
    obtain ⟨near, near_built, built⟩ := bind_ok.mp built
    obtain rfl := pure_ok built
    exact .input (fun _ same => by cases same) near_built
  | some (.vector (.perTarget map)) =>
    obtain ⟨near, near_built, built⟩ := bind_ok.mp built
    obtain rfl := pure_ok built
    exact .input (fun _ same => by cases same) near_built
  | some (.nearVector input certainty distance) =>
    obtain ⟨near, near_built, built⟩ := bind_ok.mp built
    obtain rfl := pure_ok built
    exact .nearVector near_built
  | some (.nearText query certainty distance moveTo moveAway) =>
    obtain ⟨_, concepts, built⟩ := bind_ok.mp built
    obtain ⟨_, threshold, built⟩ := bind_ok.mp built
    obtain ⟨towards, towards_ok, built⟩ := bind_ok.mp built
    obtain ⟨away, away_ok, built⟩ := bind_ok.mp built
    obtain rfl := pure_ok built
    exact .nearText concepts threshold towards_ok away_ok

/-! ### Kinds of search -/

theorem fetch_ok {o : FetchOptions} (built : b.fetch o = .ok r) :
    ∃ filters, Filter.serialize? o.common.filter = .ok filters ∧
      r = { b.shared o.common filters with
        after := (o.after.map Uuid.text).getD ""
        sortBy := o.sort.map fun s => ⟨s.ascending, [s.property]⟩ } := by
  obtain ⟨_, _, built⟩ := bind_ok.mp built
  obtain ⟨request, base, built⟩ := bind_ok.mp built
  obtain ⟨filters, serialized, rfl⟩ := base_ok base
  exact ⟨filters, serialized, (pure_ok built).symm⟩

theorem fetchById_ok {id : Uuid} {o : CommonOptions} (built : b.fetchById id o = .ok r) :
    ∃ filters, r = { b.shared { o with
      filter := some (.compare .equal Filter.Target.id (.uuid id)), limit := some 1 } filters with
        offset := 0 } := by
  obtain ⟨_, _, built⟩ := bind_ok.mp built
  obtain ⟨request, base, built⟩ := bind_ok.mp built
  obtain ⟨filters, _, rfl⟩ := base_ok base
  exact ⟨filters, (pure_ok built).symm⟩

theorem keywords_ok {query : String} {o : KeywordOptions} (built : b.keywords query o = .ok r) :
    ∃ filters operator, Filter.serialize? o.common.filter = .ok filters ∧
      b.searchOperator o.operator = .ok operator ∧
      r = { b.shared o.common filters with
        bm25Search := some ⟨query, o.queryProperties, operator⟩ } := by
  obtain ⟨_, _, built⟩ := bind_ok.mp built
  obtain ⟨request, base, built⟩ := bind_ok.mp built
  obtain ⟨operator, operator_ok, built⟩ := bind_ok.mp built
  obtain ⟨filters, serialized, rfl⟩ := base_ok base
  exact ⟨filters, operator, serialized, operator_ok, (pure_ok built).symm⟩

theorem hybrid_ok {query : Option String} {o : HybridOptions} (built : b.hybrid query o = .ok r) :
    ∃ filters s operator message, Filter.serialize? o.common.filter = .ok filters ∧
      b.Resolves o.target s ∧ b.searchOperator o.operator = .ok operator ∧
      b.Adds {
        query := query.getD ""
        properties := o.queryProperties
        alpha := o.alpha
        fusionType := (o.fusion.map Fusion.number).getD 0
        targetVectors := s.names
        targets := s.targets
        bm25SearchOperator := operator
        vectorDistance := o.maxVectorDistance } o.vector message ∧
      r = { b.shared o.common filters with hybridSearch := some message } := by
  obtain ⟨_, _, built⟩ := bind_ok.mp built
  obtain ⟨_, _, built⟩ := bind_ok.mp built
  obtain ⟨s, resolved, built⟩ := bind_ok.mp built
  obtain ⟨operator, operator_ok, built⟩ := bind_ok.mp built
  obtain ⟨message, added, built⟩ := bind_ok.mp built
  obtain ⟨request, base, built⟩ := bind_ok.mp built
  obtain ⟨filters, serialized, rfl⟩ := base_ok base
  exact ⟨filters, s, operator, message, serialized, targets_ok.mp resolved, operator_ok,
    withHybridVector_ok added, (pure_ok built).symm⟩

theorem nearObject_ok {id : Uuid} {o : NearOptions} (built : b.nearObject id o = .ok r) :
    ∃ filters s, Filter.serialize? o.common.filter = .ok filters ∧ b.Resolves o.target s ∧
      checkThreshold o.certainty o.distance = .ok () ∧
      r = { b.shared o.common filters with
        nearObject := some ⟨id.text, o.certainty, o.distance, s.names, s.targets⟩ } := by
  obtain ⟨_, threshold, built⟩ := bind_ok.mp built
  obtain ⟨s, resolved, built⟩ := bind_ok.mp built
  obtain ⟨request, base, built⟩ := bind_ok.mp built
  obtain ⟨filters, serialized, rfl⟩ := base_ok base
  exact ⟨filters, s, serialized, targets_ok.mp resolved, threshold, (pure_ok built).symm⟩

theorem nearVector_ok {input : VectorInput} {o : NearOptions}
    (built : b.nearVector input o = .ok r) :
    ∃ filters message, Filter.serialize? o.common.filter = .ok filters ∧
      b.nearVectorMessage input o.certainty o.distance o.target = .ok message ∧
      r = { b.shared o.common filters with nearVector := some message } := by
  obtain ⟨message, message_ok, built⟩ := bind_ok.mp built
  obtain ⟨request, base, built⟩ := bind_ok.mp built
  obtain ⟨filters, serialized, rfl⟩ := base_ok base
  exact ⟨filters, message, serialized, message_ok, (pure_ok built).symm⟩

theorem nearText_ok {query : List String} {o : NearTextOptions}
    (built : b.nearText query o = .ok r) :
    ∃ filters s towards away, Filter.serialize? o.near.common.filter = .ok filters ∧
      b.Resolves o.near.target s ∧ checkConcepts query = .ok () ∧
      checkThreshold o.near.certainty o.near.distance = .ok () ∧
      Move.toWire? o.moveTo = .ok towards ∧ Move.toWire? o.moveAway = .ok away ∧
      r = { b.shared o.near.common filters with nearText := some {
        query, certainty := o.near.certainty, distance := o.near.distance
        moveTo := towards, moveAway := away
        targetVectors := s.names, targets := s.targets } } := by
  obtain ⟨_, concepts, built⟩ := bind_ok.mp built
  obtain ⟨_, threshold, built⟩ := bind_ok.mp built
  obtain ⟨s, resolved, built⟩ := bind_ok.mp built
  obtain ⟨request, base, built⟩ := bind_ok.mp built
  obtain ⟨towards, towards_ok, built⟩ := bind_ok.mp built
  obtain ⟨away, away_ok, built⟩ := bind_ok.mp built
  obtain ⟨filters, serialized, rfl⟩ := base_ok base
  exact ⟨filters, s, towards, away, serialized, targets_ok.mp resolved, concepts, threshold,
    towards_ok, away_ok, (pure_ok built).symm⟩

theorem nearMedia_ok {media : Media} {content : String} {o : NearOptions}
    (built : b.nearMedia media content o = .ok r) :
    ∃ filters s, Filter.serialize? o.common.filter = .ok filters ∧ b.Resolves o.target s ∧
      checkThreshold o.certainty o.distance = .ok () ∧
      r = withMedia (b.shared o.common filters)
        ⟨content, o.certainty, o.distance, s.names, s.targets⟩ media := by
  obtain ⟨_, _, built⟩ := bind_ok.mp built
  obtain ⟨_, threshold, built⟩ := bind_ok.mp built
  obtain ⟨s, resolved, built⟩ := bind_ok.mp built
  obtain ⟨request, base, built⟩ := bind_ok.mp built
  obtain ⟨filters, serialized, rfl⟩ := base_ok base
  exact ⟨filters, s, serialized, targets_ok.mp resolved, threshold, (pure_ok built).symm⟩

inductive Builds (b : RequestBuilder) : Wire.SearchRequest → Prop
  | fetch {o : FetchOptions} {r : Wire.SearchRequest} (built : b.fetch o = .ok r) : Builds b r
  | fetchById {id : Uuid} {o : CommonOptions} {r : Wire.SearchRequest}
      (built : b.fetchById id o = .ok r) : Builds b r
  | keywords {query : String} {o : KeywordOptions} {r : Wire.SearchRequest}
      (built : b.keywords query o = .ok r) : Builds b r
  | hybrid {query : Option String} {o : HybridOptions} {r : Wire.SearchRequest}
      (built : b.hybrid query o = .ok r) : Builds b r
  | nearObject {id : Uuid} {o : NearOptions} {r : Wire.SearchRequest}
      (built : b.nearObject id o = .ok r) : Builds b r
  | nearVector {input : VectorInput} {o : NearOptions} {r : Wire.SearchRequest}
      (built : b.nearVector input o = .ok r) : Builds b r
  | nearText {query : List String} {o : NearTextOptions} {r : Wire.SearchRequest}
      (built : b.nearText query o = .ok r) : Builds b r
  | nearMedia {media : Media} {content : String} {o : NearOptions} {r : Wire.SearchRequest}
      (built : b.nearMedia media content o = .ok r) : Builds b r
  | withGroupBy {r grouped : Wire.SearchRequest} {g : GroupByOptions} (before : Builds b r)
      (added : withGroupBy r g = .ok grouped) : Builds b grouped
  | withGenerative {r generating : Wire.SearchRequest} {g : GenerativeOptions}
      (before : Builds b r) (added : withGenerative r g = .ok generating) : Builds b generating

end RequestBuilder

/-! ### What requests hold -/

def mediaMessages (r : Wire.SearchRequest) : List Wire.NearMedia :=
  [r.nearImage, r.nearAudio, r.nearVideo, r.nearDepth, r.nearThermal, r.nearImu].flatMap
    Option.toList

/-- The messages near vectors, the one inside of a hybrid search included. -/
def nearVectors (r : Wire.SearchRequest) : List Wire.NearVector :=
  r.nearVector.toList ++ r.hybridSearch.toList.flatMap (·.nearVector.toList)

/-- The messages near texts, the one inside of a hybrid search included. -/
def nearTexts (r : Wire.SearchRequest) : List Wire.NearText :=
  r.nearText.toList ++ r.hybridSearch.toList.flatMap (·.nearText.toList)

/-- The selections of target vectors in all messages of a request. -/
def selections (r : Wire.SearchRequest) : List ResolvedTargets :=
  r.hybridSearch.toList.map (fun m => ⟨m.targetVectors, m.targets⟩) ++
    r.nearObject.toList.map (fun m => ⟨m.targetVectors, m.targets⟩) ++
    (nearVectors r).map (fun m => ⟨m.targetVectors, m.targets⟩) ++
    (nearTexts r).map (fun m => ⟨m.targetVectors, m.targets⟩) ++
    (mediaMessages r).map (fun m => ⟨m.targetVectors, m.targets⟩)

def keywordOperators (r : Wire.SearchRequest) : List Wire.SearchOperatorOptions :=
  r.bm25Search.toList.flatMap (·.searchOperator.toList) ++
    r.hybridSearch.toList.flatMap (·.bm25SearchOperator.toList)

structure Originates (b : RequestBuilder) (r : Wire.SearchRequest) : Prop where
  selections : ∀ s ∈ selections r, ∃ target, b.Resolves target s
  nearVectors : ∀ m ∈ nearVectors r, ∃ input certainty distance target,
    b.nearVectorMessage input certainty distance target = .ok m
  operators : ∀ m ∈ keywordOperators r, ∃ o, b.searchOperator o = .ok (some m)
  uses125Api : r.uses125Api = b.supports .typedListValues
  uses127Api : r.uses127Api = b.supports .multiVectorPerTarget

variable {b : RequestBuilder} {r : Wire.SearchRequest}

theorem RequestBuilder.Carries.selection {input : VectorInput}
    {certainty distance : Option Number.Double} {target : Option TargetVectors}
    {m : Wire.NearVector} (carries : b.Carries certainty distance input target m) :
    ∃ t, b.Resolves t ⟨m.targetVectors, m.targets⟩ := by
  cases carries with
  | single _ resolved => exact ⟨_, resolved⟩
  | multi _ _ _ _ resolved => exact ⟨_, resolved⟩
  | perTarget _ _ _ _ resolved => exact ⟨_, resolved⟩
  | onePerTarget _ _ _ _ resolved => exact ⟨_, resolved⟩

theorem withGroupBy_frame {grouped : Wire.SearchRequest} {g : GroupByOptions}
    (added : withGroupBy r g = .ok grouped) :
    ∃ limit groupBy, grouped = { r with limit, groupBy } := by
  obtain ⟨_, _, added⟩ := bind_ok.mp added
  obtain ⟨_, _, added⟩ := bind_ok.mp added
  obtain ⟨_, _, added⟩ := bind_ok.mp added
  obtain ⟨_, _, added⟩ := bind_ok.mp added
  obtain ⟨groups, _, added⟩ := bind_ok.mp added
  obtain ⟨objects, _, added⟩ := bind_ok.mp added
  obtain ⟨limit, _, added⟩ := bind_ok.mp added
  exact ⟨limit, _, (pure_ok added).symm⟩

theorem withGenerative_frame {generating : Wire.SearchRequest} {g : GenerativeOptions}
    (added : withGenerative r g = .ok generating) :
    ∃ generative, generating = { r with generative } := by
  obtain ⟨_, _, added⟩ := bind_ok.mp added
  obtain ⟨_, _, added⟩ := bind_ok.mp added
  exact ⟨_, (pure_ok added).symm⟩

theorem Originates.withGroupBy {grouped : Wire.SearchRequest} {g : GroupByOptions}
    (before : Originates b r) (added : withGroupBy r g = .ok grouped) : Originates b grouped := by
  obtain ⟨limit, groupBy, rfl⟩ := withGroupBy_frame added
  exact ⟨before.selections, before.nearVectors, before.operators, before.uses125Api,
    before.uses127Api⟩

theorem Originates.withGenerative {generating : Wire.SearchRequest} {g : GenerativeOptions}
    (before : Originates b r) (added : withGenerative r g = .ok generating) :
    Originates b generating := by
  obtain ⟨generative, rfl⟩ := withGenerative_frame added
  exact ⟨before.selections, before.nearVectors, before.operators, before.uses125Api,
    before.uses127Api⟩

theorem Originates.of_selection {s : ResolvedTargets} {target : Option TargetVectors}
    (resolved : b.Resolves target s) (one : Search.selections r = [s])
    (vectors : Search.nearVectors r = []) (operators : keywordOperators r = [])
    (uses125 : r.uses125Api = b.supports .typedListValues)
    (uses127 : r.uses127Api = b.supports .multiVectorPerTarget) : Originates b r := by
  refine ⟨?_, ?_, ?_, uses125, uses127⟩
  · rw [one]
    exact List.forall_mem_singleton.mpr ⟨target, resolved⟩
  · rw [vectors]
    exact fun _ member => absurd member List.not_mem_nil
  · rw [operators]
    exact fun _ member => absurd member List.not_mem_nil

/-- The vector half leaves the other parts of the message alone. -/
theorem RequestBuilder.Adds.frame {message m : Wire.Hybrid} {v : Option HybridVector}
    (adds : b.Adds message v m) :
    m.targetVectors = message.targetVectors ∧ m.targets = message.targets ∧
      m.bm25SearchOperator = message.bm25SearchOperator := by
  cases adds <;> exact ⟨rfl, rfl, rfl⟩

/-- A vector half is made without a selection of targets. -/
theorem RequestBuilder.Adds.half {message m : Wire.Hybrid} {v : Option HybridVector}
    (adds : b.Adds message v m) (noVector : message.nearVector = none)
    (noText : message.nearText = none) :
    (∀ near ∈ m.nearVector, ∃ input certainty distance,
      b.nearVectorMessage input certainty distance none = .ok near) ∧
      ∀ near ∈ m.nearText, near.targetVectors = [] ∧ near.targets = none := by
  cases adds with
  | keywords => exact ⟨by simp [noVector], by simp [noText]⟩
  | bytes => exact ⟨by simp [noVector], by simp [noText]⟩
  | input _ built =>
    refine ⟨fun near same => ?_, by simp [noText]⟩
    obtain rfl := Option.some.inj same
    exact ⟨_, _, _, built⟩
  | nearVector built =>
    refine ⟨fun near same => ?_, by simp [noText]⟩
    obtain rfl := Option.some.inj same
    exact ⟨_, _, _, built⟩
  | nearText =>
    refine ⟨by simp [noVector], fun near same => ?_⟩
    obtain rfl := Option.some.inj same
    exact ⟨rfl, rfl⟩

theorem RequestBuilder.Builds.originates (builds : b.Builds r) : Originates b r := by
  induction builds with
  | fetch built =>
    obtain ⟨filters, _, rfl⟩ := fetch_ok built
    exact ⟨nofun, nofun, nofun, rfl, rfl⟩
  | fetchById built =>
    obtain ⟨filters, rfl⟩ := fetchById_ok built
    exact ⟨nofun, nofun, nofun, rfl, rfl⟩
  | keywords built =>
    obtain ⟨filters, operator, _, operator_ok, rfl⟩ := keywords_ok built
    refine ⟨nofun, nofun, fun m member => ?_, rfl, rfl⟩
    obtain rfl : operator = some m := by simpa [keywordOperators, shared] using member
    exact ⟨_, operator_ok⟩
  | hybrid built =>
    obtain ⟨filters, s, operator, message, _, resolved, operator_ok, adds, rfl⟩ := hybrid_ok built
    obtain ⟨names, targets, operators⟩ := adds.frame
    obtain ⟨vectors, texts⟩ := adds.half rfl rfl
    refine ⟨fun t member => ?_, fun m member => ?_, fun m member => ?_, rfl, rfl⟩
    · have parts : t = ⟨message.targetVectors, message.targets⟩ ∨
          (∃ near, message.nearVector = some near ∧ ⟨near.targetVectors, near.targets⟩ = t) ∨
          ∃ near, message.nearText = some near ∧ ⟨near.targetVectors, near.targets⟩ = t := by
        simpa [selections, nearVectors, nearTexts, mediaMessages, shared] using member
      rcases parts with rfl | ⟨near, same, rfl⟩ | ⟨near, same, rfl⟩
      · rw [names, targets]
        exact ⟨_, resolved⟩
      · obtain ⟨input, certainty, distance, built⟩ := vectors near same
        exact (nearVectorMessage_ok.mp built).2.selection
      · obtain ⟨noNames, noTargets⟩ := texts near same
        rw [noNames, noTargets]
        exact ⟨none, .unselected⟩
    · obtain same : message.nearVector = some m := by
        simpa [nearVectors, shared] using member
      obtain ⟨input, certainty, distance, built⟩ := vectors m same
      exact ⟨_, _, _, _, built⟩
    · obtain same : message.bm25SearchOperator = some m := by
        simpa [keywordOperators, shared] using member
      exact ⟨_, operator_ok.trans (congrArg _ (operators.symm.trans same))⟩
  | nearObject built =>
    obtain ⟨filters, s, _, resolved, _, rfl⟩ := nearObject_ok built
    exact .of_selection resolved rfl rfl rfl rfl rfl
  | nearVector built =>
    obtain ⟨filters, message, _, message_ok, rfl⟩ := nearVector_ok built
    refine ⟨fun t member => ?_, fun m member => ?_, nofun, rfl, rfl⟩
    · obtain rfl : t = ⟨message.targetVectors, message.targets⟩ := List.mem_singleton.mp member
      exact (nearVectorMessage_ok.mp message_ok).2.selection
    · obtain rfl : m = message := List.mem_singleton.mp member
      exact ⟨_, _, _, _, message_ok⟩
  | nearText built =>
    obtain ⟨filters, s, towards, away, _, resolved, _, _, _, _, rfl⟩ := nearText_ok built
    exact .of_selection resolved rfl rfl rfl rfl rfl
  | @nearMedia media _ _ _ built =>
    obtain ⟨filters, s, _, resolved, _, rfl⟩ := nearMedia_ok built
    cases media <;> exact .of_selection resolved rfl rfl rfl rfl rfl
  | withGroupBy before added ih => exact ih.withGroupBy added
  | withGenerative before added ih => exact ih.withGenerative added

end VectorClient.Search
