import VectorClient.Proofs.Number.Interval
import VectorClient.Proofs.Search.Vectors

/-!
# Well-formed requests

What a server may expect of each message, and that every request which is built keeps to it. The
checks are made once for each kind of search and again for the vector half of a hybrid search.
-/

namespace VectorClient

open Number

/-! ### Well-formed messages -/

namespace Wire

/-- At most one bound on how near a result must be. -/
def OneThreshold (certainty distance : Option Double) : Prop := certainty = none ∨ distance = none

structure Move.WellFormed (m : Move) : Prop where
  force : m.force.IsFraction
  directed : m.concepts ≠ [] ∨ m.uuids ≠ []

structure NearText.WellFormed (m : NearText) : Prop where
  threshold : OneThreshold m.certainty m.distance
  concept : ∃ q ∈ m.query, Text.isBlank q = false
  moveTo : ∀ move ∈ m.moveTo, move.WellFormed
  moveAway : ∀ move ∈ m.moveAway, move.WellFormed

structure NearMedia.WellFormed (m : NearMedia) : Prop where
  threshold : OneThreshold m.certainty m.distance
  content : Text.isBlank m.content = false

/-- Bytes that are read as at least one lane. -/
def HoldsLanes (b : Bytes) : Prop := ∃ v, Vector.decode b = .ok v ∧ v ≠ []

theorem holdsLanes_encode {v : List Single} (nonempty : v.isEmpty = false) :
    HoldsLanes (Vector.encode v) := by
  refine ⟨v, Vector.decode_encode v, ?_⟩
  rintro rfl
  cases nonempty

theorem HoldsLanes.isEmpty {b : Bytes} (holds : HoldsLanes b) : List.isEmpty b = false := by
  obtain ⟨v, read, nonempty⟩ := holds
  cases b with
  | nil => exact absurd (Except.ok.inj read).symm nonempty
  | cons => rfl

/-- A message that is read as a vector, or as rows of which none is empty. -/
def Vectors.HoldsVector (w : Vectors) : Prop :=
  ∃ value, VectorValue.ofWire w = .ok value ∧ value.isEmpty = false

structure NearVector.WellFormed (m : NearVector) : Prop where
  threshold : OneThreshold m.certainty m.distance
  oneField : [m.vectorBytes.isEmpty, m.vectors.isEmpty, m.vectorForTargets.isEmpty,
    m.vectorPerTarget.isEmpty].count false = 1
  vectorBytes : m.vectorBytes ≠ [] → HoldsLanes m.vectorBytes
  vectors : ∀ w ∈ m.vectors, w.HoldsVector
  vectorForTargets : ∀ t ∈ m.vectorForTargets, t.vectors ≠ [] ∧ ∀ w ∈ t.vectors, w.HoldsVector
  vectorPerTarget : ∀ entry ∈ m.vectorPerTarget, HoldsLanes entry.2

/-- How many of its fields a hybrid message has for its vector half. -/
def Hybrid.halves (m : Hybrid) : Nat :=
  [!m.vectorBytes.isEmpty, m.nearText.isSome, m.nearVector.isSome].count true

structure Hybrid.WellFormed (m : Hybrid) : Prop where
  alpha : m.alpha.IsFraction
  oneHalf : m.halves ≤ 1
  asked : m.halves = 1 ∨ Text.isBlank m.query = false

structure SearchRequest.WellFormed (r : SearchRequest) : Prop where
  nearObject : ∀ m ∈ r.nearObject, OneThreshold m.certainty m.distance
  nearVectors : ∀ m ∈ Search.nearVectors r, m.WellFormed
  nearTexts : ∀ m ∈ Search.nearTexts r, m.WellFormed
  media : ∀ m ∈ Search.mediaMessages r, m.WellFormed
  keywords : ∀ m ∈ r.bm25Search, Text.isBlank m.query = false
  hybrid : ∀ m ∈ r.hybridSearch, m.WellFormed
  targets : ∀ s ∈ Search.selections r, ∀ t ∈ s.targets, t.targetVectors ≠ []
  operators : ∀ m ∈ Search.keywordOperators r, ∀ n ∈ m.minimumOrTokensMatch, 0 ≤ n.toInt
  cursor : r.after ≠ "" → r.sortBy = [] ∧ r.filters = none ∧ r.offset = 0

end Wire

namespace Search

/-! ### What the checks say -/

theorem checkThreshold_ok {certainty distance : Option Double} {u : Unit}
    (checked : checkThreshold certainty distance = .ok u) :
    Wire.OneThreshold certainty distance := by
  have notBoth := refuse_ok.mp checked
  cases certainty with
  | none => exact .inl rfl
  | some c =>
    cases distance with
    | none => exact .inr rfl
    | some d => cases notBoth

theorem checkConcepts_ok {query : List String} {u : Unit} (checked : checkConcepts query = .ok u) :
    ∃ q ∈ query, Text.isBlank q = false := by
  have notAll := refuse_ok.mp checked
  simpa using notAll

theorem toInt32?_nonneg {count : UInt32} {n : Int32} (fits : toInt32? count = some n) :
    0 ≤ n.toInt := by
  obtain ⟨small, rfl⟩ := toInt32?_eq_some.mp fits
  rw [toInt_toInt32 small]
  exact Int.natCast_nonneg _

theorem KeywordOperator.toWire_nonneg {o : KeywordOperator} {m : Wire.SearchOperatorOptions}
    (written : o.toWire = .ok m) : ∀ n ∈ m.minimumOrTokensMatch, 0 ≤ n.toInt := by
  intro n given
  cases o with
  | and =>
    obtain rfl := Except.ok.inj written
    cases given
  | or minimum =>
    simp only [toWire] at written
    cases fits : toInt32? minimum with
    | none =>
      rw [fits] at written
      cases written
    | some found =>
      rw [fits] at written
      obtain rfl := Except.ok.inj written
      obtain rfl := Option.some.inj given
      exact toInt32?_nonneg fits

theorem Move.toWire_wellFormed {m : Move} {w : Wire.Move} (written : m.toWire = .ok w) :
    w.WellFormed := by
  unfold toWire at written
  split at written
  · cases written
  · rename_i inside
    split at written
    · cases written
    · rename_i some
      obtain rfl := Except.ok.inj written
      refine ⟨Single.inUnitInterval_iff.mp (by simpa using inside), ?_⟩
      rw [Bool.and_eq_true, not_and_or, List.isEmpty_iff, List.isEmpty_iff] at some
      rcases some with concepts | objects
      · exact .inl concepts
      · exact .inr fun none => objects (List.map_eq_nil_iff.mp none)

theorem Move.toWire?_wellFormed {m : Option Move} {w : Option Wire.Move}
    (written : Move.toWire? m = .ok w) : ∀ move ∈ w, move.WellFormed := by
  intro move given
  cases m with
  | none =>
    obtain rfl := Except.ok.inj written
    cases given
  | some m =>
    obtain ⟨found, found_written, rfl⟩ := map_ok.mp written
    obtain rfl := Option.some.inj given
    exact toWire_wellFormed found_written

namespace RequestBuilder

variable {b : RequestBuilder} {r : Wire.SearchRequest}

theorem Resolves.targets_ne_nil {target : Option TargetVectors} {s : ResolvedTargets}
    (resolves : b.Resolves target s) : ∀ t ∈ s.targets, t.targetVectors ≠ [] := by
  intro t given
  cases resolves with
  | unselected => cases given
  | name => cases given
  | single =>
    obtain rfl := Option.some.inj given
    exact List.cons_ne_nil _ _
  | many _ nonempty =>
    obtain rfl := Option.some.inj given
    exact nonempty
  | combined _ nonempty =>
    obtain rfl := Option.some.inj given
    exact nonempty

/-! ### Near vectors -/

theorem vectorForTargets_hold {map : KeyMap VectorValue} {sent : List Wire.VectorForTarget}
    (written : vectorForTargets map = .ok sent) (filled : ∀ entry ∈ map, entry.2.isEmpty = false) :
    sent.isEmpty = map.isEmpty ∧
      ∀ t ∈ sent, t.vectors ≠ [] ∧ ∀ w ∈ t.vectors, w.HoldsVector := by
  induction map generalizing sent with
  | nil =>
    obtain rfl := Except.ok.inj written
    exact ⟨rfl, nofun⟩
  | cons entry rest ih =>
    obtain ⟨name, value⟩ := entry
    obtain ⟨w, first, written⟩ := bind_ok.mp written
    obtain ⟨others, others_written, written⟩ := bind_ok.mp written
    obtain rfl := pure_ok written
    obtain ⟨value_filled, rest_filled⟩ := List.forall_mem_cons.mp filled
    have own : w.HoldsVector :=
      ⟨value, (VectorValue.ofWire_toWire first value_filled).2, value_filled⟩
    refine ⟨rfl, List.forall_mem_cons.mpr ⟨⟨List.cons_ne_nil _ _, ?_⟩, ?_⟩⟩
    · exact List.forall_mem_singleton.mpr own
    · exact (ih others_written rest_filled).2

theorem vectorPerTarget_hold {map : KeyMap VectorValue} {sent : KeyMap Wire.Bytes}
    (written : b.vectorPerTarget map = .ok sent) (filled : ∀ entry ∈ map, entry.2.isEmpty = false) :
    sent.isEmpty = map.isEmpty ∧ ∀ entry ∈ sent, Wire.HoldsLanes entry.2 := by
  induction map generalizing sent with
  | nil =>
    obtain rfl := Except.ok.inj written
    exact ⟨rfl, nofun⟩
  | cons entry rest ih =>
    obtain ⟨name, value⟩ := entry
    obtain ⟨value_filled, rest_filled⟩ := List.forall_mem_cons.mp filled
    cases value with
    | single v =>
      obtain ⟨others, others_written, written⟩ := bind_ok.mp written
      obtain rfl := pure_ok written
      refine ⟨rfl, List.forall_mem_cons.mpr ⟨Wire.holdsLanes_encode value_filled, ?_⟩⟩
      exact (ih others_written rest_filled).2
    | multi rows => cases written

theorem nearVectorMessage_wellFormed {input : VectorInput} {certainty distance : Option Double}
    {target : Option TargetVectors} {m : Wire.NearVector}
    (built : b.nearVectorMessage input certainty distance target = .ok m) : m.WellFormed := by
  obtain ⟨checked, carries⟩ := nearVectorMessage_ok.mp built
  have threshold := checkThreshold_ok checked
  cases carries with
  | single nonempty =>
    have holds := Wire.holdsLanes_encode nonempty
    refine ⟨threshold, ?_, fun _ => holds, nofun, nofun, nofun⟩
    simp [holds.isEmpty]
  | multi _ nonempty _ encoded =>
    refine ⟨threshold, by simp, absurd rfl, ?_, nofun, nofun⟩
    have read := (VectorValue.ofWire_toWire encoded nonempty).2
    exact List.forall_mem_singleton.mpr ⟨_, read, nonempty⟩
  | perTarget _ nonempty noneEmpty _ _ _ encoded =>
    have filled := fun entry member =>
      eq_false_of_ne_true (List.find?_eq_none.mp noneEmpty entry member)
    obtain ⟨same, each⟩ := vectorForTargets_hold encoded filled
    refine ⟨threshold, ?_, absurd rfl, nofun, each, nofun⟩
    simp [same, nonempty]
  | onePerTarget _ nonempty noneEmpty _ _ _ encoded =>
    have filled := fun entry member =>
      eq_false_of_ne_true (List.find?_eq_none.mp noneEmpty entry member)
    obtain ⟨same, each⟩ := vectorPerTarget_hold encoded filled
    refine ⟨threshold, ?_, absurd rfl, nofun, nofun, each⟩
    simp [same, nonempty]

/-! ### Hybrid searches -/

theorem Adds.halves {message m : Wire.Hybrid} {v : Option HybridVector} (adds : b.Adds message v m)
    (empty : message.halves = 0) : m.halves = v.toList.length := by
  have unfilled : message.vectorBytes = [] ∧ message.nearText = none ∧
      message.nearVector = none := by
    simpa [Wire.Hybrid.halves, List.count_eq_zero] using empty
  obtain ⟨noBytes, noText, noVector⟩ := unfilled
  cases adds with
  | keywords => exact empty
  | bytes nonempty =>
    have holds := Wire.holdsLanes_encode nonempty
    simp [Wire.Hybrid.halves, noText, noVector, holds.isEmpty]
  | input => simp [Wire.Hybrid.halves, noBytes, noText]
  | nearVector => simp [Wire.Hybrid.halves, noBytes, noText]
  | nearText => simp [Wire.Hybrid.halves, noBytes, noVector]

theorem Adds.nearText_wellFormed {message m : Wire.Hybrid} {v : Option HybridVector}
    (adds : b.Adds message v m) (noText : message.nearText = none) :
    ∀ text ∈ m.nearText, text.WellFormed := by
  intro text given
  cases adds with
  | keywords => simp [noText] at given
  | bytes => simp [noText] at given
  | input => simp [noText] at given
  | nearVector => simp [noText] at given
  | nearText concepts threshold towards_ok away_ok =>
    obtain rfl := Option.some.inj given
    exact ⟨checkThreshold_ok threshold, checkConcepts_ok concepts,
      Move.toWire?_wellFormed towards_ok, Move.toWire?_wellFormed away_ok⟩

theorem Adds.query_and_alpha {message m : Wire.Hybrid} {v : Option HybridVector}
    (adds : b.Adds message v m) : m.query = message.query ∧ m.alpha = message.alpha := by
  cases adds <;> exact ⟨rfl, rfl⟩

theorem hybrid_asked {query : Option String} {o : HybridOptions} (built : b.hybrid query o = .ok r) :
    (query.all Text.isBlank && o.vector.isNone) = false ∧ o.alpha.IsFraction := by
  obtain ⟨_, asked, built⟩ := bind_ok.mp built
  obtain ⟨_, inRange, _⟩ := bind_ok.mp built
  refine ⟨refuse_ok.mp asked, Single.inUnitInterval_iff.mp ?_⟩
  simpa using refuse_ok.mp inRange

theorem hybrid_wellFormed {query : Option String} {o : HybridOptions}
    (built : b.hybrid query o = .ok r) :
    ∃ m, r.hybridSearch = some m ∧ m.WellFormed ∧ ∀ text ∈ m.nearText, text.WellFormed := by
  obtain ⟨asked, fraction⟩ := hybrid_asked built
  obtain ⟨filters, s, operator, m, _, _, _, adds, rfl⟩ := hybrid_ok built
  have halves := adds.halves rfl
  obtain ⟨query_eq, alpha_eq⟩ := adds.query_and_alpha
  refine ⟨m, rfl, ⟨?_, ?_, ?_⟩, adds.nearText_wellFormed rfl⟩
  · rw [alpha_eq]
    exact fraction
  · rw [halves]
    cases o.vector with
    | none => exact Nat.zero_le 1
    | some v => exact Nat.le_refl 1
  · rw [halves, query_eq]
    cases half : o.vector with
    | some v => exact .inl rfl
    | none =>
      rw [half, Option.isNone_none, Bool.and_true] at asked
      cases query with
      | none => cases asked
      | some q => exact .inr asked

end RequestBuilder

/-! ### Requests -/

variable {b : RequestBuilder} {r : Wire.SearchRequest}

/-- What a request holds of near vectors, target vectors and keyword operators is well-formed, as it
comes from the places that check it. -/
theorem Originates.nearVectors_wellFormed (origin : Originates b r) :
    ∀ m ∈ Search.nearVectors r, m.WellFormed := by
  intro m member
  obtain ⟨_, _, _, _, built⟩ := origin.nearVectors m member
  exact RequestBuilder.nearVectorMessage_wellFormed built

theorem Originates.targets_ne_nil (origin : Originates b r) :
    ∀ s ∈ Search.selections r, ∀ t ∈ s.targets, t.targetVectors ≠ [] := by
  intro s member
  obtain ⟨_, resolves⟩ := origin.selections s member
  exact resolves.targets_ne_nil

theorem Originates.operators_nonneg (origin : Originates b r) :
    ∀ m ∈ keywordOperators r, ∀ n ∈ m.minimumOrTokensMatch, 0 ≤ n.toInt := by
  intro m member
  obtain ⟨o, built⟩ := origin.operators m member
  rcases RequestBuilder.searchOperator_ok built with ⟨_, none⟩ | ⟨_, found, _, _, written, same⟩
  · cases none
  · obtain rfl := Option.some.inj same
    exact KeywordOperator.toWire_nonneg written

namespace RequestBuilder

theorem keywords_asked {query : String} {o : KeywordOptions} (built : b.keywords query o = .ok r) :
    Text.isBlank query = false := by
  obtain ⟨_, asked, _⟩ := bind_ok.mp built
  exact refuse_ok.mp asked

theorem nearMedia_asked {media : Media} {content : String} {o : NearOptions}
    (built : b.nearMedia media content o = .ok r) : Text.isBlank content = false := by
  obtain ⟨_, asked, _⟩ := bind_ok.mp built
  exact refuse_ok.mp asked

theorem fetch_unrestricted {o : FetchOptions} (built : b.fetch o = .ok r) (after : r.after ≠ "") :
    r.sortBy = [] ∧ r.filters = none ∧ r.offset = 0 := by
  obtain ⟨_, allowed, _⟩ := bind_ok.mp built
  have unrestricted := refuse_ok.mp allowed
  obtain ⟨filters, serialized, rfl⟩ := fetch_ok built
  cases cursor : o.after with
  | none =>
    rw [cursor] at after
    exact absurd rfl after
  | some id =>
    simp only [cursor, Option.isSome_some, Bool.true_and, Bool.or_eq_false_iff] at unrestricted
    obtain ⟨⟨noSort, noFilter⟩, noOffset⟩ := unrestricted
    refine ⟨?_, ?_, ?_⟩
    · have empty : o.sort = [] := by simpa using noSort
      simp only [empty, List.map_nil]
    · rw [Option.isSome_eq_false_iff, Option.isNone_iff_eq_none] at noFilter
      rw [noFilter] at serialized
      exact (Except.ok.inj serialized).symm
    · rw [Option.isSome_eq_false_iff, Option.isNone_iff_eq_none] at noOffset
      simp only [shared, noOffset, Option.getD_none]

theorem shared_wellFormed (b : RequestBuilder) (o : CommonOptions) (filters : Option Wire.Filters) :
    (b.shared o filters).WellFormed where
  nearObject _ given := by cases given
  nearVectors _ member := by cases member
  nearTexts _ member := by cases member
  media _ member := by cases member
  keywords _ given := by cases given
  hybrid _ given := by cases given
  targets _ member := by cases member
  operators _ member := by cases member
  cursor started := absurd rfl started

theorem forall_mem_some {α : Type} {P : α → Prop} {a : α} (holds : P a) : ∀ m ∈ some a, P m := by
  intro m given
  obtain rfl := Option.some.inj given
  exact holds

/-- Every request of every kind of search is well-formed, with grouping and generation or without. -/
theorem built_wellFormed (builds : b.Builds r) : r.WellFormed := by
  -- What comes from one place each is well-formed by its origin, the rest by the checks of its kind.
  have origin := builds.originates
  induction builds with
  | @fetch o _ built =>
    have cursor := fetch_unrestricted built
    obtain ⟨filters, _, rfl⟩ := fetch_ok built
    exact { b.shared_wellFormed o.common filters with cursor }
  | @fetchById id o _ built =>
    obtain ⟨filters, rfl⟩ := fetchById_ok built
    have plain := b.shared_wellFormed { o with
      filter := some (.compare .equal Filter.Target.id (.uuid id)), limit := some 1 } filters
    exact { plain with cursor := absurd rfl }
  | keywords built =>
    have asked := keywords_asked built
    obtain ⟨filters, operator, _, _, rfl⟩ := keywords_ok built
    exact { b.shared_wellFormed _ filters with
      keywords := forall_mem_some asked
      operators := origin.operators_nonneg }
  | hybrid built =>
    obtain ⟨m, found, wellFormed, texts⟩ := hybrid_wellFormed built
    obtain ⟨filters, s, operator, message, _, _, _, _, rfl⟩ := hybrid_ok built
    obtain rfl := Option.some.inj found
    refine { b.shared_wellFormed _ filters with
      hybrid := forall_mem_some wellFormed
      nearTexts := ?_
      nearVectors := origin.nearVectors_wellFormed
      targets := origin.targets_ne_nil
      operators := origin.operators_nonneg }
    intro text member
    have inside : message.nearText = some text := by
      simpa [nearTexts, shared] using member
    exact texts text inside
  | nearObject built =>
    obtain ⟨filters, s, _, _, threshold, rfl⟩ := nearObject_ok built
    exact { b.shared_wellFormed _ filters with
      nearObject := forall_mem_some (checkThreshold_ok threshold)
      targets := origin.targets_ne_nil }
  | nearVector built =>
    obtain ⟨filters, message, _, _, rfl⟩ := nearVector_ok built
    exact { b.shared_wellFormed _ filters with
      nearVectors := origin.nearVectors_wellFormed
      targets := origin.targets_ne_nil }
  | nearText built =>
    obtain ⟨filters, s, towards, away, _, _, concepts, threshold, towards_ok, away_ok, rfl⟩ :=
      nearText_ok built
    exact { b.shared_wellFormed _ filters with
      nearTexts := List.forall_mem_singleton.mpr ⟨checkThreshold_ok threshold,
        checkConcepts_ok concepts, Move.toWire?_wellFormed towards_ok,
        Move.toWire?_wellFormed away_ok⟩
      targets := origin.targets_ne_nil }
  | @nearMedia media content _ _ built =>
    have asked := nearMedia_asked built
    obtain ⟨filters, s, _, _, threshold, rfl⟩ := nearMedia_ok built
    cases media <;>
      exact { b.shared_wellFormed _ filters with
        media := List.forall_mem_singleton.mpr ⟨checkThreshold_ok threshold, asked⟩
        targets := origin.targets_ne_nil }
  | withGroupBy before added ih =>
    obtain ⟨limit, groupBy, rfl⟩ := withGroupBy_frame added
    exact { ih before.originates with }
  | withGenerative before added ih =>
    obtain ⟨generative, rfl⟩ := withGenerative_frame added
    exact { ih before.originates with }

/-- A hybrid search whose text half is moved away from an object, in groups. -/
theorem built_wellFormed_moved_hybrid :
    let b : RequestBuilder := ⟨{ name := "Article" }, .latest⟩
    let away : Move := { force := ⟨0x3f800000⟩, objects := [.ofNat 1] }
    let o : HybridOptions :=
      { alpha := ⟨0x3f800000⟩, operator := some (.or 2), target := some (.many ["title", "body"])
        vector := some (.nearText ["", "shoes"] none (some ⟨0x3fe0000000000000⟩) none (some away)) }
    ∃ r grouped, b.hybrid none o = .ok r ∧ withGroupBy r ⟨"kind", 3, 2⟩ = .ok grouped ∧
      (nearTexts grouped).length = 1 ∧ (selections grouped).length = 2 ∧
      (keywordOperators grouped).length = 1 ∧ grouped.WellFormed := by
  intro b away o
  have built : ∃ r grouped, b.hybrid none o = .ok r ∧ withGroupBy r ⟨"kind", 3, 2⟩ = .ok grouped ∧
      (nearTexts grouped).length = 1 ∧ (selections grouped).length = 2 ∧
      (keywordOperators grouped).length = 1 := by
    refine ⟨_, _, rfl, rfl, ?_, ?_, ?_⟩
    · rfl
    · rfl
    · rfl
  obtain ⟨r, grouped, searched, added, texts, selected, operators⟩ := built
  exact ⟨r, grouped, searched, added, texts, selected, operators,
    built_wellFormed (.withGroupBy (.hybrid searched) added)⟩

end RequestBuilder

end Search

end VectorClient
