import Mathlib.Data.List.Dedup
import VectorClient.Proofs.Search.Selection
import VectorClient.Proofs.Upgrade

/-!
# Weights of target vectors

The results for several targets can be joined by weights. A join that is sent has weights, all of
them for its targets and as they were selected. That each target has one weight is not checked, and
so it holds of the selections that it holds of, as of all that are made of a map of weights.
-/

namespace VectorClient

namespace Wire.Targets

/-- The targets are joined by their weights. -/
def IsWeighted (t : Wire.Targets) : Prop :=
  t.combination = Search.Combination.relativeScore.number ∨
    t.combination = Search.Combination.manualWeights.number

structure Weighed (t : Wire.Targets) : Prop where
  once : ∀ name ∈ t.targetVectors, (t.weightsForTargets.map (·.target)).count name = 1
  known : ∀ w ∈ t.weightsForTargets, w.target ∈ t.targetVectors

theorem weighed_iff {t : Wire.Targets} :
    t.Weighed ↔ (t.weightsForTargets.map (·.target)).Perm t.targetVectors.dedup := by
  rw [List.perm_iff_count]
  constructor
  · intro weighed name
    rw [List.count_dedup]
    split
    · rename_i selected
      exact weighed.once name selected
    · rename_i unselected
      refine List.count_eq_zero.mpr fun listed => unselected ?_
      obtain ⟨w, member, rfl⟩ := List.mem_map.mp listed
      exact weighed.known w member
  · intro same
    refine ⟨fun name selected => ?_, fun w member => ?_⟩
    · rw [same, List.count_dedup, if_pos selected]
    · have listed : w.target ∈ t.weightsForTargets.map (·.target) := List.mem_map_of_mem member
      rw [← List.mem_dedup, ← List.count_pos_iff, ← same]
      exact List.count_pos_iff.mpr listed

end Wire.Targets

namespace Search

def targetMessages (r : Wire.SearchRequest) : List Wire.Targets :=
  (selections r).flatMap (·.targets.toList)

namespace RequestBuilder

variable {b : RequestBuilder} {r : Wire.SearchRequest} {target : Option TargetVectors}
  {map : KeyMap VectorValue} {s : ResolvedTargets}

/-! ### Joins by weights -/

inductive Joins (b : RequestBuilder) : Option TargetVectors → Wire.Targets → Prop
  | weights {combination : Combination} {names : List String} {weights : List TargetWeight}
      (allowed : b.supports .perTargetWeights = true) (filled : weights ≠ [])
      (selected : ∀ w ∈ weights, w.target ∈ names) :
      Joins b (some (.combined combination names weights))
        (combinedTargets combination names weights)

theorem needsWeights_iff {c : Combination} :
    c.number = Combination.relativeScore.number ∨ c.number = Combination.manualWeights.number ↔
      c.needsWeights = true := by
  cases c <;> decide

theorem not_isWeighted {names : List String} :
    ¬ ({ targetVectors := names } : Wire.Targets).IsWeighted := by
  have plain : ¬ (0 = Combination.relativeScore.number ∨ 0 = Combination.manualWeights.number) := by
    decide
  exact plain

theorem Resolves.joins {t : Wire.Targets} (resolves : b.Resolves target s)
    (sent : s.targets = some t) (weighted : t.IsWeighted) : b.Joins target t := by
  cases resolves with
  | unselected | name => cases sent
  | single | many =>
    obtain rfl := Option.some.inj sent
    exact absurd weighted not_isWeighted
  | combined _ _ filled allowed selected =>
    obtain rfl := Option.some.inj sent
    have weights := filled (needsWeights_iff.mp weighted)
    exact .weights (allowed weights) weights selected

theorem Carries.joins {input : VectorInput} {certainty distance : Option Number.Double}
    {m : Wire.NearVector} {t : Wire.Targets}
    (carries : b.Carries certainty distance input target m) (sent : m.targets = some t)
    (weighted : t.IsWeighted) : b.Joins target t := by
  rcases carries.selected with selected | ⟨_, own⟩
  · exact selected.joins sent weighted
  · cases own.joins sent weighted

theorem Places.joins {sent : List ResolvedTargets} {near : List Wire.NearVector} {t : Wire.Targets}
    (places : b.Places target map sent near) (member : t ∈ sent.flatMap (·.targets.toList))
    (weighted : t.IsWeighted) : b.Joins target t := by
  cases places with
  | nowhere => cases member
  | message resolves =>
    rw [List.flatMap_singleton, Option.mem_toList] at member
    exact resolves.joins member weighted
  | text resolves =>
    have alone : ({} : ResolvedTargets).targets = none := rfl
    rw [List.flatMap_cons, List.flatMap_singleton, alone, Option.toList_none, List.append_nil,
      Option.mem_toList] at member
    exact resolves.joins member weighted
  | nearVector carries =>
    rw [List.flatMap_singleton, Option.mem_toList] at member
    exact carries.joins member weighted
  | hybrid resolves carries =>
    rw [List.flatMap_cons, List.mem_append, List.flatMap_singleton, Option.mem_toList,
      Option.mem_toList] at member
    rcases member with outer | inner
    · exact resolves.joins outer weighted
    · cases carries.joins inner weighted

theorem Builds.buildsFor (builds : b.Builds r) : ∃ target map, b.BuildsFor target map r := by
  induction builds with
  | fetch built => exact ⟨_, _, .fetch built⟩
  | fetchById built => exact ⟨_, _, .fetchById built⟩
  | keywords built => exact ⟨_, _, .keywords built⟩
  | hybrid built => exact ⟨_, _, .hybrid built⟩
  | nearObject built => exact ⟨_, _, .nearObject built⟩
  | nearVector built => exact ⟨_, _, .nearVector built⟩
  | nearText built => exact ⟨_, _, .nearText built⟩
  | nearMedia built => exact ⟨_, _, .nearMedia built⟩
  | withGroupBy _ added ih =>
    obtain ⟨target, map, before⟩ := ih
    exact ⟨target, map, .withGroupBy before added⟩
  | withGenerative _ added ih =>
    obtain ⟨target, map, before⟩ := ih
    exact ⟨target, map, .withGenerative before added⟩

/-- What is not refused as a selection can be searched for. -/
theorem Resolves.builds (resolves : b.Resolves target s) :
    ∃ r, b.Builds r ∧ s ∈ selections r := by
  have built : b.nearObject (.ofNat 0) { target } = .ok _ :=
    bind_ok.mpr ⟨(), rfl, bind_ok.mpr ⟨s, targets_ok.mpr resolves, rfl⟩⟩
  exact ⟨_, .nearObject built, List.mem_cons_self⟩

theorem multiTarget_of_weights (known : b.supports .perTargetWeights = true) :
    b.supports .multiTargetSearch = true := by
  have earlier : Capability.multiTargetSearch.since ≤ Capability.perTargetWeights.since := by decide
  exact decide_eq_true (Version.le_trans earlier (of_decide_eq_true known))

theorem Joins.resolves {t : Wire.Targets} (joins : b.Joins target t) :
    b.Resolves target { targets := some t } := by
  cases joins with
  | @weights _ names weights allowed filled selected =>
    have nonempty : names ≠ [] := by
      obtain ⟨w, member⟩ := List.exists_mem_of_ne_nil weights filled
      exact List.ne_nil_of_mem (selected w member)
    exact .combined (multiTarget_of_weights allowed) nonempty (fun _ => filled) (fun _ => allowed)
      selected

/-- Every message with weights for some of its targets alone is that of a selection. -/
theorem joins_iff {t : Wire.Targets} (weighted : t.IsWeighted) :
    (∃ target, b.Joins target t) ↔ b.supports .perTargetWeights = true ∧ t.weights = [] ∧
      t.weightsForTargets ≠ [] ∧ ∀ w ∈ t.weightsForTargets, w.target ∈ t.targetVectors := by
  constructor
  · rintro ⟨target, joins⟩
    cases joins with
    | weights allowed filled selected =>
      refine ⟨allowed, rfl, fun none => filled (List.map_eq_nil_iff.mp none), ?_⟩
      exact List.forall_mem_map.mpr selected
  · rintro ⟨allowed, noMap, filled, selected⟩
    obtain ⟨names, number, entries, sent⟩ := t
    obtain rfl : entries = [] := noMap
    obtain ⟨c, rfl⟩ : ∃ c : Combination, number = c.number := by
      rcases weighted with relative | manual
      · exact ⟨_, relative⟩
      · exact ⟨_, manual⟩
    let given : List TargetWeight := sent.map fun w => ⟨w.target, w.weight⟩
    have joins : b.Joins (some (.combined c names given)) (combinedTargets c names given) :=
      .weights allowed (fun none => filled (List.map_eq_nil_iff.mp none))
        (List.forall_mem_map.mpr selected)
    have same : given.map (fun w => (⟨w.target, w.weight⟩ : Wire.WeightForTarget)) = sent := by
      simp [given, Function.comp_def]
    rw [combinedTargets, same] at joins
    exact ⟨_, joins⟩

theorem Joins.weighed_iff {t : Wire.Targets} (joins : b.Joins target t) :
    t.Weighed ↔ ∃ combination names weights, target = some (.combined combination names weights) ∧
      (weights.map (·.target)).Perm names.dedup := by
  cases joins with
  | @weights combination names weights =>
    have sent : (combinedTargets combination names weights).weightsForTargets.map (·.target) =
        weights.map (·.target) := List.map_map
    rw [Wire.Targets.weighed_iff, sent]
    constructor
    · intro perm
      exact ⟨combination, names, weights, rfl, perm⟩
    · rintro ⟨_, _, _, same, perm⟩
      cases same
      exact perm

theorem weighted_perm (combination : Combination) {weights : KeyMap Number.Single}
    (ordered : weights.Ordered) :
    ∃ given, TargetVectors.weighted combination weights = .combined combination weights.keys given ∧
      (given.map (·.target)).Perm weights.keys.dedup := by
  refine ⟨_, rfl, ?_⟩
  rw [ordered.nodup_keys.dedup, List.map_map]
  exact .refl _

/-! ### What is sent -/

/-- A join by weights is sent iff it has weights and all of them are for targets. Each target has
one weight iff the selection gives it one, as every selection does that is made of a map of
weights. -/
theorem weighted_joins_sent {t : Wire.Targets} (weighted : t.IsWeighted) :
    ((∃ r, b.Builds r ∧ t ∈ targetMessages r) ↔
      b.supports .perTargetWeights = true ∧ t.weights = [] ∧ t.weightsForTargets ≠ [] ∧
        ∀ w ∈ t.weightsForTargets, w.target ∈ t.targetVectors) ∧
    ∀ target map r, b.BuildsFor target map r → t ∈ targetMessages r →
      (t.Weighed ↔ ∃ combination names weights,
        target = some (.combined combination names weights) ∧
          (weights.map (·.target)).Perm names.dedup) ∧
      ∀ combination weights, weights.Ordered →
        target = some (.weighted combination weights) → t.Weighed := by
  refine ⟨?_, fun target map r builds sent => ?_⟩
  · rw [← joins_iff weighted]
    constructor
    · rintro ⟨r, builds, sent⟩
      obtain ⟨target, map, builds⟩ := builds.buildsFor
      exact ⟨target, builds.places.joins sent weighted⟩
    · rintro ⟨target, joins⟩
      obtain ⟨r, builds, member⟩ := joins.resolves.builds
      exact ⟨r, builds, List.mem_flatMap.mpr ⟨_, member, Option.mem_toList.mpr rfl⟩⟩
  · have joins := builds.places.joins sent weighted
    refine ⟨joins.weighed_iff, fun combination weights ordered same => ?_⟩
    obtain ⟨given, made, perm⟩ := weighted_perm combination ordered
    exact joins.weighed_iff.mpr ⟨_, _, given, same.trans (congrArg some made), perm⟩

/-- A selection that is made of a map of weights. -/
theorem weighted_joins_sent_of_map :
    let b : RequestBuilder := ⟨{ name := "Article" }, .latest⟩
    let weights : KeyMap Number.Single := [("body", ⟨0x3e800000⟩), ("title", ⟨0x3f400000⟩)]
    let o : NearOptions := { target := some (.weighted .relativeScore weights) }
    weights.Ordered ∧ ∃ r t, b.nearObject (.ofNat 0) o = .ok r ∧ t ∈ targetMessages r ∧
      t.IsWeighted ∧ t.targetVectors = ["body", "title"] ∧ t.Weighed := by
  intro b weights o
  have ordered : weights.Ordered := by
    unfold KeyMap.Ordered
    decide
  have sent : ∃ r t, b.nearObject (.ofNat 0) o = .ok r ∧ t ∈ targetMessages r ∧ t.IsWeighted ∧
      t.targetVectors = ["body", "title"] := ⟨_, _, rfl, List.mem_cons_self, .inl rfl, rfl⟩
  obtain ⟨r, t, built, sent, weighted, names⟩ := sent
  have weighed := ((weighted_joins_sent weighted).2 _ _ r (.nearObject built) sent).2 _ weights
    ordered rfl
  exact ⟨ordered, r, t, built, sent, weighted, names, weighed⟩

/-- A target without a weight is sent, and so is one with two. -/
theorem unweighed_joins_sent :
    let b : RequestBuilder := ⟨{ name := "Article" }, .latest⟩
    let near (weights : List TargetWeight) : Except Error Wire.SearchRequest :=
      b.nearObject (.ofNat 0) { target := some (.combined .manualWeights ["a", "b"] weights) }
    let one : Number.Single := ⟨0x3f800000⟩
    (∃ r t, near [⟨"a", one⟩] = .ok r ∧ t ∈ targetMessages r ∧ t.IsWeighted ∧ ¬ t.Weighed ∧
      t.targetVectors = ["a", "b"] ∧ t.weightsForTargets = [⟨"a", one⟩]) ∧
    ∃ r t, near [⟨"a", one⟩, ⟨"b", one⟩, ⟨"a", one⟩] = .ok r ∧ t ∈ targetMessages r ∧
      t.IsWeighted ∧ ¬ t.Weighed ∧ t.targetVectors = ["a", "b"] ∧
        t.weightsForTargets = [⟨"a", one⟩, ⟨"b", one⟩, ⟨"a", one⟩] := by
  intro b near one
  refine ⟨⟨_, _, rfl, List.mem_cons_self, .inr rfl, fun weighed => ?_, rfl, rfl⟩,
    _, _, rfl, List.mem_cons_self, .inr rfl, fun weighed => ?_, rfl, rfl⟩
  · have none := weighed.once "b" (by decide)
    exact absurd none (by decide)
  · have two := weighed.once "a" (by decide)
    exact absurd two (by decide)

end RequestBuilder

end Search

end VectorClient
