import VectorClient.Batch.Wire
import VectorClient.Proofs.Steps
import VectorClient.Search.Request

/-!
# Newer servers

A newer server has all features of an older one. What is accepted for the older one is therefore
accepted for the newer one, if in another form, and what is refused for another reason than a
missing feature is refused for that reason by both. Each check keeps this, and so do checks one
after the other.
-/

namespace VectorClient

open Search RequestBuilder

/-! ### Versions and features -/

theorem Version.le_iff {a b : Version} : a ≤ b ↔ a.major < b.major ∨ a.major = b.major ∧
    (a.minor < b.minor ∨ a.minor = b.minor ∧ a.patch ≤ b.patch) := by
  change (Version.compare a b).isLE = true ↔ _
  rw [Version.compare, Ordering.isLE_then_iff_or, Ordering.isLE_then_iff_or, Std.compare_eq_lt,
    Std.compare_eq_lt, Std.compare_eq_iff_eq, Std.compare_eq_iff_eq, Std.isLE_compare]

theorem Version.le_trans {a b c : Version} (ab : a ≤ b) (bc : b ≤ c) : a ≤ c := by
  rw [le_iff] at ab bc ⊢
  simp only [UInt32.lt_iff_toNat_lt, UInt32.le_iff_toNat_le, ← UInt32.toNat_inj] at ab bc ⊢
  omega

namespace Capabilities

/-- Everything that the first supports is supported by the second. -/
def Within (old new : Capabilities) : Prop :=
  ∀ c, old.supports c = true → new.supports c = true

theorem within_of_le {old new : Version} (upgrade : old ≤ new) :
    Within ⟨old⟩ ⟨new⟩ := fun _ known =>
  decide_eq_true (Version.le_trans (of_decide_eq_true known) upgrade)

end Capabilities

/-! ### Outcomes -/

/-- The outcomes of one step for an older and for a newer server: the newer one accepts what the
older one accepts, and an error that is not about a missing feature stays. -/
structure Upgrades {α β : Type} (old : Except Error α) (new : Except Error β) : Prop where
  accepted : ∀ a, old = .ok a → ∃ b, new = .ok b
  refused : ∀ e, old = .error e →
    (∀ capability version, e ≠ .unsupportedFeature capability version) → new = .error e

namespace Upgrades

variable {α β γ δ : Type}

theorem same (x : Except Error α) : Upgrades x x := ⟨fun a done => ⟨a, done⟩, fun _ done _ => done⟩

theorem accepting (a : α) (b : β) : Upgrades (.ok a : Except Error α) (.ok b : Except Error β) :=
  ⟨fun _ _ => ⟨b, rfl⟩, fun _ failed => by cases failed⟩

theorem refusing (e : Error) :
    Upgrades (.error e : Except Error α) (.error e : Except Error β) := by
  refine ⟨nofun, fun e' same _ => ?_⟩
  obtain rfl : e = e' := Except.error.inj same
  rfl

theorem unsupported (caps : Capabilities) (c : Capability) (new : Except Error β) :
    Upgrades (.error (caps.unsupported c) : Except Error α) new := by
  refine ⟨nofun, fun e same other => ?_⟩
  obtain rfl := Except.error.inj same
  exact absurd rfl (other _ _)

theorem bind {x : Except Error α} {y : Except Error β} {f : α → Except Error γ}
    {g : β → Except Error δ} (first : Upgrades x y) (next : ∀ a b, Upgrades (f a) (g b)) :
    Upgrades (x >>= f) (y >>= g) := by
  cases x with
  | ok a =>
    obtain ⟨b, rfl⟩ := first.accepted a rfl
    exact next a b
  | error e =>
    refine ⟨nofun, fun e' same other => ?_⟩
    obtain rfl : e = e' := Except.error.inj same
    rw [first.refused e rfl other]
    rfl

/-- Continuing in the same way after a step whose result does not depend on the server. -/
theorem after (x : Except Error α) {f : α → Except Error γ} {g : α → Except Error δ}
    (next : ∀ a, Upgrades (f a) (g a)) : Upgrades (x >>= f) (x >>= g) := by
  cases x with
  | ok a => exact next a
  | error e => exact refusing e

theorem mapM {f g : α → Except Error β} (each : ∀ a, Upgrades (f a) (g a)) (xs : List α) :
    Upgrades (xs.mapM f) (xs.mapM g) := by
  induction xs with
  | nil => exact same _
  | cons x rest ih =>
    rw [List.mapM_cons, List.mapM_cons]
    exact (each x).bind fun _ _ => ih.bind fun _ _ => accepting _ _

end Upgrades

theorem Capabilities.require_upgrades {old new : Capabilities} (within : old.Within new)
    (c : Capability) : Upgrades (old.require c) (new.require c) := by
  cases known : old.supports c with
  | true =>
    rw [require, require, if_pos known, if_pos (within c known)]
    exact .accepting () ()
  | false =>
    rw [require, known]
    exact .unsupported old c _

/-! ### Parts of a search -/

namespace Search.RequestBuilder

variable {old new : RequestBuilder} (within : old.capabilities.Within new.capabilities)

theorem base_upgrades (o : CommonOptions) : Upgrades (old.base o) (new.base o) :=
  .after _ fun _ => .accepting _ _

theorem select_upgrades {α : Type} {map : KeyMap VectorValue} {target : Option TargetVectors}
    {f g : TargetVectors → Except Error α} (next : ∀ selected, Upgrades (f selected) (g selected)) :
    Upgrades
      (match target with
        | some selected => checkTargetsMatch map selected >>= fun _ => pure selected >>= f
        | none => pure (TargetVectors.many map.keys) >>= f)
      (match target with
        | some selected => checkTargetsMatch map selected >>= fun _ => pure selected >>= g
        | none => pure (TargetVectors.many map.keys) >>= g) := by
  cases target with
  | none => exact next _
  | some selected => exact .after _ fun _ => next _

theorem vectorPerTarget_upgrades (map : KeyMap VectorValue) :
    Upgrades (old.vectorPerTarget map) (new.vectorPerTarget map) := by
  induction map with
  | nil => exact .same _
  | cons entry rest ih =>
    obtain ⟨name, v⟩ := entry
    cases v with
    | single v => exact ih.bind fun _ _ => .accepting _ _
    | multi rows => exact .unsupported old.capabilities .multiVectorPerTarget _

/-- The newer form holds all vectors that the older one holds, which refuses multi-vectors as a
missing feature. -/
theorem vectorForTargets_upgrades (map : KeyMap VectorValue) :
    Upgrades (old.vectorPerTarget map) (vectorForTargets map) := by
  induction map with
  | nil => exact .accepting _ _
  | cons entry rest ih =>
    obtain ⟨name, v⟩ := entry
    cases v with
    | single v => exact ih.bind fun _ _ => .accepting _ _
    | multi rows => exact .unsupported old.capabilities .multiVectorPerTarget _

include within

theorem searchOperator_upgrades (o : Option KeywordOperator) :
    Upgrades (old.searchOperator o) (new.searchOperator o) := by
  cases o with
  | none => exact .same _
  | some operator => exact (Capabilities.require_upgrades within _).bind fun _ _ => .same _

theorem targets_upgrades (t : Option TargetVectors) : Upgrades (old.targets t) (new.targets t) := by
  match t with
  | none => exact .same _
  | some (.single name) =>
    refine .after _ fun _ => ?_
    -- Both forms of a single target are accepted.
    split <;> split <;> exact .accepting _ _
  | some (.many names) =>
    exact (Capabilities.require_upgrades within _).bind fun _ _ => .same _
  | some (.combined combination names weights) =>
    refine (Capabilities.require_upgrades within _).bind fun _ _ => ?_
    refine .after _ fun _ => .after _ fun _ => ?_
    cases weights with
    | nil => exact .same _
    | cons w rest => exact (Capabilities.require_upgrades within _).bind fun _ _ => .same _

theorem mapVectors_upgrades (map : KeyMap VectorValue) {α : Type}
    (several severalNew : List Wire.VectorForTarget → α) (one oneNew : KeyMap Wire.Bytes → α) :
    Upgrades
      (if old.supports .multiVectorPerTarget = true
        then vectorForTargets map >>= fun vectors => pure (several vectors)
        else old.vectorPerTarget map >>= fun vectors => pure (one vectors))
      (if new.supports .multiVectorPerTarget = true
        then vectorForTargets map >>= fun vectors => pure (severalNew vectors)
        else new.vectorPerTarget map >>= fun vectors => pure (oneNew vectors)) := by
  by_cases known : old.supports .multiVectorPerTarget = true
  · have knownToo : new.supports .multiVectorPerTarget = true := within _ known
    rw [if_pos known, if_pos knownToo]
    exact .after _ fun _ => .accepting _ _
  · rw [if_neg known]
    split
    · exact (vectorForTargets_upgrades map).bind fun _ _ => .accepting _ _
    · exact (vectorPerTarget_upgrades map).bind fun _ _ => .accepting _ _

theorem nearVectorMessage_upgrades (input : VectorInput) (certainty distance : Option Number.Double)
    (target : Option TargetVectors) :
    Upgrades (old.nearVectorMessage input certainty distance target)
      (new.nearVectorMessage input certainty distance target) := by
  refine .after _ fun _ => ?_
  match input with
  | .single v =>
    exact .after _ fun _ => (targets_upgrades within _).bind fun _ _ => .accepting _ _
  | .multi rows =>
    refine (Capabilities.require_upgrades within _).bind fun _ _ => ?_
    refine .after _ fun _ => .after _ fun _ => .after _ fun _ => ?_
    exact (targets_upgrades within _).bind fun _ _ => .accepting _ _
  | .perTarget map =>
    refine (Capabilities.require_upgrades within _).bind fun _ _ => ?_
    refine .after _ fun _ => ?_
    cases List.find? (fun entry => entry.2.isEmpty) map with
    | some entry => exact .same _
    | none =>
      refine select_upgrades fun selected => ?_
      exact (targets_upgrades within _).bind fun _ _ => mapVectors_upgrades within map _ _ _ _

/-! ### Kinds of search -/

omit within in
theorem fetch_upgrades (o : FetchOptions) : Upgrades (old.fetch o) (new.fetch o) :=
  .after _ fun _ => (base_upgrades _).bind fun _ _ => .accepting _ _

omit within in
theorem fetchById_upgrades (id : Uuid) (o : CommonOptions) :
    Upgrades (old.fetchById id o) (new.fetchById id o) :=
  .after _ fun _ => (base_upgrades _).bind fun _ _ => .accepting _ _

theorem keywords_upgrades (query : String) (o : KeywordOptions) :
    Upgrades (old.keywords query o) (new.keywords query o) := by
  refine .after _ fun _ => (base_upgrades _).bind fun _ _ => ?_
  exact (searchOperator_upgrades within _).bind fun _ _ => .accepting _ _

theorem withHybridVector_upgrades (before after : Wire.Hybrid) (half : Option HybridVector) :
    Upgrades (old.withHybridVector before half) (new.withHybridVector after half) := by
  match half with
  | none => exact .accepting _ _
  | some (.vector (.single v)) => exact .after _ fun _ => .accepting _ _
  | some (.vector (.multi rows)) =>
    exact (nearVectorMessage_upgrades within _ _ _ _).bind fun _ _ => .accepting _ _
  | some (.vector (.perTarget map)) =>
    exact (nearVectorMessage_upgrades within _ _ _ _).bind fun _ _ => .accepting _ _
  | some (.nearVector input certainty distance) =>
    exact (nearVectorMessage_upgrades within _ _ _ _).bind fun _ _ => .accepting _ _
  | some (.nearText query certainty distance moveTo moveAway) =>
    exact .after _ fun _ => .after _ fun _ => .after _ fun _ => .after _ fun _ => .accepting _ _

theorem hybrid_upgrades (query : Option String) (o : HybridOptions) :
    Upgrades (old.hybrid query o) (new.hybrid query o) := by
  refine .after _ fun _ => .after _ fun _ => ?_
  refine (targets_upgrades within _).bind fun _ _ => ?_
  refine (searchOperator_upgrades within _).bind fun _ _ => ?_
  refine (withHybridVector_upgrades within _ _ _).bind fun _ _ => ?_
  exact (base_upgrades _).bind fun _ _ => .accepting _ _

theorem nearObject_upgrades (id : Uuid) (o : NearOptions) :
    Upgrades (old.nearObject id o) (new.nearObject id o) := by
  refine .after _ fun _ => (targets_upgrades within _).bind fun _ _ => ?_
  exact (base_upgrades _).bind fun _ _ => .accepting _ _

theorem nearVector_upgrades (input : VectorInput) (o : NearOptions) :
    Upgrades (old.nearVector input o) (new.nearVector input o) := by
  refine (nearVectorMessage_upgrades within _ _ _ _).bind fun _ _ => ?_
  exact (base_upgrades _).bind fun _ _ => .accepting _ _

theorem nearText_upgrades (query : List String) (o : NearTextOptions) :
    Upgrades (old.nearText query o) (new.nearText query o) := by
  refine .after _ fun _ => .after _ fun _ => ?_
  refine (targets_upgrades within _).bind fun _ _ => ?_
  refine (base_upgrades _).bind fun _ _ => ?_
  exact .after _ fun _ => .after _ fun _ => .accepting _ _

theorem nearMedia_upgrades (media : Media) (content : String) (o : NearOptions) :
    Upgrades (old.nearMedia media content o) (new.nearMedia media content o) := by
  refine .after _ fun _ => .after _ fun _ => ?_
  refine (targets_upgrades within _).bind fun _ _ => ?_
  exact (base_upgrades _).bind fun _ _ => .accepting _ _

end Search.RequestBuilder

/-! ### Batches -/

theorem BatchObject.vectorsToWire_upgrades {old new : Capabilities} (within : old.Within new)
    (usesNamedVectors : Bool) (o : BatchObject) :
    Upgrades (o.vectorsToWire usesNamedVectors old) (o.vectorsToWire usesNamedVectors new) := by
  unfold vectorsToWire
  cases o.vectors with
  | none => exact .same _
  | some vectors =>
    cases vectors with
    | single v => exact .same _
    | named vectors =>
      cases usesNamedVectors with
      | false => exact .same _
      | true =>
        dsimp only
        rw [if_pos rfl, if_pos rfl]
        split
        · exact (Capabilities.require_upgrades within _).bind fun _ _ => .same _
        · exact .same _

theorem BatchObject.toWire_upgrades {old new : Capabilities} (within : old.Within new)
    (usesNamedVectors : Bool) (tenant : Option String) (o : BatchObject) (id : Uuid) :
    Upgrades (o.toWire usesNamedVectors tenant old id)
      (o.toWire usesNamedVectors tenant new id) := by
  unfold toWire
  split
  · exact .refusing _
  · exact (vectorsToWire_upgrades within _ _).bind fun _ _ => .accepting _ _

/-! ### Everything that is built -/

/-- A newer server accepts every search and every batch that an older one accepts, and refuses for
the same reason what the older one refuses for another reason than a missing feature. -/
theorem upgrade_keeps_outcomes {old new : Version} (upgrade : old ≤ new) :
    (∀ context : CollectionContext,
      let before : RequestBuilder := ⟨context, ⟨old⟩⟩
      let after : RequestBuilder := ⟨context, ⟨new⟩⟩
      (∀ o, Upgrades (before.fetch o) (after.fetch o)) ∧
      (∀ id o, Upgrades (before.fetchById id o) (after.fetchById id o)) ∧
      (∀ query o, Upgrades (before.keywords query o) (after.keywords query o)) ∧
      (∀ query o, Upgrades (before.hybrid query o) (after.hybrid query o)) ∧
      (∀ id o, Upgrades (before.nearObject id o) (after.nearObject id o)) ∧
      (∀ input o, Upgrades (before.nearVector input o) (after.nearVector input o)) ∧
      (∀ query o, Upgrades (before.nearText query o) (after.nearText query o)) ∧
      ∀ media content o,
        Upgrades (before.nearMedia media content o) (after.nearMedia media content o)) ∧
      ∀ fresh next usesNamedVectors tenant objects,
        Upgrades (Batch.toWire fresh next usesNamedVectors tenant ⟨old⟩ objects)
          (Batch.toWire fresh next usesNamedVectors tenant ⟨new⟩ objects) := by
  have within := Capabilities.within_of_le upgrade
  refine ⟨fun context => ?_, fun fresh next usesNamedVectors tenant objects =>
    .mapM (fun _ => BatchObject.toWire_upgrades within _ _ _ _) _⟩
  exact ⟨fetch_upgrades, fetchById_upgrades, keywords_upgrades within, hybrid_upgrades within,
    nearObject_upgrades within, nearVector_upgrades within, nearText_upgrades within,
    nearMedia_upgrades within⟩

/-- From one form of vectors for several targets to the other: a map of vectors stays accepted, and
one that does not have the selected targets stays refused. -/
theorem upgrade_keeps_outcomes_per_target :
    let old : Version := ⟨1, 26, 4⟩
    let new : Version := ⟨1, 27, 0⟩
    let context : CollectionContext := { name := "Article" }
    let input : VectorInput := .perTarget [("title", .single [⟨0x3f800000⟩])]
    let search (version : Version) (target : TargetVectors) : Except Error Wire.SearchRequest :=
      RequestBuilder.nearVector ⟨context, ⟨version⟩⟩ input { target := some target }
    old ≤ new ∧ (∃ r, search old (.single "title") = .ok r) ∧
      (∃ r, search new (.single "title") = .ok r) ∧
      search old (.single "body") = .error (.invalidInput (.unselectedTarget "title")) ∧
      search new (.single "body") = .error (.invalidInput (.unselectedTarget "title")) := by
  intro old new context input search
  have upgrade : old ≤ new := by decide
  have upgrades : ∀ target, Upgrades (search old target) (search new target) :=
    fun target => ((upgrade_keeps_outcomes upgrade).1 context).2.2.2.2.2.1 input _
  have accepted : ∃ r, search old (.single "title") = .ok r := ⟨_, rfl⟩
  have refused : search old (.single "body") =
      .error (.invalidInput (.unselectedTarget "title")) := rfl
  obtain ⟨r, built⟩ := accepted
  exact ⟨upgrade, ⟨r, built⟩, (upgrades _).accepted r built, refused,
    (upgrades _).refused _ refused (fun _ _ other => by cases other)⟩

end VectorClient
