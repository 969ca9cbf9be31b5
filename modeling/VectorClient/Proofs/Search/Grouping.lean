import VectorClient.Proofs.Search.Frame

/-!
# Groups and generation

A request can be grouped iff it searches, is not grouped yet and has room for the groups that are
asked for. Grouping sets the limit and the groups, generation sets its own part, and so their order
does not count.
-/

namespace VectorClient

namespace Search

variable {r : Wire.SearchRequest} {g : GroupByOptions} {p : GenerativeOptions}

/-! ### Limits -/

/-- How many objects a grouped request asks for: as many as it did, or as the groups hold. -/
def groupedLimit (limit : UInt32) (g : GroupByOptions) : UInt32 :=
  if limit = 0 then saturatingMul g.numberOfGroups g.objectsPerGroup else limit

theorem toNat_saturatingMul (a b : UInt32) :
    (saturatingMul a b).toNat = min (a.toNat * b.toNat) (UInt32.size - 1) :=
  UInt32.toNat_ofNat_of_lt' (Nat.lt_of_le_of_lt (Nat.min_le_right _ _) (by decide))

theorem toNat_groupedLimit (limit : UInt32) (g : GroupByOptions) :
    (groupedLimit limit g).toNat = if limit = 0
      then min (g.numberOfGroups.toNat * g.objectsPerGroup.toNat) (UInt32.size - 1)
      else limit.toNat := by
  unfold groupedLimit
  split
  · exact toNat_saturatingMul _ _
  · rfl

theorem groupLimit_ok {limit l : UInt32} :
    groupLimit limit g = .ok l ↔
      (limit = 0 ∨ g.numberOfGroups ≤ limit) ∧ l = groupedLimit limit g := by
  unfold groupLimit groupedLimit
  by_cases unlimited : limit = 0
  · simp [unlimited, eq_comm]
  · by_cases enough : g.numberOfGroups ≤ limit
    · simp [unlimited, UInt32.not_lt.mpr enough, enough, eq_comm]
    · simp [unlimited, UInt32.not_le.mp enough, enough, invalid]

theorem groupCount_ok {name : String} {n : UInt32} {k : Int32} :
    groupCount name n = .ok k ↔ n.toNat < Number.pow2 31 ∧ k = n.toInt32 := by
  rw [groupCount, ← toInt32?_eq_some]
  cases toInt32? n with
  | none => exact ⟨nofun, nofun⟩
  | some k' => simp only [Except.ok.injEq, Option.some.injEq]

/-! ### Grouping -/

/-- At least one, and a number that a count with a sign can hold. -/
def IsCount (n : UInt32) : Prop := 1 ≤ n.toNat ∧ n.toNat ≤ Number.pow2 31 - 1

instance (n : UInt32) : Decidable (IsCount n) := inferInstanceAs (Decidable (_ ∧ _))

theorem isCount_iff {n : UInt32} : IsCount n ↔ n ≠ 0 ∧ n.toNat < Number.pow2 31 := by
  have bound : Number.pow2 31 = 2147483648 := rfl
  rw [IsCount, bound, ne_eq, ← UInt32.toNat_inj, UInt32.toNat_zero]
  omega

structure CanGroup (r : Wire.SearchRequest) (g : GroupByOptions) : Prop where
  searches : ∃ field, field ∈ fieldsSet r
  ungrouped : r.groupBy = none
  property : Text.isBlank g.property = false
  groups : IsCount g.numberOfGroups
  objects : IsCount g.objectsPerGroup
  room : r.limit = 0 ∨ g.numberOfGroups ≤ r.limit

def grouped (r : Wire.SearchRequest) (g : GroupByOptions) : Wire.SearchRequest :=
  { r with
    limit := groupedLimit r.limit g
    groupBy := some ⟨[g.property], g.numberOfGroups.toInt32, g.objectsPerGroup.toInt32⟩ }

theorem withGroupBy_ok {r' : Wire.SearchRequest} :
    withGroupBy r g = .ok r' ↔ CanGroup r g ∧ r' = grouped r g := by
  simp only [withGroupBy, bind_ok, refuse_ok, groupCount_ok, groupLimit_ok, Bool.not_eq_false',
    isSearch_iff, Option.isSome_eq_false_iff, Option.isNone_iff_eq_none, Bool.or_eq_false_iff,
    decide_eq_false_iff_not]
  constructor
  · rintro ⟨_, searches, _, ungrouped, _, property, _, ⟨someGroup, someObject⟩, _,
      ⟨groups_fit, rfl⟩, _, ⟨objects_fit, rfl⟩, _, ⟨room, rfl⟩, added⟩
    exact ⟨⟨searches, ungrouped, property, isCount_iff.mpr ⟨someGroup, groups_fit⟩,
      isCount_iff.mpr ⟨someObject, objects_fit⟩, room⟩, (pure_ok added).symm⟩
  · rintro ⟨⟨searches, ungrouped, property, groups, objects, room⟩, rfl⟩
    obtain ⟨someGroup, groups_fit⟩ := isCount_iff.mp groups
    obtain ⟨someObject, objects_fit⟩ := isCount_iff.mp objects
    exact ⟨(), searches, (), ungrouped, (), property, (), ⟨someGroup, someObject⟩, _,
      ⟨groups_fit, rfl⟩, _, ⟨objects_fit, rfl⟩, _, ⟨room, rfl⟩, rfl⟩

theorem CanGroup.enough (can : CanGroup r g) :
    g.numberOfGroups.toNat ≤ (grouped r g).limit.toNat := by
  change _ ≤ (groupedLimit r.limit g).toNat
  rw [toNat_groupedLimit]
  split
  · have oneEach : 1 ≤ g.objectsPerGroup.toNat := can.objects.1
    exact Nat.le_min.mpr ⟨Nat.le_mul_of_pos_right _ oneEach,
      Nat.le_pred_of_lt g.numberOfGroups.toNat_lt⟩
  · rename_i limited
    exact UInt32.le_iff_toNat_le.mp (can.room.resolve_left limited)

structure GroupedAs (r : Wire.SearchRequest) (g : GroupByOptions) (r' : Wire.SearchRequest) :
    Prop where
  frame : ∃ limit groupBy, r' = { r with limit, groupBy }
  limit : r'.limit.toNat = if r.limit = 0
    then min (g.numberOfGroups.toNat * g.objectsPerGroup.toNat) (UInt32.size - 1)
    else r.limit.toNat
  enough : g.numberOfGroups.toNat ≤ r'.limit.toNat
  groupBy : ∃ w, r'.groupBy = some w ∧ w.path = [g.property] ∧
    w.numberOfGroups.toInt = g.numberOfGroups.toNat ∧
    w.objectsPerGroup.toInt = g.objectsPerGroup.toNat
  once : ∀ again, withGroupBy r' again = invalid .alreadyGrouped

theorem CanGroup.groupedAs (can : CanGroup r g) : GroupedAs r g (grouped r g) where
  frame := ⟨_, _, rfl⟩
  limit := toNat_groupedLimit r.limit g
  enough := can.enough
  groupBy := ⟨_, rfl, rfl, toInt_toInt32 (isCount_iff.mp can.groups).2,
    toInt_toInt32 (isCount_iff.mp can.objects).2⟩
  once again := by
    have searches : isSearch (grouped r g) = true := isSearch_iff.mpr can.searches
    rw [withGroupBy, searches]
    rfl

/-! ### Generation -/

structure CanGenerate (p : GenerativeOptions) : Prop where
  prompt : (usablePrompt p.singlePrompt).isSome ∨ (usablePrompt p.groupedTask).isSome
  properties : p.groupedProperties ≠ [] → (usablePrompt p.groupedTask).isSome

def generating (r : Wire.SearchRequest) (p : GenerativeOptions) : Wire.SearchRequest :=
  { r with
    generative := some ⟨(usablePrompt p.singlePrompt).getD "", (usablePrompt p.groupedTask).getD "",
      p.groupedProperties⟩ }

theorem withGenerative_ok {r' : Wire.SearchRequest} :
    withGenerative r p = .ok r' ↔ CanGenerate p ∧ r' = generating r p := by
  have prompt : ((usablePrompt p.singlePrompt).isNone && (usablePrompt p.groupedTask).isNone) =
      false ↔ (usablePrompt p.singlePrompt).isSome ∨ (usablePrompt p.groupedTask).isSome := by
    rw [Bool.and_eq_false_iff, Option.isNone_eq_false_iff, Option.isNone_eq_false_iff]
  have properties : ((usablePrompt p.groupedTask).isNone && !p.groupedProperties.isEmpty) =
      false ↔ (p.groupedProperties ≠ [] → (usablePrompt p.groupedTask).isSome) := by
    simp [Option.isSome_iff_ne_none, not_imp_not]
  simp only [withGenerative, bind_ok, refuse_ok, prompt, properties]
  constructor
  · rintro ⟨_, some, _, task, added⟩
    exact ⟨⟨some, task⟩, (pure_ok added).symm⟩
  · rintro ⟨⟨some, task⟩, rfl⟩
    exact ⟨(), some, (), task, rfl⟩

theorem canGroup_generating : CanGroup (generating r p) g ↔ CanGroup r g :=
  ⟨fun can => { can with }, fun can => { can with }⟩

/-- A request is grouped iff it searches, is not grouped, and has room for the groups that are asked
for; its limit and its groups are all that changes, and it is not grouped again. Generation sets its
own part alone, to the prompts that are not blank, and can be asked for before or after with the
same result. -/
theorem withGroupBy_exact (r : Wire.SearchRequest) (g : GroupByOptions) (p : GenerativeOptions) :
    ((∃ r', withGroupBy r g = .ok r') ↔ CanGroup r g) ∧
    (∀ r', withGroupBy r g = .ok r' → GroupedAs r g r') ∧
    ((∃ r', withGenerative r p = .ok r') ↔ CanGenerate p) ∧
    (∀ r', withGenerative r p = .ok r' → r' = { r with generative := some {
      singleResponsePrompt := (p.singlePrompt.filter fun t => !Text.isBlank t).getD ""
      groupedResponseTask := (p.groupedTask.filter fun t => !Text.isBlank t).getD ""
      groupedProperties := p.groupedProperties } }) ∧
    ∀ r', (withGroupBy r g >>= (withGenerative · p)) = .ok r' ↔
      (withGenerative r p >>= (withGroupBy · g)) = .ok r' := by
  refine ⟨?_, ?_, ?_, fun r' added => (withGenerative_ok.mp added).2, fun r' => ?_⟩
  · simp only [withGroupBy_ok, exists_and_left, exists_eq, and_true]
  · intro r' added
    obtain ⟨can, rfl⟩ := withGroupBy_ok.mp added
    exact can.groupedAs
  · simp only [withGenerative_ok, exists_and_left, exists_eq, and_true]
  · have order : generating (grouped r g) p = grouped (generating r p) g := rfl
    simp only [bind_ok, withGroupBy_ok, withGenerative_ok]
    constructor
    · rintro ⟨_, ⟨can, rfl⟩, asks, rfl⟩
      exact ⟨_, ⟨asks, rfl⟩, canGroup_generating.mpr can, order⟩
    · rintro ⟨_, ⟨asks, rfl⟩, can, rfl⟩
      exact ⟨_, ⟨canGroup_generating.mp can, rfl⟩, asks, order.symm⟩

/-- A keyword search without a limit, in more groups and objects than a limit can count. -/
theorem withGroupBy_exact_saturated :
    let r : Wire.SearchRequest :=
      { collection := "Article", bm25Search := some ⟨"shoes", ["title"], none⟩ }
    let g : GroupByOptions := ⟨"brand", 100000, 50000⟩
    let p : GenerativeOptions := { groupedTask := some "Compare", groupedProperties := ["title"] }
    CanGroup r g ∧ CanGenerate p ∧ ∃ r' r'', withGroupBy r g = .ok r' ∧
      r'.limit.toNat = 4294967295 ∧ (∃ limit groupBy, r' = { r with limit, groupBy }) ∧
      withGroupBy r' g = .error (.invalidInput .alreadyGrouped) ∧
      (withGroupBy r g >>= (withGenerative · p)) = .ok r'' ∧
      (withGenerative r p >>= (withGroupBy · g)) = .ok r'' := by
  intro r g p
  have can : CanGroup r g :=
    ⟨⟨.keywords, by decide⟩, rfl, by decide, by decide, by decide, .inl rfl⟩
  have asks : CanGenerate p := ⟨.inr rfl, fun _ => rfl⟩
  obtain ⟨groups, groupedAs, _, _, order⟩ := withGroupBy_exact r g p
  obtain ⟨r', added⟩ := groups.mpr can
  have done := groupedAs r' added
  have limit : r'.limit.toNat = 4294967295 := done.limit.trans (by decide)
  have both : (withGroupBy r g >>= (withGenerative · p)) = .ok (generating r' p) :=
    bind_ok.mpr ⟨r', added, withGenerative_ok.mpr ⟨asks, rfl⟩⟩
  exact ⟨can, asks, r', _, added, limit, done.frame, done.once g, both, (order _).mp both⟩

end Search

end VectorClient
