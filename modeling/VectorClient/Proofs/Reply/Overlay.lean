import VectorClient.Proofs.Steps
import VectorClient.Reply.Wire

/-!
# Generated text over plain results

A reply that is read with generated text gives what it gives without it, or fails with the same
error, and the text of an object is what its result marks as generated. In groups, the objects that
stand behind each other are those of the groups.
-/

namespace VectorClient

open Wire

section Definitions

variable {α β : Type}

def Group.map (f : α → β) (g : Group α) : Group β :=
  { name := g.name
    minDistance := g.minDistance
    maxDistance := g.maxDistance
    numberOfObjects := g.numberOfObjects
    objects := g.objects.map f
    rerankScore := g.rerankScore
    text := g.text }

def GroupedResult.map (f : α → β) (r : GroupedResult α) : GroupedResult β :=
  { objects := r.objects.map fun (name, a) => (name, f a)
    groups := r.groups.map (Group.map f)
    text := r.text }

/-- The objects that stand behind each other are those of the groups, each with the name of its
group. -/
def GroupedResult.Flat (r : GroupedResult α) : Prop :=
  r.objects = r.groups.flatMap fun g => g.objects.map (g.name, ·)

/-- The object has the text that the result marks as generated, if it marks one. -/
def Wire.SearchResult.Generates (s : SearchResult) (o : Generated) : Prop :=
  ∀ text, o.text = some text ↔
    ∃ m, s.metadata = some m ∧ m.generativePresent = true ∧ m.generative = text

end Definitions

/-! ### Groups and their objects -/

namespace GroupedResult

variable {α : Type} {read : SearchResult → Except Error α} {r : GroupedResult α}

theorem Flat.push (flat : r.Flat) (g : Group α) : (r.push g).Flat := by
  rw [Flat, GroupedResult.push, List.flatMap_append, List.flatMap_singleton, ← flat]

theorem Flat.foldl_push (flat : r.Flat) (groups : List (Group α)) :
    (groups.foldl GroupedResult.push r).Flat := by
  induction groups generalizing r with
  | nil => exact flat
  | cons g rest ih => exact ih (flat.push g)

theorem groups_foldl_push (groups : List (Group α)) :
    (groups.foldl GroupedResult.push r).groups = r.groups ++ groups := by
  induction groups generalizing r with
  | nil => exact (List.append_nil _).symm
  | cons g rest ih =>
    rw [List.foldl_cons, ih, GroupedResult.push, List.append_assoc]
    rfl

theorem foldlM_add_ok {found : GroupedResult α} {ws : List GroupByResult} :
    ws.foldlM (add read) found = .ok r ↔
      ∃ groups, List.Forall₂ (fun w g => Group.ofWire read w = .ok g) ws groups ∧
        r = groups.foldl GroupedResult.push found := by
  induction ws generalizing found with
  | nil =>
    simp only [List.forall₂_nil_left_iff, exists_eq_left]
    exact ⟨fun done => (pure_ok done).symm, fun same => same ▸ rfl⟩
  | cons w rest ih =>
    simp only [List.foldlM_cons, bind_ok, add, ih, List.forall₂_cons_left_iff]
    constructor
    · rintro ⟨_, ⟨g, first, pushed⟩, groups, others, rfl⟩
      obtain rfl := pure_ok pushed
      exact ⟨g :: groups, ⟨g, groups, first, others, rfl⟩, rfl⟩
    · rintro ⟨_, ⟨g, groups, first, others, rfl⟩, rfl⟩
      exact ⟨_, ⟨g, first, rfl⟩, groups, others, rfl⟩

end GroupedResult

/-- Groups are read one by one, and stand behind each other in the order of the reply. -/
theorem Wire.SearchReply.groupsWith_ok {α : Type} {read : SearchResult → Except Error α}
    {reply : SearchReply} {r : GroupedResult α} (found : reply.groupsWith read = .ok r) :
    r.Flat ∧
      List.Forall₂ (fun w g => Group.ofWire read w = .ok g) reply.groupByResults r.groups := by
  obtain ⟨all, run, done⟩ := bind_ok.mp found
  obtain rfl := pure_ok done
  obtain ⟨groups, each, rfl⟩ := GroupedResult.foldlM_add_ok.mp run
  have start : ({} : GroupedResult α).Flat := rfl
  refine ⟨start.foldl_push groups, ?_⟩
  rw [GroupedResult.groups_foldl_push]
  exact each

theorem Group.ofWire_ok {α : Type} {read : SearchResult → Except Error α} {w : GroupByResult}
    {g : Group α} (found : Group.ofWire read w = .ok g) :
    g.name = w.name ∧ List.Forall₂ (fun s a => read s = .ok a) w.objects g.objects := by
  obtain ⟨objects, each, done⟩ := bind_ok.mp found
  obtain rfl := pure_ok done
  exact ⟨rfl, mapM_ok_iff.mp each⟩

/-! ### Readers that differ by a part of their results -/

section Readers

variable {α β : Type} {read : SearchResult → Except Error α}
  {readPart : SearchResult → Except Error β} {part : α → β}

theorem Group.ofWire_map (same : ∀ s, readPart s = (read s).map part) (w : GroupByResult) :
    Group.ofWire readPart w = (Group.ofWire read w).map (Group.map part) := by
  rw [Group.ofWire, Group.ofWire, funext same, mapM_map_result]
  cases w.objects.mapM read <;> rfl

theorem GroupedResult.map_push (r : GroupedResult α) (g : Group α) :
    (r.push g).map part = (r.map part).push (g.map part) := by
  simp [GroupedResult.map, GroupedResult.push, Group.map]

theorem GroupedResult.add_map (same : ∀ s, readPart s = (read s).map part)
    (found : GroupedResult α) (w : GroupByResult) :
    (found.map part).add readPart w = (found.add read w).map (GroupedResult.map part) := by
  rw [add, add, Group.ofWire_map same]
  cases Group.ofWire read w with
  | error e => rfl
  | ok g => exact congrArg Except.ok (found.map_push g).symm

theorem Wire.SearchReply.groupsWith_map (same : ∀ s, readPart s = (read s).map part)
    (reply : SearchReply) :
    reply.groupsWith readPart = (reply.groupsWith read).map (GroupedResult.map part) := by
  have run := foldlM_map_state (GroupedResult.add_map same) reply.groupByResults {}
  rw [groupsWith, groupsWith]
  change (reply.groupByResults.foldlM _ (GroupedResult.map part {}) >>= _) = _
  rw [run]
  cases reply.groupByResults.foldlM (GroupedResult.add read) {} <;> rfl

end Readers

/-! ### Objects with and without text -/

theorem Object.ofWire_eq_map (collection : String) (s : SearchResult) :
    Object.ofWire collection s = (Generated.ofWire collection s).map (·.object) := by
  rw [Generated.ofWire]
  cases Object.ofWire collection s <;> rfl

theorem Wire.SearchResult.generates_of_ofWire {collection : String} {s : SearchResult}
    {o : Generated} (read : Generated.ofWire collection s = .ok o) : s.Generates o := by
  obtain ⟨object, _, done⟩ := bind_ok.mp read
  obtain rfl := pure_ok done
  intro text
  simp only [generatedText, whenPresent, Option.bind_eq_some_iff, ite_eq_iff, Option.some.injEq,
    reduceCtorEq, and_false, or_false]

/-- Reading with generated text is reading without it, and the texts are those that the reply marks
as generated. -/
theorem Wire.SearchReply.generated_overlays (collection : String) (reply : SearchReply) :
    reply.objects collection =
        (reply.generated collection).map (fun r => r.objects.map (·.object)) ∧
      reply.grouped collection = (reply.generatedGroups collection).map (.map (·.object)) ∧
      (∀ r, reply.generated collection = .ok r →
        List.Forall₂ SearchResult.Generates reply.results r.objects) ∧
      (∀ r, reply.generatedGroups collection = .ok r → r.Flat ∧
        List.Forall₂ (fun w g => g.name = w.name ∧
          List.Forall₂ SearchResult.Generates w.objects g.objects) reply.groupByResults r.groups) ∧
      ∀ r, reply.grouped collection = .ok r → r.Flat := by
  refine ⟨?_, groupsWith_map (Object.ofWire_eq_map collection) reply, ?_, ?_, ?_⟩
  · rw [objects, generated, funext (Object.ofWire_eq_map collection), mapM_map_result]
    cases reply.results.mapM (Generated.ofWire collection) <;> rfl
  · intro r read
    obtain ⟨found, each, done⟩ := bind_ok.mp read
    obtain rfl := pure_ok done
    exact (mapM_ok_iff.mp each).imp fun _ _ => SearchResult.generates_of_ofWire
  · intro r read
    obtain ⟨flat, each⟩ := groupsWith_ok read
    refine ⟨flat, each.imp fun w g single => ?_⟩
    obtain ⟨name, inside⟩ := Group.ofWire_ok single
    exact ⟨name, inside.imp fun _ _ => SearchResult.generates_of_ofWire⟩
  · intro r read
    exact (groupsWith_ok read).1

/-- Groups without a name and of one name keep their objects, and text that is not marked is none.
-/
theorem Wire.SearchReply.generated_overlays_repeated_names :
    let result (n : Nat) (marked : Bool) : SearchResult :=
      { metadata := some {
          idAsBytes := (Uuid.ofNat n).octets, generative := "draft", generativePresent := marked } }
    let reply : SearchReply := {
      results := [result 1 false, result 2 true]
      groupByResults := [
        { name := "nike", objects := [result 1 true, result 2 false] },
        { name := "", objects := [result 3 true] },
        { name := "nike", objects := [result 4 false] }] }
    (∃ r, reply.generated "Shoe" = .ok r ∧ r.objects.map (·.text) = [none, some "draft"] ∧
      List.Forall₂ SearchResult.Generates reply.results r.objects ∧
      reply.objects "Shoe" = .ok (r.objects.map (·.object))) ∧
    ∃ r, reply.generatedGroups "Shoe" = .ok r ∧ r.Flat ∧
      r.objects.map (fun (name, o) => (name, o.object.uuid, o.text)) =
        [("nike", .ofNat 1, some "draft"), ("nike", .ofNat 2, none), ("", .ofNat 3, some "draft"),
          ("nike", .ofNat 4, none)] ∧
      reply.grouped "Shoe" = .ok (r.map (·.object)) := by
  intro result reply
  obtain ⟨plain, grouped, texts, groups, _⟩ := reply.generated_overlays "Shoe"
  obtain ⟨r, read⟩ : ∃ r, reply.generated "Shoe" = .ok r := ⟨_, rfl⟩
  obtain ⟨g, readGroups⟩ : ∃ g, reply.generatedGroups "Shoe" = .ok g := ⟨_, rfl⟩
  refine ⟨⟨r, read, ?_, texts r read, ?_⟩, g, readGroups, (groups g readGroups).1, ?_, ?_⟩
  · obtain rfl := Except.ok.inj read
    rfl
  · rw [plain, read]
    rfl
  · obtain rfl := Except.ok.inj readGroups
    rfl
  · rw [grouped, readGroups]
    rfl

end VectorClient
