import VectorClient.Proofs.Steps
import VectorClient.Reply.Wire

/-!
# What of a reply counts

The visible part of a reply is without the values that it does not mark as present, and without
those that another form of the same value replaces. Replies with one visible part have the same
outcome, whichever way they are read.
-/

namespace VectorClient

open Wire Number

/-! ### Visible parts -/

namespace Wire

/-- Unmarked values are those of an empty message, and so are the text of an id and the numbers of a
vector beside their bytes. -/
def MetadataResult.visible (m : MetadataResult) : MetadataResult :=
  { m with
    id := if m.idAsBytes = [] then m.id else ""
    vector := if m.vectorBytes = [] then m.vector else []
    creationTimeUnix := if m.creationTimeUnixPresent then m.creationTimeUnix else 0
    lastUpdateTimeUnix := if m.lastUpdateTimeUnixPresent then m.lastUpdateTimeUnix else 0
    distance := if m.distancePresent then m.distance else .zero
    certainty := if m.certaintyPresent then m.certainty else .zero
    score := if m.scorePresent then m.score else .zero
    explainScore := if m.explainScorePresent then m.explainScore else ""
    generative := if m.generativePresent then m.generative else ""
    rerankScore := if m.rerankScorePresent then m.rerankScore else .zero }

mutual

def PropertiesResult.visible : PropertiesResult → PropertiesResult
  | ⟨refProps, targetCollection, metadata, nonRefProps, refPropsRequested⟩ =>
    ⟨visibleLinks refProps, targetCollection, metadata.map MetadataResult.visible, nonRefProps,
      refPropsRequested⟩

def visibleLinks : List RefPropertiesResult → List RefPropertiesResult
  | [] => []
  | ⟨properties, name⟩ :: rest => ⟨visibleObjects properties, name⟩ :: visibleLinks rest

def visibleObjects : List PropertiesResult → List PropertiesResult
  | [] => []
  | p :: rest => p.visible :: visibleObjects rest

end

/-- The metadata of a result stands beside its properties, so that none inside of them counts. -/
def SearchResult.visible (r : SearchResult) : SearchResult :=
  { properties := r.properties.map fun p => { p.visible with metadata := none }
    metadata := r.metadata.map MetadataResult.visible }

def GroupByResult.visible (g : GroupByResult) : GroupByResult :=
  { g with objects := g.objects.map SearchResult.visible }

def SearchReply.visible (reply : SearchReply) : SearchReply :=
  { reply with
    results := reply.results.map SearchResult.visible
    groupByResults := reply.groupByResults.map GroupByResult.visible }

end Wire

/-! ### Metadata -/

section Marks

variable {α : Type}

theorem whenPresent_visible (present : Bool) (value instead : α) :
    whenPresent present (if present then value else instead) = whenPresent present value := by
  cases present <;> rfl

theorem readMillisWhen_visible (present : Bool) (millis instead : Int64) :
    readMillisWhen present (if present then millis else instead) =
      readMillisWhen present millis := by
  cases present <;> rfl

end Marks

namespace Wire.MetadataResult

variable (m : MetadataResult)

theorem uuid_visible : m.visible.uuid = m.uuid := by
  unfold uuid
  by_cases octets : m.idAsBytes = [] <;> simp [visible, octets]

theorem vectorMap_visible : m.visible.vectorMap = m.vectorMap := by
  unfold vectorMap
  by_cases bytes : m.vectorBytes = [] <;> simp [visible, bytes]

end Wire.MetadataResult

theorem Metadata.ofWire_visible (m : MetadataResult) :
    Metadata.ofWire m.visible = Metadata.ofWire m := by
  simp only [Metadata.ofWire, MetadataResult.visible, readMillisWhen_visible, whenPresent_visible]

theorem Identity.ofWire_visible (metadata : Option MetadataResult) :
    Identity.ofWire (metadata.map MetadataResult.visible) = Identity.ofWire metadata := by
  cases metadata with
  | none => rfl
  | some m =>
    simp only [Option.map_some, Identity.ofWire, m.uuid_visible, m.vectorMap_visible,
      Metadata.ofWire_visible]

/-! ### Objects -/

/-- The metadata inside of properties is left to whoever reads the object around them. -/
theorem objectOfWire_metadata (identity : Identity) (searched : Option String)
    (p : PropertiesResult) (metadata : Option MetadataResult) :
    objectOfWire identity searched { p with metadata } = objectOfWire identity searched p := by
  cases p
  simp only [objectOfWire]

theorem presentReferences_visible (requested : Bool) (links : List RefPropertiesResult)
    (found : KeyMap (List Object)) :
    presentReferences requested (visibleLinks links) found =
      presentReferences requested links found := by
  cases links with
  | nil => rfl
  | cons link rest =>
    cases link
    rfl

mutual

theorem objectOfWire_visible (identity : Identity) (searched : Option String) :
    (p : PropertiesResult) →
      objectOfWire identity searched p.visible = objectOfWire identity searched p
  | ⟨refProps, _, _, _, _⟩ => by
    simp only [PropertiesResult.visible, objectOfWire, referencesOfWire_visible [] refProps,
      presentReferences_visible]

theorem referencesOfWire_visible (found : List (String × List Object)) :
    (links : List RefPropertiesResult) →
      referencesOfWire found (visibleLinks links) = referencesOfWire found links
  | [] => rfl
  | ⟨properties, _⟩ :: rest => by
    simp only [visibleLinks, referencesOfWire, referencedObjects_visible properties,
      referencesOfWire_visible _ rest]

theorem referencedObjects_visible : (ps : List PropertiesResult) →
    referencedObjects (visibleObjects ps) = referencedObjects ps
  | [] => rfl
  | p :: rest => by
    have own : p.visible.metadata = p.metadata.map MetadataResult.visible := by
      cases p
      rfl
    simp only [visibleObjects, referencedObjects, own, Identity.ofWire_visible,
      objectOfWire_visible _ none p, referencedObjects_visible rest]

end

theorem Object.ofWire_visible (collection : String) (r : SearchResult) :
    Object.ofWire collection r.visible = Object.ofWire collection r := by
  obtain ⟨properties, metadata⟩ := r
  cases properties with
  | none =>
    simp only [Object.ofWire, SearchResult.visible, Identity.ofWire_visible, Option.map_none]
  | some p =>
    simp only [Object.ofWire, SearchResult.visible, Identity.ofWire_visible, Option.map_some,
      Option.getD_some, objectOfWire_metadata, objectOfWire_visible]

theorem Wire.SearchResult.generatedText_visible (r : SearchResult) :
    r.visible.generatedText = r.generatedText := by
  obtain ⟨properties, metadata⟩ := r
  cases metadata with
  | none => rfl
  | some m => exact whenPresent_visible m.generativePresent m.generative ""

theorem Generated.ofWire_visible (collection : String) (r : SearchResult) :
    Generated.ofWire collection r.visible = Generated.ofWire collection r := by
  rw [Generated.ofWire, Object.ofWire_visible, r.generatedText_visible]
  rfl

/-! ### Replies -/

namespace Wire.SearchReply

section Readers

variable {α : Type} {read : SearchResult → Except Error α}

theorem mapM_visible (same : ∀ r, read r.visible = read r) (results : List SearchResult) :
    (results.map SearchResult.visible).mapM read = results.mapM read := by
  rw [List.mapM_map]
  exact congrArg results.mapM (funext same)

theorem groupsWith_visible (same : ∀ r, read r.visible = read r) (reply : SearchReply) :
    reply.visible.groupsWith read = reply.groupsWith read := by
  have group (found : GroupedResult α) (g : GroupByResult) :
      found.add read g.visible = found.add read g := by
    simp only [GroupedResult.add, Group.ofWire, GroupByResult.visible, mapM_visible same]
  simp only [groupsWith, visible, List.foldlM_map, group]

end Readers

variable (collection : String) (reply : SearchReply)

theorem objects_visible : reply.visible.objects collection = reply.objects collection :=
  mapM_visible (Object.ofWire_visible collection) reply.results

theorem generated_visible : reply.visible.generated collection = reply.generated collection := by
  simp only [generated, visible, mapM_visible (Generated.ofWire_visible collection)]

/-- Values that are not marked as present, and those that another form of the same value replaces,
have no influence on any outcome. -/
theorem unmarked_ignored {a b : SearchReply} (same : a.visible = b.visible) :
    a.objects collection = b.objects collection ∧
      a.grouped collection = b.grouped collection ∧
      a.generated collection = b.generated collection ∧
      a.generatedGroups collection = b.generatedGroups collection := by
  have groups {α : Type} {read : SearchResult → Except Error α}
      (each : ∀ r, read r.visible = read r) : a.groupsWith read = b.groupsWith read := by
    rw [← groupsWith_visible each a, same, groupsWith_visible each b]
  refine ⟨?_, groups (Object.ofWire_visible collection), ?_,
    groups (Generated.ofWire_visible collection)⟩
  · rw [← a.objects_visible, same, b.objects_visible]
  · rw [← a.generated_visible, same, b.generated_visible]

/-- An id that is none, a time out of range and text that was never generated stay without effect in
a result, in an object that it refers to, and in a group. -/
theorem unmarked_ignored_nested :
    let one : Single := ⟨0x3f800000⟩
    let plain (n : Nat) : MetadataResult :=
      { idAsBytes := (Uuid.ofNat n).octets, vectorBytes := [0, 0, 128, 63] }
    let noisy (n : Nat) : MetadataResult :=
      { plain n with
        id := "none"
        vector := [one, one]
        creationTimeUnix := 9223372036854775807
        lastUpdateTimeUnix := -9223372036854775808
        distance := one
        certainty := one
        score := one
        explainScore := "draft"
        generative := "draft"
        rerankScore := one.toDouble }
    let result (metadata : Nat → MetadataResult) (inside : Option MetadataResult) : SearchResult :=
      { metadata := some (metadata 1)
        properties := some {
          metadata := inside
          refProps := [⟨[{ metadata := some (metadata 2) }], "cites"⟩] } }
    let reply (result : SearchResult) : SearchReply :=
      { results := [result], groupByResults := [{ name := "nike", objects := [result] }] }
    let a := reply (result noisy (some {}))
    let b := reply (result plain none)
    a.visible = b.visible ∧ (∃ objects, b.objects "Article" = .ok objects) ∧
      a.objects "Article" = b.objects "Article" ∧
      a.generatedGroups "Article" = b.generatedGroups "Article" := by
  intro one plain noisy result reply a b
  have same : a.visible = b.visible := rfl
  have read : fault? (b.objects "Article") = none := by decide +kernel
  obtain ⟨objects, _, _, groups⟩ := unmarked_ignored "Article" same
  exact ⟨same, fault?_eq_none.mp read, objects, groups⟩

end Wire.SearchReply

end VectorClient
