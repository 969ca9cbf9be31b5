import VectorClient.Property.Wire
import VectorClient.Reply.Basic
import VectorClient.Vector.Wire
import VectorClient.Wire.Reply

/-!
# Reading replies

A reply is read as a whole or not at all: an object without an id, or with an id, a vector, a time
or a property that is not well formed, fails the reply, at any depth of references. A value that
the reply does not mark as present has no influence.
-/

namespace VectorClient

open Number

namespace Wire.MetadataResult

/-- The id of the object. Its octets count before its text. -/
def uuid (m : MetadataResult) : Except Error Uuid :=
  if m.idAsBytes ≠ [] then
    match Uuid.ofOctets? m.idAsBytes with
    | some id => .ok id
    | none => .error (.wireDecode .uuidBytes)
  else if m.id = "" then .error .missingUuid
  else readUuid m.id

/-- The named vectors and the anonymous one. Servers that do not send bytes send numbers. -/
def vectorMap (m : MetadataResult) : Except Error (KeyMap VectorValue) := do
  let found ← Vector.decodeAll m.vectorBytes m.vectors
  if m.vectorBytes = [] ∧ m.vector ≠ [] ∧ !found.contains VectorValue.defaultName then
    return found.insert VectorValue.defaultName (.single m.vector)
  else
    return found

end Wire.MetadataResult

/-- A value that counts only if it is marked as present. -/
def whenPresent {α : Type} (present : Bool) (value : α) : Option α :=
  if present then some value else none

def readMillis (millis : Int64) : Except Error Date :=
  match Date.ofMillis? millis.toInt with
  | some d => .ok d
  | none => .error (.wireDecode (.timestamp millis))

def readMillisWhen (present : Bool) (millis : Int64) : Except Error (Option Date) :=
  if present then (readMillis millis).map some else .ok none

/-- Consistency has a mark and may also be absent; a marked value that is absent is false. -/
def readConsistency (present : Bool) (value : Option Bool) : Option Bool :=
  if present then some (value.getD false) else value

def Metadata.ofWire (m : Wire.MetadataResult) : Except Error Metadata := do
  let creationTime ← readMillisWhen m.creationTimeUnixPresent m.creationTimeUnix
  let lastUpdateTime ← readMillisWhen m.lastUpdateTimeUnixPresent m.lastUpdateTimeUnix
  return {
    creationTime
    lastUpdateTime
    distance := whenPresent m.distancePresent m.distance
    certainty := whenPresent m.certaintyPresent m.certainty
    score := whenPresent m.scorePresent m.score
    explainScore := whenPresent m.explainScorePresent m.explainScore
    isConsistent := readConsistency m.isConsistentPresent m.isConsistent
    rerankScore := whenPresent m.rerankScorePresent m.rerankScore }

/-- What the metadata message of an object holds. -/
structure Identity where
  uuid : Uuid
  vectors : List (String × VectorValue)
  metadata : Metadata

def Identity.ofWire : Option Wire.MetadataResult → Except Error Identity
  | none => .error .missingUuid
  | some m => do
    let uuid ← m.uuid
    let vectors ← m.vectorMap
    let metadata ← Metadata.ofWire m
    return ⟨uuid, vectors, metadata⟩

/-- The collection that a reply names, or the one that was searched. -/
def namedCollection (searched : Option String) (name : String) : Option String :=
  if name = "" then searched else some name

def readProperties : Option Wire.Properties → Except Error (List (String × Property))
  | none => .ok []
  | some p => propertiesOfWire p

/-- Appends objects under a reference, which may be listed several times. -/
def addReference (name : String) (objects : List Object) (found : KeyMap (List Object)) :
    KeyMap (List Object) :=
  found.insert name ((found.find? name).getD [] ++ objects)

/-- An empty list of references says only whether any were asked for. -/
def presentReferences (requested : Bool) (listed : List Wire.RefPropertiesResult)
    (found : KeyMap (List Object)) : Option (List (String × List Object)) :=
  if listed.isEmpty then whenPresent requested [] else some found

mutual

/-- An object from its message and the parts known from its metadata. -/
def objectOfWire (identity : Identity) (searched : Option String) :
    Wire.PropertiesResult → Except Error Object
  | ⟨refProps, targetCollection, _, nonRefProps, refPropsRequested⟩ => do
    let found ← referencesOfWire [] refProps
    let properties ← readProperties nonRefProps
    return {
      uuid := identity.uuid
      collection := namedCollection searched targetCollection
      properties
      references := presentReferences refPropsRequested refProps found
      metadata := identity.metadata
      vectors := identity.vectors }

/-- Adds listed references to those found before. -/
def referencesOfWire (found : List (String × List Object)) :
    List Wire.RefPropertiesResult → Except Error (List (String × List Object))
  | [] => .ok found
  | ⟨properties, name⟩ :: rest => do
    let objects ← referencedObjects properties
    referencesOfWire (addReference name objects found) rest

/-- Objects under a reference, which carry their own metadata. -/
def referencedObjects : List Wire.PropertiesResult → Except Error (List Object)
  | [] => .ok []
  | p :: rest => do
    let identity ← Identity.ofWire p.metadata
    let o ← objectOfWire identity none p
    let others ← referencedObjects rest
    return o :: others

end

def Object.ofWire (collection : String) (r : Wire.SearchResult) : Except Error Object := do
  let identity ← Identity.ofWire r.metadata
  objectOfWire identity (some collection) (r.properties.getD {})

def Wire.SearchResult.generatedText (r : Wire.SearchResult) : Option String :=
  r.metadata.bind fun m => whenPresent m.generativePresent m.generative

def Generated.ofWire (collection : String) (r : Wire.SearchResult) : Except Error Generated := do
  let object ← Object.ofWire collection r
  return ⟨object, r.generatedText⟩

def Group.ofWire {α : Type} (read : Wire.SearchResult → Except Error α) (g : Wire.GroupByResult) :
    Except Error (Group α) := do
  let objects ← g.objects.mapM read
  return {
    name := g.name
    minDistance := g.minDistance
    maxDistance := g.maxDistance
    numberOfObjects := g.numberOfObjects
    objects
    rerankScore := g.rerank
    text := g.generative }

/-- Reads a group of the reply and puts it behind those found before. -/
def GroupedResult.add {α : Type} (read : Wire.SearchResult → Except Error α)
    (found : GroupedResult α) (g : Wire.GroupByResult) : Except Error (GroupedResult α) := do
  let group ← Group.ofWire read g
  return found.push group

namespace Wire.SearchReply

variable (collection : String) (reply : SearchReply)

def objects : Except Error (List Object) := reply.results.mapM (Object.ofWire collection)

def generated : Except Error GenerativeResult := do
  let objects ← reply.results.mapM (Generated.ofWire collection)
  return ⟨objects, reply.generativeGroupedResult⟩

def groupsWith {α : Type} (read : SearchResult → Except Error α) :
    Except Error (GroupedResult α) := do
  let found ← reply.groupByResults.foldlM (GroupedResult.add read) {}
  return { found with text := reply.generativeGroupedResult }

def grouped : Except Error (GroupedResult Object) := reply.groupsWith (Object.ofWire collection)

def generatedGroups : Except Error (GroupedResult Generated) :=
  reply.groupsWith (Generated.ofWire collection)

end Wire.SearchReply

end VectorClient
