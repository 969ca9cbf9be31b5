import VectorClient.Search.Wire
import VectorClient.Text.Base64

/-!
# Search requests

A `RequestBuilder` turns searches into requests for one collection and one server version. The
same search always gives the same request, and every check is made before anything is sent.
-/

namespace VectorClient.Search

open Number

structure RequestBuilder where
  context : CollectionContext
  capabilities : Capabilities
deriving DecidableEq, Repr

/-- Target vectors in the form of the server: names alone for old ones, a message for others. -/
structure ResolvedTargets where
  names : List String := []
  targets : Option Wire.Targets := none
deriving DecidableEq, Repr

def invalid {α : Type} (fault : InputFault) : Except Error α := .error (.invalidInput fault)

def refuse (condition : Bool) (fault : InputFault) : Except Error Unit :=
  if condition then invalid fault else .ok ()

def checkThreshold (certainty distance : Option Double) : Except Error Unit :=
  refuse (certainty.isSome && distance.isSome) .twoThresholds

/-- At least one concept is not blank. -/
def checkConcepts (query : List String) : Except Error Unit :=
  refuse (query.all Text.isBlank) .noConcept

/-- A selection names exactly the targets that have vectors. -/
def checkTargetsMatch (vectors : KeyMap VectorValue) (target : TargetVectors) :
    Except Error Unit :=
  match vectors.keys.find? (· ∉ target.names) with
  | some name => invalid (.unselectedTarget name)
  | none =>
    match target.names.find? fun name => !vectors.contains name with
    | some name => invalid (.missingVector name)
    | none => .ok ()

namespace RequestBuilder

variable (b : RequestBuilder)

def supports (c : Capability) : Bool := b.capabilities.supports c

def require (c : Capability) : Except Error Unit := b.capabilities.require c

/-! ### Parts -/

/-- The part of a request that does not depend on the kind of search. -/
def shared (o : CommonOptions) (filters : Option Wire.Filters) : Wire.SearchRequest :=
  { collection := b.context.name
    tenant := b.context.tenant.getD ""
    consistencyLevel := b.context.consistencyLevel.map ConsistencyLevel.number
    properties := some (propertiesRequest o.properties o.references)
    metadata := some (o.metadata.toWire o.vectors)
    limit := o.limit.getD 0
    offset := o.offset.getD 0
    autocut := o.autocut.getD 0
    filters
    rerank := o.rerank.map fun r => ⟨r.property, r.query⟩
    uses123Api := true
    uses125Api := b.supports .typedListValues
    uses127Api := b.supports .multiVectorPerTarget }

def base (o : CommonOptions) : Except Error Wire.SearchRequest := do
  let filters ← Filter.serialize? o.filter
  return b.shared o filters

def searchOperator : Option KeywordOperator → Except Error (Option Wire.SearchOperatorOptions)
  | none => .ok none
  | some operator => do
    b.require .keywordOperator
    some <$> operator.toWire

/-- A single target has a form for every server, several need one that knows them. -/
def targets : Option TargetVectors → Except Error ResolvedTargets
  | none => .ok {}
  | some (.single name) => do
    refuse (Text.isBlank name) .blankTarget
    if b.supports .multiTargetSearch then return { targets := some { targetVectors := [name] } }
    else return { names := [name] }
  | some (.many names) => do
    b.require .multiTargetSearch
    refuse names.isEmpty .noTargets
    return { targets := some { targetVectors := names } }
  | some (.combined combination names weights) => do
    b.require .multiTargetSearch
    refuse names.isEmpty .noTargets
    refuse (combination.needsWeights && weights.isEmpty) (.missingWeights combination)
    if !weights.isEmpty then b.require .perTargetWeights
    match weights.find? (·.target ∉ names) with
    | some w => invalid (.unknownWeight w.target)
    | none =>
      return { targets := some {
        targetVectors := names
        combination := combination.number
        weightsForTargets := weights.map fun w => ⟨w.target, w.weight⟩ } }

/-- The vectors of each target as servers take them that know several vectors for one target. -/
def vectorForTargets : KeyMap VectorValue → Except Error (List Wire.VectorForTarget)
  | [] => .ok []
  | (name, v) :: rest => do
    let vectors ← v.toWire name
    let others ← vectorForTargets rest
    return { name, vectors := [vectors] } :: others

/-- The vectors of each target as older servers take them, one for each. -/
def vectorPerTarget : KeyMap VectorValue → Except Error (KeyMap Wire.Bytes)
  | [] => .ok []
  | (name, .single v) :: rest => do
    let others ← vectorPerTarget rest
    return (name, Vector.encode v) :: others
  | (_, .multi _) :: _ => .error (b.capabilities.unsupported .multiVectorPerTarget)

/-- The message of a search near vectors. A map of vectors names its own targets unless they are
selected. -/
def nearVectorMessage (input : VectorInput) (certainty distance : Option Double)
    (target : Option TargetVectors) : Except Error Wire.NearVector := do
  checkThreshold certainty distance
  match input with
  | .single v =>
    refuse v.isEmpty .emptyNearVector
    let t ← b.targets target
    return {
      certainty, distance, vectorBytes := Vector.encode v
      targetVectors := t.names, targets := t.targets }
  | .multi rows =>
    b.require .multiVectorPerTarget
    refuse (rows.isEmpty || rows.any List.isEmpty) .emptyMultiVector
    refuse (target.any (1 < ·.names.length)) .severalTargets
    let vectors ← (VectorValue.multi rows).toWire ""
    let t ← b.targets target
    return {
      certainty, distance, vectors := [vectors], targetVectors := t.names, targets := t.targets }
  | .perTarget map =>
    b.require .multiTargetSearch
    refuse map.isEmpty .noVectors
    match List.find? (fun entry => entry.2.isEmpty) map with
    | some entry => invalid (.emptyTargetVector entry.1)
    | none =>
      let selected ← match target with
        | some selected => do
          checkTargetsMatch map selected
          pure selected
        | none => pure (.many map.keys)
      let t ← b.targets (some selected)
      if b.supports .multiVectorPerTarget then
        let vectors ← vectorForTargets map
        return {
          certainty, distance, vectorForTargets := vectors
          targetVectors := t.names, targets := t.targets }
      else
        let vectors ← b.vectorPerTarget map
        return {
          certainty, distance, vectorPerTarget := vectors
          targetVectors := t.names, targets := t.targets }

/-! ### Kinds of search -/

/-- A cursor goes through all objects in the order of ids and takes no restriction. -/
def fetch (o : FetchOptions) : Except Error Wire.SearchRequest := do
  refuse (o.after.isSome && (!o.sort.isEmpty || o.common.filter.isSome || o.common.offset.isSome))
    .restrictedCursor
  let request ← b.base o.common
  return { request with
    after := (o.after.map Uuid.text).getD ""
    sortBy := o.sort.map fun s => ⟨s.ascending, [s.property]⟩ }

/-- The id is the only filter. -/
def fetchById (id : Uuid) (o : CommonOptions) : Except Error Wire.SearchRequest := do
  refuse o.filter.isSome .filteredId
  let request ← b.base { o with
    filter := some (.compare .equal Filter.Target.id (.uuid id)), limit := some 1 }
  return { request with offset := 0 }

def keywords (query : String) (o : KeywordOptions) : Except Error Wire.SearchRequest := do
  refuse (Text.isBlank query) .blankKeywords
  let request ← b.base o.common
  let operator ← b.searchOperator o.operator
  return { request with bm25Search := some ⟨query, o.queryProperties, operator⟩ }

/-- Puts the vector half into the message of a hybrid search. -/
def withHybridVector (message : Wire.Hybrid) :
    Option HybridVector → Except Error Wire.Hybrid
  | none => .ok message
  | some (.vector (.single v)) => do
    refuse v.isEmpty .emptyHybridVector
    return { message with vectorBytes := Vector.encode v }
  | some (.vector input) => do
    let near ← b.nearVectorMessage input none none none
    return { message with nearVector := some near }
  | some (.nearVector input certainty distance) => do
    let near ← b.nearVectorMessage input certainty distance none
    return { message with nearVector := some near }
  | some (.nearText query certainty distance moveTo moveAway) => do
    checkConcepts query
    checkThreshold certainty distance
    let moveTo ← Move.toWire? moveTo
    let moveAway ← Move.toWire? moveAway
    return { message with nearText := some { query, certainty, distance, moveTo, moveAway } }

/-- The selection of target vectors stands in the message itself; its vector half is made without
one. -/
def hybrid (query : Option String) (o : HybridOptions) : Except Error Wire.SearchRequest := do
  refuse (query.all Text.isBlank && o.vector.isNone) .emptyHybrid
  refuse (!o.alpha.inUnitInterval) (.alpha o.alpha)
  let t ← b.targets o.target
  let operator ← b.searchOperator o.operator
  let message ← b.withHybridVector {
    query := query.getD ""
    properties := o.queryProperties
    alpha := o.alpha
    fusionType := (o.fusion.map Fusion.number).getD 0
    targetVectors := t.names
    targets := t.targets
    bm25SearchOperator := operator
    vectorDistance := o.maxVectorDistance } o.vector
  let request ← b.base o.common
  return { request with hybridSearch := some message }

def nearObject (id : Uuid) (o : NearOptions) : Except Error Wire.SearchRequest := do
  checkThreshold o.certainty o.distance
  let t ← b.targets o.target
  let request ← b.base o.common
  return { request with nearObject := some ⟨id.text, o.certainty, o.distance, t.names, t.targets⟩ }

def nearVector (input : VectorInput) (o : NearOptions) : Except Error Wire.SearchRequest := do
  let message ← b.nearVectorMessage input o.certainty o.distance o.target
  let request ← b.base o.common
  return { request with nearVector := some message }

def nearText (query : List String) (o : NearTextOptions) : Except Error Wire.SearchRequest := do
  checkConcepts query
  checkThreshold o.near.certainty o.near.distance
  let t ← b.targets o.near.target
  let request ← b.base o.near.common
  let moveTo ← Move.toWire? o.moveTo
  let moveAway ← Move.toWire? o.moveAway
  return { request with nearText := some {
    query, certainty := o.near.certainty, distance := o.near.distance, moveTo, moveAway
    targetVectors := t.names, targets := t.targets } }

def withMedia (request : Wire.SearchRequest) (message : Wire.NearMedia) :
    Media → Wire.SearchRequest
  | .image => { request with nearImage := some message }
  | .audio => { request with nearAudio := some message }
  | .video => { request with nearVideo := some message }
  | .depth => { request with nearDepth := some message }
  | .thermal => { request with nearThermal := some message }
  | .imu => { request with nearImu := some message }

/-- The content is in base 64. -/
def nearMedia (media : Media) (content : String) (o : NearOptions) :
    Except Error Wire.SearchRequest := do
  refuse (Text.isBlank content) (.blankMedia media)
  checkThreshold o.certainty o.distance
  let t ← b.targets o.target
  let request ← b.base o.common
  return withMedia request ⟨content, o.certainty, o.distance, t.names, t.targets⟩ media

end RequestBuilder

/-! ### All kinds -/

/-- The content of a medium in base 64, with the files that can be read. -/
def MediaSource.load (files : String → Option (List UInt8)) : MediaSource → Except Error String
  | .base64 content => .ok content
  | .bytes content => .ok (Text.base64 content)
  | .file path =>
    match files path with
    | some content => .ok (Text.base64 content)
    | none => .error (.mediaFile path)

/-- The request for a search of any kind. -/
def RequestBuilder.request (b : RequestBuilder) (files : String → Option (List UInt8)) :
    Search → Except Error Wire.SearchRequest
  | .fetch options => b.fetch options
  | .keywords query options => b.keywords query options
  | .hybrid query options => b.hybrid query options
  | .nearObject id options => b.nearObject id options
  | .nearVector input options => b.nearVector input options
  | .nearText query options => b.nearText query options
  | .nearMedia media source options => do
    let content ← source.load files
    b.nearMedia media content options

end VectorClient.Search
