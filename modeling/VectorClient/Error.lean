import VectorClient.Search.Options

/-!
# Errors

An error is its cause; `message` is the text shown to the caller. `isLocalValidation` marks the
errors that are found before anything is sent.
-/

namespace VectorClient

open Number

inductive InputFault
  /-- A value without a JSON form, or JSON of another shape than asked for. -/
  | json
  | raggedRows
  | dimensionTooLarge (dimension : Nat)
  | notAnObject (found : String)
  | mixedElements (name : String)
  | nestedElements (name : String)
  | emptyCombination (connective : Filter.Connective)
  | rejectedLiteral (operator : Filter.Operator) (value : Filter.Literal)
  | matchTooLarge (minimum : UInt32)
  | moveForce (force : Single)
  | emptyMove
  | restrictedCursor
  | filteredId
  | blankKeywords
  | emptyHybrid
  | alpha (x : Single)
  | emptyHybridVector
  | blankMedia (media : Search.Media)
  | groupedFetch
  | alreadyGrouped
  | blankGroupProperty
  | emptyGroups
  | countTooLarge (count : String)
  | limitBelowGroups (limit groups : UInt32)
  | noPrompt
  | noGroupedTask
  | blankTarget
  | noTargets
  | missingWeights (combination : Search.Combination)
  | unknownWeight (target : String)
  | emptyNearVector
  | emptyMultiVector
  | severalTargets
  | noVectors
  | emptyTargetVector (target : String)
  | unselectedTarget (target : String)
  | missingVector (target : String)
  | twoThresholds
  | noConcept
  | noCollection
  | unnamedVectors (collection : String)
  | sizeMismatch (objects sent : Nat)
  | described (text : String)
deriving DecidableEq, Repr

def Filter.Connective.wireName : Filter.Connective → String
  | .and => "OPERATOR_AND"
  | .or => "OPERATOR_OR"

def InputFault.message : InputFault → String
  | .json => "JSON error:"
  | .raggedRows => "multi-vector rows must all have the same dimension"
  | .dimensionTooLarge dimension =>
    "multi-vector dimension " ++ toString dimension ++ " exceeds u16"
  | .notAnObject found => "properties must serialize to a JSON object, got " ++ found
  | .mixedElements name => "'" ++ name ++ "' mixes element types"
  | .nestedElements name => "'" ++ name ++ "' contains unsupported nested values"
  | .emptyCombination connective => connective.wireName ++ " filter needs at least one operand"
  | .rejectedLiteral operator value =>
    "operator " ++ operator.name ++ " does not accept " ++ value.quoted
  | .matchTooLarge minimum =>
    "minimum match " ++ toString minimum.toNat ++ " exceeds the supported maximum of 2147483647"
  | .moveForce force => "move force must be within 0..=1, got " ++ force.text .message
  | .emptyMove => "move needs at least one concept or object"
  | .restrictedCursor => "cursor 'after' cannot be combined with sort, filters or offset"
  | .filteredId => "fetch by id cannot carry additional filters"
  | .blankKeywords => "bm25 query must not be empty"
  | .emptyHybrid => "hybrid search needs a query, a vector, or both"
  | .alpha x => "hybrid alpha must be within 0..=1, got " ++ x.text .message
  | .emptyHybridVector => "hybrid vector must not be empty"
  | .blankMedia media => "near " ++ media.name ++ " content must not be empty"
  | .groupedFetch => "group by needs a search; plain fetches cannot be grouped"
  | .alreadyGrouped => "request is already grouped"
  | .blankGroupProperty => "group by property must not be empty"
  | .emptyGroups => "group by needs at least one group and one object per group"
  | .countTooLarge count => count ++ " is too large"
  | .limitBelowGroups limit groups =>
    "limit " ++ toString limit.toNat ++ " cannot fill " ++ toString groups.toNat ++ " groups"
  | .noPrompt => "generative search needs a single prompt, a grouped task, or both"
  | .noGroupedTask => "grouped properties require a grouped task"
  | .blankTarget => "target vector name must not be empty"
  | .noTargets => "target vector list must not be empty"
  | .missingWeights combination => combination.name ++ " combination needs per-target weights"
  | .unknownWeight target => "weight given for unknown target vector '" ++ target ++ "'"
  | .emptyNearVector => "near vector must not be empty"
  | .emptyMultiVector => "near multi-vector must not be empty"
  | .severalTargets => "a single multi-vector can only be searched against one target vector"
  | .noVectors => "near vector map must not be empty"
  | .emptyTargetVector target => "vector for target '" ++ target ++ "' must not be empty"
  | .unselectedTarget target =>
    "vector given for '" ++ target ++ "' which is not a selected target vector"
  | .missingVector target => "no vector given for selected target vector '" ++ target ++ "'"
  | .twoThresholds => "certainty and distance cannot both be set"
  | .noConcept => "near text needs at least one concept"
  | .noCollection => "batch object has no collection"
  | .unnamedVectors collection => "collection " ++ collection ++ " does not use named vectors"
  | .sizeMismatch objects sent =>
    toString objects ++ " objects were mapped to " ++ toString sent ++ " wire objects"
  | .described text => text

inductive TargetFault
  | terminal (chain leaf : Filter.Target)
  | dangling (link : String)
  | blankProperty
  | blankReference
  | blankCollection
  | described (text : String)
deriving DecidableEq, Repr

def TargetFault.message : TargetFault → String
  | .terminal chain leaf =>
    "cannot extend terminal target '" ++ chain.path ++ "' with '" ++ leaf.path ++ "'"
  | .dangling link => "reference '" ++ link ++ "' does not lead to a property or count"
  | .blankProperty => "property name must not be empty"
  | .blankReference => "reference name must not be empty"
  | .blankCollection => "target collection name must not be empty"
  | .described text => text

/-- How a reply breaks the wire contract. -/
inductive DecodeFault
  | intLane (lane : Double)
  | dimensionZero
  | vectorType (type : Int32) (name : String)
  | noKind
  | date (raw : String)
  | uuid (raw : String)
  | uuidBytes
  | batchUuid (raw : String)
  | nullElement (index : Nat)
  | mixedElements (first other : String)
  | unsupportedElement (type : String)
  | timestamp (millis : Int64)
  | batchIndex (index : Int32) (size : Nat)
  | described (text : String)
deriving DecidableEq, Repr

def DecodeFault.message : DecodeFault → String
  | .intLane lane => "int lane " ++ lane.text .message ++ " is outside the i64 range"
  | .dimensionZero => "multi-vector declares dimension 0 but carries data"
  | .vectorType type name =>
    "unknown vector type " ++ toString type.toInt ++ " for '" ++ name ++ "'"
  | .noKind => "property value carries no known kind"
  | .date raw => "invalid date '" ++ raw ++ "':"
  | .uuid raw => "invalid uuid '" ++ raw ++ "':"
  | .uuidBytes => "invalid uuid bytes:"
  | .batchUuid raw => "invalid batch uuid '" ++ raw ++ "':"
  | .nullElement index => "list element " ++ toString index ++ " is null"
  | .mixedElements first other => "list mixes element kinds: " ++ first ++ " and " ++ other
  | .unsupportedElement type => "unsupported element in list value: " ++ type
  | .timestamp millis => "timestamp " ++ toString millis.toInt ++ " is out of range"
  | .batchIndex index size =>
    "batch error index " ++ toString index.toInt ++ " is outside a batch of " ++ toString size
  | .described text => text

inductive ConfigFault
  | missingVariable (key : String)
  | badVariable (key details : String)
  | badVersionPart (part raw : String)
  | missingVersionPart (raw part : String)
  | url (raw : String)
  | described (text : String)
deriving DecidableEq, Repr

def ConfigFault.message : ConfigFault → String
  | .missingVariable key => "Environment variable '" ++ key ++ "' is required but not set"
  | .badVariable key details =>
    "Failed to parse environment variable '" ++ key ++ "': " ++ details
  | .badVersionPart part raw => "Invalid " ++ part ++ " in server version '" ++ raw ++ "'"
  | .missingVersionPart raw part =>
    "Server version '" ++ raw ++ "' is missing its " ++ part
  | .url raw => "Invalid gRPC url '" ++ raw ++ "':"
  | .described text => text

inductive Error
  | invalidInput (fault : InputFault)
  | unsupportedFeature (capability version : String)
  | invalidFilterTarget (fault : TargetFault)
  | wireDecode (fault : DecodeFault)
  | malformedVector (length lane : Nat)
  | missingUuid
  | unsupportedStatus (status : String)
  | query (protocol detail : String)
  | batch (protocol detail : String)
  | mediaFile (path : String)
  | config (fault : ConfigFault)
deriving DecidableEq, Repr

namespace Error

def message : Error → String
  | .invalidInput fault => "Invalid input: " ++ fault.message
  | .unsupportedFeature capability version =>
    capability ++ " is not supported by Weaviate " ++ version
  | .invalidFilterTarget fault => "Invalid filter target: " ++ fault.message
  | .wireDecode fault => "Wire decode error: " ++ fault.message
  | .malformedVector length lane =>
    "Malformed vector: " ++ toString length ++ " bytes is not a multiple of the " ++
      toString lane ++ "-byte lane width"
  | .missingUuid => "Search result is missing its object uuid"
  | .unsupportedStatus status => "Unsupported tenant activity status: " ++ status
  | .query protocol detail =>
    "Query call with protocol " ++ protocol ++ " failed with message: " ++ detail
  | .batch protocol detail =>
    "Batch objects call with protocol " ++ protocol ++ " failed with message: " ++ detail
  | .mediaFile path => "Failed to read media file " ++ path ++ ":"
  | .config fault => "Configuration error: " ++ fault.message

def kind : Error → String
  | .invalidInput _ => "InvalidInput"
  | .unsupportedFeature _ _ => "UnsupportedFeature"
  | .invalidFilterTarget _ => "InvalidFilterTarget"
  | .wireDecode _ => "WireDecode"
  | .malformedVector _ _ => "MalformedVector"
  | .missingUuid => "MissingUuid"
  | .unsupportedStatus _ => "UnsupportedStatus"
  | .query _ _ => "Query"
  | .batch _ _ => "Batch"
  | .mediaFile _ => "MediaFile"
  | .config _ => "Config"

/-- Whether the error is found before anything is sent. -/
def isLocalValidation : Error → Bool
  | .invalidInput _ | .unsupportedFeature _ _ | .invalidFilterTarget _ => true
  | _ => false

end Error

end VectorClient
