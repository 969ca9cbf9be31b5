/-!
# Message declarations

The wire contract: which fields each message has, in ascending order of their tags, and how each
field is kept. Encoding, decoding and the named form of messages all read this one table.
-/

namespace VectorClient.Wire

inductive MessageType
  | textArray
  | intArray
  | numberArray
  | booleanArray
  | filters
  | filterReferenceSingleTarget
  | filterReferenceMultiTarget
  | filterReferenceCount
  | filterTarget
  | geoCoordinatesFilter
  | vectors
  | properties
  | value
  | listValue
  | numberValues
  | intValues
  | textValues
  | boolValues
  | objectValues
  | dateValues
  | uuidValues
  | geoCoordinate
  | phoneNumber
  | searchRequest
  | groupBy
  | sortBy
  | generativeSearch
  | rerank
  | metadataRequest
  | propertiesRequest
  | objectPropertiesRequest
  | refPropertiesRequest
  | searchOperatorOptions
  | hybrid
  | bm25
  | weightsForTarget
  | targets
  | vectorForTarget
  | nearVector
  | nearObject
  | nearTextSearch
  | move
  | nearImageSearch
  | nearAudioSearch
  | nearVideoSearch
  | nearDepthSearch
  | nearThermalSearch
  | nearImuSearch
  | searchReply
  | rerankReply
  | generativeReply
  | groupByResult
  | searchResult
  | metadataResult
  | propertiesResult
  | refPropertiesResult
  | batchObjectsRequest
  | batchObject
  | batchProperties
  | singleTargetReferences
  | multiTargetReferences
  | batchObjectsReply
  | batchError
  | tenantsGetRequest
  | tenantNames
  | tenantsGetReply
  | tenant
deriving DecidableEq, Repr

/-- What a single value of a field is. Enumerations are numbers, so that unknown ones survive. -/
inductive Kind
  | double
  | float
  | int32
  | int64
  | uint32
  | uint64
  | bool
  | string
  | bytes
  | message (type : MessageType)
deriving DecidableEq, Repr

/-- How often a field may occur and when it counts as present. -/
inductive Rule
  /-- At most once; a default value is the same as absence. -/
  | plain
  /-- At most once; a default value differs from absence. -/
  | optional
  | repeated
  /-- Any number of entries with text keys. -/
  | map
  /-- At most one field of the group is present. -/
  | member (group : String)
deriving DecidableEq, Repr

structure Field where
  tag : Nat
  name : String
  rule : Rule
  kind : Kind
deriving DecidableEq, Repr

namespace Field

def plain (tag : Nat) (name : String) (kind : Kind) : Field := ⟨tag, name, .plain, kind⟩

def optional (tag : Nat) (name : String) (kind : Kind) : Field := ⟨tag, name, .optional, kind⟩

def repeated (tag : Nat) (name : String) (kind : Kind) : Field := ⟨tag, name, .repeated, kind⟩

def map (tag : Nat) (name : String) (kind : Kind) : Field := ⟨tag, name, .map, kind⟩

def member (group : String) (tag : Nat) (name : String) (kind : Kind) : Field :=
  ⟨tag, name, .member group, kind⟩

end Field

namespace MessageType

/-- The declared name; messages declared inside another one are qualified by it. -/
def name : MessageType → String
  | .textArray => "TextArray"
  | .intArray => "IntArray"
  | .numberArray => "NumberArray"
  | .booleanArray => "BooleanArray"
  | .filters => "Filters"
  | .filterReferenceSingleTarget => "FilterReferenceSingleTarget"
  | .filterReferenceMultiTarget => "FilterReferenceMultiTarget"
  | .filterReferenceCount => "FilterReferenceCount"
  | .filterTarget => "FilterTarget"
  | .geoCoordinatesFilter => "GeoCoordinatesFilter"
  | .vectors => "Vectors"
  | .properties => "Properties"
  | .value => "Value"
  | .listValue => "ListValue"
  | .numberValues => "NumberValues"
  | .intValues => "IntValues"
  | .textValues => "TextValues"
  | .boolValues => "BoolValues"
  | .objectValues => "ObjectValues"
  | .dateValues => "DateValues"
  | .uuidValues => "UuidValues"
  | .geoCoordinate => "GeoCoordinate"
  | .phoneNumber => "PhoneNumber"
  | .searchRequest => "SearchRequest"
  | .groupBy => "GroupBy"
  | .sortBy => "SortBy"
  | .generativeSearch => "GenerativeSearch"
  | .rerank => "Rerank"
  | .metadataRequest => "MetadataRequest"
  | .propertiesRequest => "PropertiesRequest"
  | .objectPropertiesRequest => "ObjectPropertiesRequest"
  | .refPropertiesRequest => "RefPropertiesRequest"
  | .searchOperatorOptions => "SearchOperatorOptions"
  | .hybrid => "Hybrid"
  | .bm25 => "Bm25"
  | .weightsForTarget => "WeightsForTarget"
  | .targets => "Targets"
  | .vectorForTarget => "VectorForTarget"
  | .nearVector => "NearVector"
  | .nearObject => "NearObject"
  | .nearTextSearch => "NearTextSearch"
  | .move => "near_text_search.Move"
  | .nearImageSearch => "NearImageSearch"
  | .nearAudioSearch => "NearAudioSearch"
  | .nearVideoSearch => "NearVideoSearch"
  | .nearDepthSearch => "NearDepthSearch"
  | .nearThermalSearch => "NearThermalSearch"
  | .nearImuSearch => "NearImuSearch"
  | .searchReply => "SearchReply"
  | .rerankReply => "RerankReply"
  | .generativeReply => "GenerativeReply"
  | .groupByResult => "GroupByResult"
  | .searchResult => "SearchResult"
  | .metadataResult => "MetadataResult"
  | .propertiesResult => "PropertiesResult"
  | .refPropertiesResult => "RefPropertiesResult"
  | .batchObjectsRequest => "BatchObjectsRequest"
  | .batchObject => "BatchObject"
  | .batchProperties => "batch_object.Properties"
  | .singleTargetReferences => "batch_object.SingleTargetRefProps"
  | .multiTargetReferences => "batch_object.MultiTargetRefProps"
  | .batchObjectsReply => "BatchObjectsReply"
  | .batchError => "batch_objects_reply.BatchError"
  | .tenantsGetRequest => "TenantsGetRequest"
  | .tenantNames => "TenantNames"
  | .tenantsGetReply => "TenantsGetReply"
  | .tenant => "Tenant"

def all : List MessageType :=
  [
    .textArray, .intArray, .numberArray, .booleanArray, .filters, .filterReferenceSingleTarget,
    .filterReferenceMultiTarget, .filterReferenceCount, .filterTarget, .geoCoordinatesFilter,
    .vectors, .properties, .value, .listValue, .numberValues, .intValues, .textValues,
    .boolValues, .objectValues, .dateValues, .uuidValues, .geoCoordinate, .phoneNumber,
    .searchRequest, .groupBy, .sortBy, .generativeSearch, .rerank, .metadataRequest,
    .propertiesRequest, .objectPropertiesRequest, .refPropertiesRequest, .searchOperatorOptions,
    .hybrid, .bm25, .weightsForTarget, .targets, .vectorForTarget, .nearVector, .nearObject,
    .nearTextSearch, .move, .nearImageSearch, .nearAudioSearch, .nearVideoSearch,
    .nearDepthSearch, .nearThermalSearch, .nearImuSearch, .searchReply, .rerankReply,
    .generativeReply, .groupByResult, .searchResult, .metadataResult, .propertiesResult,
    .refPropertiesResult, .batchObjectsRequest, .batchObject, .batchProperties,
    .singleTargetReferences, .multiTargetReferences, .batchObjectsReply, .batchError,
    .tenantsGetRequest, .tenantNames, .tenantsGetReply, .tenant]

def ofName? (name : String) : Option MessageType := all.find? (·.name = name)

/-- A search near media; only the name of the content differs between the media. -/
def nearMediaFields (content : String) : List Field :=
  [.plain 1 content .string, .optional 2 "certainty" .double, .optional 3 "distance" .double,
    .repeated 4 "target_vectors" .string, .optional 5 "targets" (.message .targets)]

/-- The declared fields in ascending order of their tags. -/
def fields : MessageType → List Field
  | .textArray => [.repeated 1 "values" .string]
  | .intArray => [.repeated 1 "values" .int64]
  | .numberArray => [.repeated 1 "values" .double]
  | .booleanArray => [.repeated 1 "values" .bool]
  | .filters =>
      [.plain 1 "operator" .int32, .repeated 2 "on" .string,
        .repeated 3 "filters" (.message .filters), .member "test_value" 4 "value_text" .string,
        .member "test_value" 5 "value_int" .int64, .member "test_value" 6 "value_boolean" .bool,
        .member "test_value" 7 "value_number" .double,
        .member "test_value" 9 "value_text_array" (.message .textArray),
        .member "test_value" 10 "value_int_array" (.message .intArray),
        .member "test_value" 11 "value_boolean_array" (.message .booleanArray),
        .member "test_value" 12 "value_number_array" (.message .numberArray),
        .member "test_value" 13 "value_geo" (.message .geoCoordinatesFilter),
        .optional 20 "target" (.message .filterTarget)]
  | .filterReferenceSingleTarget =>
      [.plain 1 "on" .string, .optional 2 "target" (.message .filterTarget)]
  | .filterReferenceMultiTarget =>
      [.plain 1 "on" .string, .optional 2 "target" (.message .filterTarget),
        .plain 3 "target_collection" .string]
  | .filterReferenceCount => [.plain 1 "on" .string]
  | .filterTarget =>
      [.member "target" 1 "property" .string,
        .member "target" 2 "single_target" (.message .filterReferenceSingleTarget),
        .member "target" 3 "multi_target" (.message .filterReferenceMultiTarget),
        .member "target" 4 "count" (.message .filterReferenceCount)]
  | .geoCoordinatesFilter =>
      [.plain 1 "latitude" .float, .plain 2 "longitude" .float, .plain 3 "distance" .float]
  | .vectors =>
      [.plain 1 "name" .string, .plain 2 "index" .uint64, .plain 3 "vector_bytes" .bytes,
        .plain 4 "type" .int32]
  | .properties => [.map 1 "fields" (.message .value)]
  | .value =>
      [.member "kind" 1 "number_value" .double, .member "kind" 2 "string_value" .string,
        .member "kind" 3 "bool_value" .bool,
        .member "kind" 4 "object_value" (.message .properties),
        .member "kind" 5 "list_value" (.message .listValue),
        .member "kind" 6 "date_value" .string, .member "kind" 7 "uuid_value" .string,
        .member "kind" 8 "int_value" .int64,
        .member "kind" 9 "geo_value" (.message .geoCoordinate),
        .member "kind" 10 "blob_value" .string,
        .member "kind" 11 "phone_value" (.message .phoneNumber),
        .member "kind" 12 "null_value" .int32, .member "kind" 13 "text_value" .string]
  | .listValue =>
      [.repeated 1 "values" (.message .value),
        .member "kind" 2 "number_values" (.message .numberValues),
        .member "kind" 3 "bool_values" (.message .boolValues),
        .member "kind" 4 "object_values" (.message .objectValues),
        .member "kind" 5 "date_values" (.message .dateValues),
        .member "kind" 6 "uuid_values" (.message .uuidValues),
        .member "kind" 7 "int_values" (.message .intValues),
        .member "kind" 8 "text_values" (.message .textValues)]
  | .numberValues => [.plain 1 "values" .bytes]
  | .intValues => [.plain 1 "values" .bytes]
  | .textValues => [.repeated 1 "values" .string]
  | .boolValues => [.repeated 1 "values" .bool]
  | .objectValues => [.repeated 1 "values" (.message .properties)]
  | .dateValues => [.repeated 1 "values" .string]
  | .uuidValues => [.repeated 1 "values" .string]
  | .geoCoordinate => [.plain 1 "longitude" .float, .plain 2 "latitude" .float]
  | .phoneNumber =>
      [.plain 1 "country_code" .uint64, .plain 2 "default_country" .string,
        .plain 3 "input" .string, .plain 4 "international_formatted" .string,
        .plain 5 "national" .uint64, .plain 6 "national_formatted" .string,
        .plain 7 "valid" .bool]
  | .searchRequest =>
      [.plain 1 "collection" .string, .plain 10 "tenant" .string,
        .optional 11 "consistency_level" .int32,
        .optional 20 "properties" (.message .propertiesRequest),
        .optional 21 "metadata" (.message .metadataRequest),
        .optional 22 "group_by" (.message .groupBy), .plain 30 "limit" .uint32,
        .plain 31 "offset" .uint32, .plain 32 "autocut" .uint32, .plain 33 "after" .string,
        .repeated 34 "sort_by" (.message .sortBy), .optional 40 "filters" (.message .filters),
        .optional 41 "hybrid_search" (.message .hybrid),
        .optional 42 "bm25_search" (.message .bm25),
        .optional 43 "near_vector" (.message .nearVector),
        .optional 44 "near_object" (.message .nearObject),
        .optional 45 "near_text" (.message .nearTextSearch),
        .optional 46 "near_image" (.message .nearImageSearch),
        .optional 47 "near_audio" (.message .nearAudioSearch),
        .optional 48 "near_video" (.message .nearVideoSearch),
        .optional 49 "near_depth" (.message .nearDepthSearch),
        .optional 50 "near_thermal" (.message .nearThermalSearch),
        .optional 51 "near_imu" (.message .nearImuSearch),
        .optional 60 "generative" (.message .generativeSearch),
        .optional 61 "rerank" (.message .rerank), .plain 100 "uses_123_api" .bool,
        .plain 101 "uses_125_api" .bool, .plain 102 "uses_127_api" .bool]
  | .groupBy =>
      [.repeated 1 "path" .string, .plain 2 "number_of_groups" .int32,
        .plain 3 "objects_per_group" .int32]
  | .sortBy => [.plain 1 "ascending" .bool, .repeated 2 "path" .string]
  | .generativeSearch =>
      [.plain 1 "single_response_prompt" .string, .plain 2 "grouped_response_task" .string,
        .repeated 3 "grouped_properties" .string]
  | .rerank => [.plain 1 "property" .string, .optional 2 "query" .string]
  | .metadataRequest =>
      [.plain 1 "uuid" .bool, .plain 2 "vector" .bool, .plain 3 "creation_time_unix" .bool,
        .plain 4 "last_update_time_unix" .bool, .plain 5 "distance" .bool,
        .plain 6 "certainty" .bool, .plain 7 "score" .bool, .plain 8 "explain_score" .bool,
        .plain 9 "is_consistent" .bool, .repeated 10 "vectors" .string]
  | .propertiesRequest =>
      [.repeated 1 "non_ref_properties" .string,
        .repeated 2 "ref_properties" (.message .refPropertiesRequest),
        .repeated 3 "object_properties" (.message .objectPropertiesRequest),
        .plain 11 "return_all_nonref_properties" .bool]
  | .objectPropertiesRequest =>
      [.plain 1 "prop_name" .string, .repeated 2 "primitive_properties" .string,
        .repeated 3 "object_properties" (.message .objectPropertiesRequest)]
  | .refPropertiesRequest =>
      [.plain 1 "reference_property" .string,
        .optional 2 "properties" (.message .propertiesRequest),
        .optional 3 "metadata" (.message .metadataRequest), .plain 4 "target_collection" .string]
  | .searchOperatorOptions =>
      [.plain 1 "operator" .int32, .optional 2 "minimum_or_tokens_match" .int32]
  | .hybrid =>
      [.plain 1 "query" .string, .repeated 2 "properties" .string, .repeated 3 "vector" .float,
        .plain 4 "alpha" .float, .plain 5 "fusion_type" .int32, .plain 6 "vector_bytes" .bytes,
        .repeated 7 "target_vectors" .string, .optional 8 "near_text" (.message .nearTextSearch),
        .optional 9 "near_vector" (.message .nearVector),
        .optional 10 "targets" (.message .targets),
        .optional 11 "bm25_search_operator" (.message .searchOperatorOptions),
        .optional 20 "vector_distance" .float]
  | .bm25 =>
      [.plain 1 "query" .string, .repeated 2 "properties" .string,
        .optional 3 "search_operator" (.message .searchOperatorOptions)]
  | .weightsForTarget => [.plain 1 "target" .string, .plain 2 "weight" .float]
  | .targets =>
      [.repeated 1 "target_vectors" .string, .plain 2 "combination" .int32,
        .map 3 "weights" .float, .repeated 4 "weights_for_targets" (.message .weightsForTarget)]
  | .vectorForTarget =>
      [.plain 1 "name" .string, .plain 2 "vector_bytes" .bytes,
        .repeated 3 "vectors" (.message .vectors)]
  | .nearVector =>
      [.repeated 1 "vector" .float, .optional 2 "certainty" .double,
        .optional 3 "distance" .double, .plain 4 "vector_bytes" .bytes,
        .repeated 5 "target_vectors" .string, .optional 6 "targets" (.message .targets),
        .map 7 "vector_per_target" .bytes,
        .repeated 8 "vector_for_targets" (.message .vectorForTarget),
        .repeated 9 "vectors" (.message .vectors)]
  | .nearObject =>
      [.plain 1 "id" .string, .optional 2 "certainty" .double, .optional 3 "distance" .double,
        .repeated 4 "target_vectors" .string, .optional 5 "targets" (.message .targets)]
  | .nearTextSearch =>
      [.repeated 1 "query" .string, .optional 2 "certainty" .double,
        .optional 3 "distance" .double, .optional 4 "move_to" (.message .move),
        .optional 5 "move_away" (.message .move), .repeated 6 "target_vectors" .string,
        .optional 7 "targets" (.message .targets)]
  | .move => [.plain 1 "force" .float, .repeated 2 "concepts" .string, .repeated 3 "uuids" .string]
  | .nearImageSearch => nearMediaFields "image"
  | .nearAudioSearch => nearMediaFields "audio"
  | .nearVideoSearch => nearMediaFields "video"
  | .nearDepthSearch => nearMediaFields "depth"
  | .nearThermalSearch => nearMediaFields "thermal"
  | .nearImuSearch => nearMediaFields "imu"
  | .searchReply =>
      [.plain 1 "took" .float, .repeated 2 "results" (.message .searchResult),
        .optional 3 "generative_grouped_result" .string,
        .repeated 4 "group_by_results" (.message .groupByResult)]
  | .rerankReply => [.plain 1 "score" .double]
  | .generativeReply => [.plain 1 "result" .string]
  | .groupByResult =>
      [.plain 1 "name" .string, .plain 2 "min_distance" .float, .plain 3 "max_distance" .float,
        .plain 4 "number_of_objects" .int64, .repeated 5 "objects" (.message .searchResult),
        .optional 6 "rerank" (.message .rerankReply),
        .optional 7 "generative" (.message .generativeReply)]
  | .searchResult =>
      [.optional 1 "properties" (.message .propertiesResult),
        .optional 2 "metadata" (.message .metadataResult)]
  | .metadataResult =>
      [.plain 1 "id" .string, .repeated 2 "vector" .float, .plain 3 "creation_time_unix" .int64,
        .plain 4 "creation_time_unix_present" .bool, .plain 5 "last_update_time_unix" .int64,
        .plain 6 "last_update_time_unix_present" .bool, .plain 7 "distance" .float,
        .plain 8 "distance_present" .bool, .plain 9 "certainty" .float,
        .plain 10 "certainty_present" .bool, .plain 11 "score" .float,
        .plain 12 "score_present" .bool, .plain 13 "explain_score" .string,
        .plain 14 "explain_score_present" .bool, .optional 15 "is_consistent" .bool,
        .plain 16 "generative" .string, .plain 17 "generative_present" .bool,
        .plain 18 "is_consistent_present" .bool, .plain 19 "vector_bytes" .bytes,
        .plain 20 "id_as_bytes" .bytes, .plain 21 "rerank_score" .double,
        .plain 22 "rerank_score_present" .bool, .repeated 23 "vectors" (.message .vectors)]
  | .propertiesResult =>
      [.repeated 2 "ref_props" (.message .refPropertiesResult),
        .plain 3 "target_collection" .string, .optional 4 "metadata" (.message .metadataResult),
        .optional 11 "non_ref_props" (.message .properties),
        .plain 12 "ref_props_requested" .bool]
  | .refPropertiesResult =>
      [.repeated 1 "properties" (.message .propertiesResult), .plain 2 "prop_name" .string]
  | .batchObjectsRequest =>
      [.repeated 1 "objects" (.message .batchObject), .optional 2 "consistency_level" .int32]
  | .batchObject =>
      [.plain 1 "uuid" .string, .repeated 2 "vector" .float,
        .optional 3 "properties" (.message .batchProperties), .plain 4 "collection" .string,
        .plain 5 "tenant" .string, .plain 6 "vector_bytes" .bytes,
        .repeated 23 "vectors" (.message .vectors)]
  | .batchProperties =>
      [.optional 1 "non_ref_properties" (.message .properties),
        .repeated 2 "single_target_ref_props" (.message .singleTargetReferences),
        .repeated 3 "multi_target_ref_props" (.message .multiTargetReferences)]
  | .singleTargetReferences => [.repeated 1 "uuids" .string, .plain 2 "prop_name" .string]
  | .multiTargetReferences =>
      [.repeated 1 "uuids" .string, .plain 2 "prop_name" .string,
        .plain 3 "target_collection" .string]
  | .batchObjectsReply => [.plain 1 "took" .float, .repeated 2 "errors" (.message .batchError)]
  | .batchError => [.plain 1 "index" .int32, .plain 2 "error" .string]
  | .tenantsGetRequest =>
      [.plain 1 "collection" .string, .optional 2 "names" (.message .tenantNames)]
  | .tenantNames => [.repeated 1 "values" .string]
  | .tenantsGetReply => [.plain 1 "took" .float, .repeated 2 "tenants" (.message .tenant)]
  | .tenant => [.plain 1 "name" .string, .plain 2 "activity_status" .int32]

def field? (m : MessageType) (tag : Nat) : Option Field := m.fields.find? (·.tag = tag)

end MessageType

end VectorClient.Wire
