/-!
# Enumerations

The named numbers of the wire contract. A field may hold a number without a name.
-/

namespace VectorClient.Wire

inductive EnumType
  | filterOperator
  | vectorType
  | consistencyLevel
  | nullValue
  | searchOperator
  | fusionType
  | combinationMethod
  | tenantActivityStatus
deriving DecidableEq, Repr

namespace EnumType

/-- The declared name; enumerations declared inside a message are qualified by it. -/
def name : EnumType → String
  | .filterOperator => "filters.Operator"
  | .vectorType => "vectors.VectorType"
  | .consistencyLevel => "ConsistencyLevel"
  | .nullValue => "NullValue"
  | .searchOperator => "search_operator_options.Operator"
  | .fusionType => "hybrid.FusionType"
  | .combinationMethod => "CombinationMethod"
  | .tenantActivityStatus => "TenantActivityStatus"

def all : List EnumType :=
  [.filterOperator, .vectorType, .consistencyLevel, .nullValue, .searchOperator, .fusionType,
    .combinationMethod, .tenantActivityStatus]

def ofName? (name : String) : Option EnumType := all.find? (·.name = name)

/-- The names and their numbers, in ascending order of the numbers. -/
def values : EnumType → List (String × Int)
  | .filterOperator =>
    [("OPERATOR_UNSPECIFIED", 0), ("OPERATOR_EQUAL", 1), ("OPERATOR_NOT_EQUAL", 2),
      ("OPERATOR_GREATER_THAN", 3), ("OPERATOR_GREATER_THAN_EQUAL", 4), ("OPERATOR_LESS_THAN", 5),
      ("OPERATOR_LESS_THAN_EQUAL", 6), ("OPERATOR_AND", 7), ("OPERATOR_OR", 8),
      ("OPERATOR_WITHIN_GEO_RANGE", 9), ("OPERATOR_LIKE", 10), ("OPERATOR_IS_NULL", 11),
      ("OPERATOR_CONTAINS_ANY", 12), ("OPERATOR_CONTAINS_ALL", 13)]
  | .vectorType =>
    [("VECTOR_TYPE_UNSPECIFIED", 0), ("VECTOR_TYPE_SINGLE_FP32", 1),
      ("VECTOR_TYPE_MULTI_FP32", 2)]
  | .consistencyLevel =>
    [("CONSISTENCY_LEVEL_UNSPECIFIED", 0), ("CONSISTENCY_LEVEL_ONE", 1),
      ("CONSISTENCY_LEVEL_QUORUM", 2), ("CONSISTENCY_LEVEL_ALL", 3)]
  | .nullValue => [("NULL_VALUE", 0)]
  | .searchOperator => [("OPERATOR_UNSPECIFIED", 0), ("OPERATOR_OR", 1), ("OPERATOR_AND", 2)]
  | .fusionType =>
    [("FUSION_TYPE_UNSPECIFIED", 0), ("FUSION_TYPE_RANKED", 1),
      ("FUSION_TYPE_RELATIVE_SCORE", 2)]
  | .combinationMethod =>
    [("COMBINATION_METHOD_UNSPECIFIED", 0), ("COMBINATION_METHOD_TYPE_SUM", 1),
      ("COMBINATION_METHOD_TYPE_MIN", 2), ("COMBINATION_METHOD_TYPE_AVERAGE", 3),
      ("COMBINATION_METHOD_TYPE_RELATIVE_SCORE", 4), ("COMBINATION_METHOD_TYPE_MANUAL", 5)]
  | .tenantActivityStatus =>
    [("TENANT_ACTIVITY_STATUS_UNSPECIFIED", 0), ("TENANT_ACTIVITY_STATUS_HOT", 1),
      ("TENANT_ACTIVITY_STATUS_COLD", 2), ("TENANT_ACTIVITY_STATUS_FROZEN", 4),
      ("TENANT_ACTIVITY_STATUS_UNFREEZING", 5), ("TENANT_ACTIVITY_STATUS_FREEZING", 6),
      ("TENANT_ACTIVITY_STATUS_ACTIVE", 7), ("TENANT_ACTIVITY_STATUS_INACTIVE", 8),
      ("TENANT_ACTIVITY_STATUS_OFFLOADED", 9), ("TENANT_ACTIVITY_STATUS_OFFLOADING", 10),
      ("TENANT_ACTIVITY_STATUS_ONLOADING", 11)]

def number? (e : EnumType) (name : String) : Option Int := e.values.lookup name

def valueName? (e : EnumType) (number : Int) : Option String :=
  (e.values.find? (·.2 = number)).map Prod.fst

end EnumType

end VectorClient.Wire
