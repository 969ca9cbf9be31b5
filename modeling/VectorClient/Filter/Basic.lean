import VectorClient.Filter.Literal
import VectorClient.Filter.Target

/-!
# Filters

A filter is a tree of conjunctions and disjunctions over comparisons. `and` and `or` extend a left
operand of their own kind instead of nesting it.
-/

namespace VectorClient

namespace Filter

inductive Operator
  | equal
  | notEqual
  | lessThan
  | lessThanEqual
  | greaterThan
  | greaterThanEqual
  | like
  | isNull
  | containsAny
  | containsAll
  | withinGeoRange
deriving DecidableEq, Repr

namespace Operator

def name : Operator → String
  | .equal => "Equal"
  | .notEqual => "NotEqual"
  | .lessThan => "LessThan"
  | .lessThanEqual => "LessThanEqual"
  | .greaterThan => "GreaterThan"
  | .greaterThanEqual => "GreaterThanEqual"
  | .like => "Like"
  | .isNull => "IsNull"
  | .containsAny => "ContainsAny"
  | .containsAll => "ContainsAll"
  | .withinGeoRange => "WithinGeoRange"

/-- Patterns are texts, nullness is a truth value, containment needs a list, and only a range
search takes a range. -/
def accepts : Operator → Literal → Bool
  | .like, .text _ => true
  | .like, _ => false
  | .isNull, .boolean _ => true
  | .isNull, _ => false
  | .containsAny, value => value.isArray
  | .containsAll, value => value.isArray
  | .withinGeoRange, .geoRange _ => true
  | .withinGeoRange, _ => false
  | _, .geoRange _ => false
  | _, _ => true

end Operator

inductive Connective
  | and
  | or
deriving DecidableEq, Repr

end Filter

inductive Filter
  | allOf (operands : List Filter)
  | anyOf (operands : List Filter)
  | compare (operator : VectorClient.Filter.Operator) (target : VectorClient.Filter.Target)
      (value : VectorClient.Filter.Literal)
deriving Repr, BEq

namespace Filter

/-- The conjunction; a conjunction on the left takes the other as its last operand. -/
def and : Filter → Filter → Filter
  | .allOf operands, other => .allOf (operands ++ [other])
  | filter, other => .allOf [filter, other]

/-- The disjunction; a disjunction on the left takes the other as its last operand. -/
def or : Filter → Filter → Filter
  | .anyOf operands, other => .anyOf (operands ++ [other])
  | filter, other => .anyOf [filter, other]

instance : AndOp Filter := ⟨Filter.and⟩

instance : OrOp Filter := ⟨Filter.or⟩

end Filter

end VectorClient
