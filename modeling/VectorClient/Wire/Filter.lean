import VectorClient.Wire.Datum

/-!
# Filter messages

A filter is a combination of filters, or a comparison of a target with a value. A target inside a
reference is nested in the reference.
-/

namespace VectorClient.Wire

open Number

inductive FilterTarget
  | property (name : String)
  | singleTarget (on : String) (target : FilterTarget)
  | multiTarget (on : String) (target : FilterTarget) (targetCollection : String)
  | count (on : String)
deriving DecidableEq, Repr

structure GeoCoordinatesFilter where
  latitude : Single
  longitude : Single
  distance : Single
deriving DecidableEq, Repr

inductive TestValue
  | text (s : String)
  | int (n : Int64)
  | boolean (b : Bool)
  | number (x : Double)
  | textArray (values : List String)
  | intArray (values : List Int64)
  | booleanArray (values : List Bool)
  | numberArray (values : List Double)
  | geo (g : GeoCoordinatesFilter)
deriving DecidableEq, Repr

/-- Combinations have `filters`, comparisons have a target and a value. -/
structure Filters where
  operator : Int32
  filters : List Filters := []
  testValue : Option TestValue := none
  target : Option FilterTarget := none
deriving Repr, BEq

def FilterTarget.toFields : FilterTarget → Fields
  | .property name => [(1, .string name)]
  | .singleTarget on target =>
    [(2, .message (Fields.plain 1 (.string on) ++ [(2, .message target.toFields)]))]
  | .multiTarget on target collection =>
    [(3, .message (Fields.plain 1 (.string on) ++ [(2, .message target.toFields)] ++
      Fields.plain 3 (.string collection)))]
  | .count on => [(4, .message (Fields.plain 1 (.string on)))]

def GeoCoordinatesFilter.toFields (g : GeoCoordinatesFilter) : Fields :=
  .plain 1 (.float g.latitude) ++ .plain 2 (.float g.longitude) ++ .plain 3 (.float g.distance)

def TestValue.toFields : TestValue → Fields
  | .text s => [(4, .string s)]
  | .int n => [(5, .int64 n)]
  | .boolean b => [(6, .bool b)]
  | .number x => [(7, .double x)]
  | .textArray values => [(9, .message (Fields.repeated 1 (values.map .string)))]
  | .intArray values => [(10, .message (Fields.repeated 1 (values.map .int64)))]
  | .booleanArray values => [(11, .message (Fields.repeated 1 (values.map .bool)))]
  | .numberArray values => [(12, .message (Fields.repeated 1 (values.map .double)))]
  | .geo g => [(13, .message g.toFields)]

mutual

def Filters.toFields : Filters → Fields
  | ⟨operator, filters, testValue, target⟩ =>
    .plain 1 (.int32 operator) ++ .repeated 3 (filterMessages filters) ++
      (testValue.map TestValue.toFields).getD [] ++
      .optional 20 (target.map fun t => .message t.toFields)

def filterMessages : List Filters → List Datum
  | [] => []
  | f :: rest => .message f.toFields :: filterMessages rest

end

end VectorClient.Wire
