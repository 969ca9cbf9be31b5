import VectorClient.Filter.Basic
import VectorClient.Error
import VectorClient.Text.Blank
import VectorClient.Wire.Filter

/-!
# Filters on the wire

Nothing is dropped: a combination without operands, a value that the operator does not take and a
target that cannot be resolved are errors.
-/

namespace VectorClient.Filter

def Operator.number : Operator → Int32
  | .equal => 1
  | .notEqual => 2
  | .greaterThan => 3
  | .greaterThanEqual => 4
  | .lessThan => 5
  | .lessThanEqual => 6
  | .withinGeoRange => 9
  | .like => 10
  | .isNull => 11
  | .containsAny => 12
  | .containsAll => 13

def Connective.number : Connective → Int32
  | .and => 7
  | .or => 8

/-- Dates and ids are compared as text. -/
def Literal.toWire : Literal → Wire.TestValue
  | .text s => .text s
  | .int n => .int n
  | .number x => .number x
  | .boolean b => .boolean b
  | .date d => .text d.text
  | .uuid id => .text id.text
  | .textArray values => .textArray values
  | .intArray values => .intArray values
  | .numberArray values => .numberArray values
  | .booleanArray values => .booleanArray values
  | .dateArray values => .textArray (values.map Date.text)
  | .uuidArray values => .textArray (values.map Uuid.text)
  | .geoRange g => .geo ⟨g.latitude, g.longitude, g.distance⟩

namespace Target

/-- Puts `leaf` behind the open end, which a terminal target does not have. -/
def attach (chain leaf : Target) : Except Error Target :=
  if chain.isTerminal then .error (.invalidFilterTarget (.terminal chain leaf))
  else .ok (chain.extend leaf)

def checkName (fault : TargetFault) (name : String) : Except Error Unit :=
  if Text.isBlank name then .error (.invalidFilterTarget fault) else .ok ()

/-- The nested wire target, outermost link first. -/
def resolve : Target → Except Error Wire.FilterTarget
  | .property name => do
    checkName .blankProperty name
    return .property name
  | .count link => do
    checkName .blankReference link
    return .count link
  | .dangling link => .error (.invalidFilterTarget (.dangling link.name))
  | .via link next => do
    checkName .blankReference link.name
    let inner ← next.resolve
    match link.collection with
    | none => return .singleTarget link.name inner
    | some collection =>
      checkName .blankCollection collection
      return .multiTarget link.name inner collection

end Target

/-- The wire combination of at least one operand. -/
def combine (connective : Connective) : List Wire.Filters → Except Error Wire.Filters
  | [] => .error (.invalidInput (.emptyCombination connective))
  | operands => .ok { operator := connective.number, filters := operands }

mutual

def serialize : Filter → Except Error Wire.Filters
  | .allOf operands => do combine .and (← serializeAll operands)
  | .anyOf operands => do combine .or (← serializeAll operands)
  | .compare operator target value =>
    if operator.accepts value then do
      let resolved ← target.resolve
      return { operator := operator.number, target := resolved, testValue := value.toWire }
    else .error (.invalidInput (.rejectedLiteral operator value))

/-- The wire filters in order, or the error of the first that has one. -/
def serializeAll : List Filter → Except Error (List Wire.Filters)
  | [] => .ok []
  | f :: rest => do
    let first ← f.serialize
    let others ← serializeAll rest
    return first :: others

end

def serialize? : Option Filter → Except Error (Option Wire.Filters)
  | none => .ok none
  | some f => f.serialize.map some

end VectorClient.Filter
