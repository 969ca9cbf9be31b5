import VectorClient.Filter.Literal
import VectorClient.Property.Basic

/-!
# Literals of properties

A filter that looks for the value of a property compares with the literal of that property.
-/

namespace VectorClient

/-- The literal that equals a property; blobs, objects, phone numbers and places have none. -/
def Property.literal? : Property → Option Filter.Literal
  | .text s => some (.text s)
  | .int n => some (.int n)
  | .number x => some (.number x)
  | .boolean b => some (.boolean b)
  | .date d => some (.date d)
  | .uuid id => some (.uuid id)
  | .textArray values => some (.textArray values)
  | .intArray values => some (.intArray values)
  | .numberArray values => some (.numberArray values)
  | .booleanArray values => some (.booleanArray values)
  | .dateArray values => some (.dateArray values)
  | .uuidArray values => some (.uuidArray values)
  | _ => none

end VectorClient
