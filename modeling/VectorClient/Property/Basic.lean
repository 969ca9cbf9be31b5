import VectorClient.Date.Basic
import VectorClient.KeyMap
import VectorClient.Number.Single
import VectorClient.Uuid

/-!
# Properties

The value of a property is of one of seventeen types; a value and a list of values are different
types. The properties of an object form a map by name.
-/

namespace VectorClient

open Number

structure GeoCoordinate where
  latitude : Single
  longitude : Single
deriving DecidableEq, Repr

/-- A phone number as given, and what the server made of it. -/
structure PhoneNumber where
  input : String
  defaultCountry : Option String := none
  countryCode : Option UInt64 := none
  internationalFormatted : Option String := none
  national : Option UInt64 := none
  nationalFormatted : Option String := none
  valid : Option Bool := none
deriving DecidableEq, Repr

inductive Property
  | text (s : String)
  | int (n : Int64)
  | number (x : Double)
  | boolean (b : Bool)
  | date (d : Date)
  | uuid (id : Uuid)
  | blob (s : String)
  | geo (g : GeoCoordinate)
  | phone (p : PhoneNumber)
  | object (fields : List (String × Property))
  | textArray (values : List String)
  | intArray (values : List Int64)
  | numberArray (values : List Double)
  | booleanArray (values : List Bool)
  | dateArray (values : List Date)
  | uuidArray (values : List Uuid)
  | objectArray (values : List (List (String × Property)))
deriving Repr, BEq, Inhabited

abbrev Properties := KeyMap Property

def Property.typeName : Property → String
  | .text _ => "text"
  | .int _ => "int"
  | .number _ => "number"
  | .boolean _ => "boolean"
  | .date _ => "date"
  | .uuid _ => "uuid"
  | .blob _ => "blob"
  | .geo _ => "geoCoordinates"
  | .phone _ => "phoneNumber"
  | .object _ => "object"
  | .textArray _ => "text[]"
  | .intArray _ => "int[]"
  | .numberArray _ => "number[]"
  | .booleanArray _ => "boolean[]"
  | .dateArray _ => "date[]"
  | .uuidArray _ => "uuid[]"
  | .objectArray _ => "object[]"

end VectorClient
