import VectorClient.Json.Exact
import VectorClient.Property.Basic

/-!
# Typed form of properties

The usual document of a property does not say its type. The typed form does: it is an object with
one entry, whose key is the type and whose value is exact.
-/

namespace VectorClient

open Json

def GeoCoordinate.toTyped (g : GeoCoordinate) : Json :=
  .object [("latitude", Exact.single g.latitude), ("longitude", Exact.single g.longitude)]

def GeoCoordinate.ofTyped? (j : Json) : Option GeoCoordinate := do
  let latitude ← Exact.required Exact.single? "latitude" j
  let longitude ← Exact.required Exact.single? "longitude" j
  return ⟨latitude, longitude⟩

/-- Parts that are not known are left out. -/
def PhoneNumber.toTyped (p : PhoneNumber) : Json :=
  Exact.record [
    ("input", some (.string p.input)),
    ("default_country", p.defaultCountry.map .string),
    ("country_code", p.countryCode.map fun n => Exact.integer n.toNat),
    ("international_formatted", p.internationalFormatted.map .string),
    ("national", p.national.map fun n => Exact.integer n.toNat),
    ("national_formatted", p.nationalFormatted.map .string),
    ("valid", p.valid.map .bool)]

def PhoneNumber.ofTyped? (j : Json) : Option PhoneNumber := do
  let input ← Exact.required Exact.text? "input" j
  let defaultCountry ← Exact.optional Exact.text? "default_country" j
  let countryCode ← Exact.optional Exact.uint64? "country_code" j
  let internationalFormatted ← Exact.optional Exact.text? "international_formatted" j
  let national ← Exact.optional Exact.uint64? "national" j
  let nationalFormatted ← Exact.optional Exact.text? "national_formatted" j
  let valid ← Exact.optional Exact.boolean? "valid" j
  return { input, defaultCountry, countryCode, internationalFormatted, national,
           nationalFormatted, valid }

/-! ### Writing -/

mutual

/-- The value of a property without its type. -/
def Property.exactValue : Property → Json
  | .text s => .string s
  | .int n => Exact.integer n.toInt
  | .number x => Exact.double x
  | .boolean b => .bool b
  | .date d => Exact.date d
  | .uuid id => Exact.uuid id
  | .blob s => .string s
  | .geo g => g.toTyped
  | .phone p => p.toTyped
  | .object fields => .object (typedEntries fields)
  | .textArray values => .ofList .string values
  | .intArray values => .ofList (fun n => Exact.integer n.toInt) values
  | .numberArray values => .ofList Exact.double values
  | .booleanArray values => .ofList .bool values
  | .dateArray values => .ofList Exact.date values
  | .uuidArray values => .ofList Exact.uuid values
  | .objectArray values => .array (typedObjects values)

def typedEntries : List (String × Property) → List (String × Json)
  | [] => []
  | (name, p) :: rest => (name, .object [(p.typeName, p.exactValue)]) :: typedEntries rest

def typedObjects : List (List (String × Property)) → List Json
  | [] => []
  | fields :: rest => .object (typedEntries fields) :: typedObjects rest

end

def Property.toTyped (p : Property) : Json := .object [(p.typeName, p.exactValue)]

def Properties.toTyped (p : Properties) : Json := .object (typedEntries p)

/-! ### Reading -/

/-- A value of a type that holds no objects. -/
def Property.ofPlain? (type : String) (j : Json) : Option Property :=
  match type with
  | "text" => (Exact.text? j).map .text
  | "int" => (Exact.int64? j).map .int
  | "number" => (Exact.double? j).map .number
  | "boolean" => (Exact.boolean? j).map .boolean
  | "date" => (Exact.date? j).map .date
  | "uuid" => (Exact.uuid? j).map .uuid
  | "blob" => (Exact.text? j).map .blob
  | "geoCoordinates" => (GeoCoordinate.ofTyped? j).map .geo
  | "phoneNumber" => (PhoneNumber.ofTyped? j).map .phone
  | "text[]" => (Exact.list? Exact.text? j).map .textArray
  | "int[]" => (Exact.list? Exact.int64? j).map .intArray
  | "number[]" => (Exact.list? Exact.double? j).map .numberArray
  | "boolean[]" => (Exact.list? Exact.boolean? j).map .booleanArray
  | "date[]" => (Exact.list? Exact.date? j).map .dateArray
  | "uuid[]" => (Exact.list? Exact.uuid? j).map .uuidArray
  | _ => none

mutual

def Property.ofTyped? : Json → Option Property
  | .object [("object", .object entries)] => do
    let fields ← typedFields? entries
    return .object (KeyMap.ofList fields)
  | .object [("object[]", .array items)] => (typedItems? items).map .objectArray
  | .object [(type, value)] => Property.ofPlain? type value
  | _ => none

def typedFields? : List (String × Json) → Option (List (String × Property))
  | [] => some []
  | (name, j) :: rest => do
    let p ← Property.ofTyped? j
    let ps ← typedFields? rest
    return (name, p) :: ps

def typedItems? : List Json → Option (List (List (String × Property)))
  | [] => some []
  | .object entries :: rest => do
    let fields ← typedFields? entries
    let items ← typedItems? rest
    return KeyMap.ofList fields :: items
  | _ :: _ => none

end

def Properties.ofTyped? (j : Json) : Option Properties := Exact.map? Property.ofTyped? j

end VectorClient
