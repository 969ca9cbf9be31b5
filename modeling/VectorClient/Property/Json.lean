import VectorClient.Error
import VectorClient.Json.Source
import VectorClient.Json.Text
import VectorClient.Number.Power
import VectorClient.Property.Basic

/-!
# Properties as documents

A property has a JSON form without its type: dates and ids are texts, coordinates and phone
numbers are objects. In the other direction any object gives properties, where texts stay texts,
whole numbers of 64 bits are integers, nulls are dropped and lists have the type of their first
element.
-/

namespace VectorClient

open Number
open Json (Source)

/-! ### Writing -/

def GeoCoordinate.toJson (g : GeoCoordinate) : Json :=
  .object [("latitude", .single g.latitude), ("longitude", .single g.longitude)]

def natJson (n : UInt64) : Json := .int n.toNat

def PhoneNumber.toJson (p : PhoneNumber) : Json :=
  .object [
    ("input", .string p.input),
    ("default_country", .ofOption .string p.defaultCountry),
    ("country_code", .ofOption natJson p.countryCode),
    ("international_formatted", .ofOption .string p.internationalFormatted),
    ("national", .ofOption natJson p.national),
    ("national_formatted", .ofOption .string p.nationalFormatted),
    ("valid", .ofOption .bool p.valid)]

mutual

def Property.toJson : Property → Json
  | .text s => .string s
  | .int n => .int n.toInt
  | .number x => .double x
  | .boolean b => .bool b
  | .date d => .string d.text
  | .uuid id => .string id.text
  | .blob s => .string s
  | .geo g => g.toJson
  | .phone p => p.toJson
  | .object fields => .object (propertyEntries fields)
  | .textArray values => .ofList .string values
  | .intArray values => .ofList (fun n => .int n.toInt) values
  | .numberArray values => .ofList .double values
  | .booleanArray values => .ofList .bool values
  | .dateArray values => .ofList (fun d => .string d.text) values
  | .uuidArray values => .ofList (fun id => .string id.text) values
  | .objectArray values => .array (propertyObjects values)

def propertyEntries : List (String × Property) → List (String × Json)
  | [] => []
  | (name, p) :: rest => (name, p.toJson) :: propertyEntries rest

def propertyObjects : List (List (String × Property)) → List Json
  | [] => []
  | fields :: rest => .object (propertyEntries fields) :: propertyObjects rest

end

def Properties.toJson (p : Properties) : Json := .object (propertyEntries p)

/-! ### Reading into properties -/

def invalidInput {α : Type} (fault : InputFault) : Except Error α := .error (.invalidInput fault)

/-- A whole number of 64 bits with a sign. -/
def signedWord? : Json → Option Int64
  | .int n => if fitsSigned 64 n then some (.ofInt n) else none
  | _ => none

def anyNumber? : Json → Option Double
  | .int n => some (.ofInt n)
  | .double x => some x
  | .single x => some x.toDouble
  | _ => none

def textOf? : Json → Option String
  | .string s => some s
  | _ => none

def booleanOf? : Json → Option Bool
  | .bool b => some b
  | _ => none

/-- All items by one reading; `name` is the property that holds the list. -/
def readList {α : Type} (name : String) (read? : Json → Option α) (items : List Json) :
    Except Error (List α) :=
  items.mapM fun item =>
    match read? item with
    | some a => .ok a
    | none => invalidInput (.mixedElements name)

mutual

/-- The property that a value stands for, or nothing for null. -/
def Property.ofJson (name : String) : Json → Except Error (Option Property)
  | .null => .ok none
  | .bool b => .ok (some (.boolean b))
  | .int n =>
    match signedWord? (.int n) with
    | some n => .ok (some (.int n))
    | none => .ok (some (.number (.ofInt n)))
  | .double x => .ok (some (.number x))
  | .single x => .ok (some (.number x.toDouble))
  | .string s => .ok (some (.text s))
  | .object entries => (propertiesOfEntries entries).map (some <| .object ·)
  | .array [] => .ok (some (.textArray []))
  | .array (first :: rest) =>
    match first with
    | .string _ => (readList name textOf? (first :: rest)).map (some <| .textArray ·)
    | .bool _ => (readList name booleanOf? (first :: rest)).map (some <| .booleanArray ·)
    | .object _ => (objectsOfItems name (first :: rest)).map (some <| .objectArray ·)
    | .null => invalidInput (.nestedElements name)
    | .array _ => invalidInput (.nestedElements name)
    | _ =>
      match (first :: rest).mapM signedWord? with
      | some values => .ok (some (.intArray values))
      | none => (readList name anyNumber? (first :: rest)).map (some <| .numberArray ·)

/-- The entries of an object in order, without its nulls. -/
def propertiesOfEntries : List (String × Json) → Except Error (List (String × Property))
  | [] => .ok []
  | (name, j) :: rest => do
    let p ← Property.ofJson name j
    let ps ← propertiesOfEntries rest
    return (p.map (name, ·)).toList ++ ps

def objectsOfItems (name : String) :
    List Json → Except Error (List (List (String × Property)))
  | [] => .ok []
  | .object entries :: rest => do
    let p ← propertiesOfEntries entries
    let ps ← objectsOfItems name rest
    return p :: ps
  | _ :: _ => invalidInput (.mixedElements name)

end

/-- The properties of a document, which has to be an object. -/
def Properties.ofJson (document : Json) : Except Error Properties :=
  match document.normal? with
  | none => invalidInput .json
  | some (.object entries) => propertiesOfEntries entries
  | some other => invalidInput (.notAnObject other.text)

/-! ### Reading properties as other values -/

/-- The normal form of the document of properties, read by a decoder. -/
def Properties.readAs {α : Type} (decode? : Json.Decoder α) (p : Properties) : Except Error α :=
  match p.toJson.normal?.bind fun document => decode? (.ofJson document) with
  | some a => .ok a
  | none => invalidInput .json

def GeoCoordinate.ofSource? : Json.Decoder GeoCoordinate := fun s => do
  match ← s.fields? ["latitude", "longitude"] with
  | [latitude, longitude] =>
    let latitude ← Source.required Source.single? latitude
    let longitude ← Source.required Source.single? longitude
    return ⟨latitude, longitude⟩
  | _ => none

def PhoneNumber.ofSource? : Json.Decoder PhoneNumber := fun s => do
  match ← s.fields? ["input", "default_country", "country_code", "international_formatted",
      "national", "national_formatted", "valid"] with
  | [input, defaultCountry, countryCode, internationalFormatted, national, nationalFormatted,
      valid] =>
    let input ← Source.required Source.string? input
    let defaultCountry ← Source.optional Source.string? defaultCountry
    let countryCode ← Source.optional Source.uint64? countryCode
    let internationalFormatted ← Source.optional Source.string? internationalFormatted
    let national ← Source.optional Source.uint64? national
    let nationalFormatted ← Source.optional Source.string? nationalFormatted
    let valid ← Source.optional Source.bool? valid
    return { input, defaultCountry, countryCode, internationalFormatted, national,
             nationalFormatted, valid }
  | _ => none

end VectorClient
