import VectorClient.Capability
import VectorClient.Property.Basic
import VectorClient.Vector.Lanes
import VectorClient.Wire.Property

/-!
# Properties on the wire

Servers with typed lists get them, others get lists of single values; both are read. Reading
refuses what is not well formed and drops nothing but explicit nulls.
-/

namespace VectorClient

open Number

/-! ### Writing -/

def PhoneNumber.toWire (p : PhoneNumber) : Wire.PhoneNumber :=
  { input := p.input, defaultCountry := p.defaultCountry.getD "" }

/-- A list in the form that the server understands. -/
def listToWire (typed : Bool) (kind : Wire.ListKind) (elements : List Wire.Value) : Wire.Value :=
  if typed then .list [] kind else .list elements .untyped

mutual

/-- The wire value of a property; `typed` says whether lists are typed as a whole. -/
def Property.toWire (typed : Bool) : Property → Wire.Value
  | .text s => .text s
  | .int n => .int n
  | .number x => .number x
  | .boolean b => .bool b
  | .date d => .date d.text
  | .uuid id => .uuid id.text
  | .blob s => .blob s
  | .geo g => .geo ⟨g.longitude, g.latitude⟩
  | .phone p => .phone p.toWire
  | .object fields => .object (propertiesToWire typed fields)
  | .textArray values => listToWire typed (.texts values) (values.map .string)
  | .intArray values => listToWire typed (.ints (Vector.encodeInts values)) (values.map .int)
  | .numberArray values =>
    listToWire typed (.numbers (Vector.encodeDoubles values)) (values.map .number)
  | .booleanArray values => listToWire typed (.bools values) (values.map .bool)
  | .dateArray values =>
    listToWire typed (.dates (values.map Date.text)) (values.map fun d => .date d.text)
  | .uuidArray values =>
    listToWire typed (.uuids (values.map Uuid.text)) (values.map fun id => .uuid id.text)
  | .objectArray values =>
    listToWire typed (.objects (objectsToWire typed values)) (elementsToWire typed values)

def propertiesToWire (typed : Bool) : List (String × Property) → List (String × Wire.Value)
  | [] => []
  | (name, p) :: rest => (name, p.toWire typed) :: propertiesToWire typed rest

def objectsToWire (typed : Bool) :
    List (List (String × Property)) → List (List (String × Wire.Value))
  | [] => []
  | fields :: rest => propertiesToWire typed fields :: objectsToWire typed rest

def elementsToWire (typed : Bool) : List (List (String × Property)) → List Wire.Value
  | [] => []
  | fields :: rest => .object (propertiesToWire typed fields) :: elementsToWire typed rest

end

def Property.toWireFor (caps : Capabilities) (p : Property) : Wire.Value :=
  p.toWire (caps.supports .typedListValues)

def Properties.toWire (caps : Capabilities) (p : Properties) : Wire.Properties :=
  propertiesToWire (caps.supports .typedListValues) p

/-! ### Reading -/

def readDate (raw : String) : Except Error Date :=
  match Date.read? raw with
  | some d => .ok d
  | none => .error (.wireDecode (.date raw))

def readUuid (raw : String) : Except Error Uuid :=
  match Uuid.read? raw with
  | some id => .ok id
  | none => .error (.wireDecode (.uuid raw))

def nonEmpty? (s : String) : Option String := if s = "" then none else some s

def nonZero? (n : UInt64) : Option UInt64 := if n = 0 then none else some n

/-- Without a code the server did not parse the number, so that it is not known to be invalid. -/
def PhoneNumber.ofWire (p : Wire.PhoneNumber) : PhoneNumber :=
  { input := p.input
    defaultCountry := nonEmpty? p.defaultCountry
    countryCode := nonZero? p.countryCode
    internationalFormatted := nonEmpty? p.internationalFormatted
    national := nonZero? p.national
    nationalFormatted := nonEmpty? p.nationalFormatted
    valid := if p.countryCode ≠ 0 ∨ p.national ≠ 0 ∨ p.valid then some p.valid else none }

/-- All items as one type, or the first that is of another type than the head. -/
def collectAs {α : Type} (get? : Property → Option α) (first : Property) (items : List Property) :
    Except Error (List α) :=
  items.mapM fun item =>
    match get? item with
    | some a => .ok a
    | none => .error (.wireDecode (.mixedElements first.typeName item.typeName))

/-- The list of elements of one type; without elements the type is not known and taken as text. -/
def gather : List Property → Except Error Property
  | [] => .ok (.textArray [])
  | first :: rest =>
    let items := first :: rest
    match first with
    | .text _ => .textArray <$> collectAs (fun | .text s => some s | _ => none) first items
    | .int _ => .intArray <$> collectAs (fun | .int n => some n | _ => none) first items
    | .number _ => .numberArray <$> collectAs (fun | .number x => some x | _ => none) first items
    | .boolean _ => .booleanArray <$> collectAs (fun | .boolean b => some b | _ => none) first items
    | .date _ => .dateArray <$> collectAs (fun | .date d => some d | _ => none) first items
    | .uuid _ => .uuidArray <$> collectAs (fun | .uuid id => some id | _ => none) first items
    | .object _ => .objectArray <$> collectAs (fun | .object p => some p | _ => none) first items
    | other => .error (.wireDecode (.unsupportedElement other.typeName))

mutual

/-- A property, or nothing for an explicit null. -/
def Property.ofWire : Wire.Value → Except Error (Option Property)
  | .unset => .error (.wireDecode .noKind)
  | .null _ => .ok none
  | .number x => .ok (some (.number x))
  | .int n => .ok (some (.int n))
  | .string s => .ok (some (.text s))
  | .text s => .ok (some (.text s))
  | .bool b => .ok (some (.boolean b))
  | .date raw => (readDate raw).map (some <| .date ·)
  | .uuid raw => (readUuid raw).map (some <| .uuid ·)
  | .blob s => .ok (some (.blob s))
  | .geo g => .ok (some (.geo ⟨g.latitude, g.longitude⟩))
  | .phone p => .ok (some (.phone (.ofWire p)))
  | .object fields => (propertiesOfWire fields).map (some <| .object ·)
  | .list elements kind =>
    match kind with
    | .untyped => do
      let items ← elementsOfWire 0 elements
      some <$> gather items
    | .numbers lanes => (Vector.decodeDoubles lanes).map (some <| .numberArray ·)
    | .ints lanes => (Vector.decodeInts lanes).map (some <| .intArray ·)
    | .bools values => .ok (some (.booleanArray values))
    | .texts values => .ok (some (.textArray values))
    | .dates values => (values.mapM readDate).map (some <| .dateArray ·)
    | .uuids values => (values.mapM readUuid).map (some <| .uuidArray ·)
    | .objects values => (objectsOfWire values).map (some <| .objectArray ·)

/-- The properties of an object in order, without its nulls. -/
def propertiesOfWire : List (String × Wire.Value) → Except Error (List (String × Property))
  | [] => .ok []
  | (name, v) :: rest => do
    let p ← Property.ofWire v
    let ps ← propertiesOfWire rest
    return (p.map (name, ·)).toList ++ ps

/-- The elements of an untyped list from position `index` on. -/
def elementsOfWire (index : Nat) : List Wire.Value → Except Error (List Property)
  | [] => .ok []
  | v :: rest => do
    match ← Property.ofWire v with
    | none => .error (.wireDecode (.nullElement index))
    | some p =>
      let ps ← elementsOfWire (index + 1) rest
      return p :: ps

def objectsOfWire :
    List (List (String × Wire.Value)) → Except Error (List (List (String × Property)))
  | [] => .ok []
  | fields :: rest => do
    let p ← propertiesOfWire fields
    let ps ← objectsOfWire rest
    return p :: ps

end

def Properties.ofWire (p : Wire.Properties) : Except Error Properties := propertiesOfWire p

end VectorClient
