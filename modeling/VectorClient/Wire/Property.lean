import VectorClient.Wire.Datum

/-!
# Property messages

Property values as they are sent: one kind a value, objects as maps of values, and lists either
typed as a whole or untyped with a kind for each element.
-/

namespace VectorClient.Wire

open Number

structure GeoCoordinate where
  longitude : Single
  latitude : Single
deriving DecidableEq, Repr

structure PhoneNumber where
  countryCode : UInt64 := 0
  defaultCountry : String := ""
  input : String := ""
  internationalFormatted : String := ""
  national : UInt64 := 0
  nationalFormatted : String := ""
  valid : Bool := false
deriving DecidableEq, Repr

mutual

inductive Value
  /-- A value without a known kind. -/
  | unset
  | number (x : Double)
  /-- Text as servers without typed lists write it inside lists. -/
  | string (s : String)
  | bool (b : Bool)
  | object (fields : List (String × Value))
  /-- A typed list, or the elements of an untyped one. -/
  | list (elements : List Value) (kind : ListKind)
  | date (s : String)
  | uuid (s : String)
  | int (n : Int64)
  | geo (g : GeoCoordinate)
  | blob (s : String)
  | phone (p : PhoneNumber)
  | null (n : Int32)
  | text (s : String)

/-- The elements of a list that is typed as a whole. -/
inductive ListKind
  | untyped
  | numbers (lanes : Bytes)
  | bools (values : List Bool)
  | objects (values : List (List (String × Value)))
  | dates (values : List String)
  | uuids (values : List String)
  | ints (lanes : Bytes)
  | texts (values : List String)

end

deriving instance Repr, BEq, Inhabited for Value, ListKind

abbrev Properties := KeyMap Value

def GeoCoordinate.toFields (g : GeoCoordinate) : Fields :=
  .plain 1 (.float g.longitude) ++ .plain 2 (.float g.latitude)

def GeoCoordinate.ofFields (f : Fields) : GeoCoordinate := ⟨f.float 1, f.float 2⟩

def PhoneNumber.toFields (p : PhoneNumber) : Fields :=
  .plain 1 (.uint64 p.countryCode) ++ .plain 2 (.string p.defaultCountry) ++
    .plain 3 (.string p.input) ++ .plain 4 (.string p.internationalFormatted) ++
    .plain 5 (.uint64 p.national) ++ .plain 6 (.string p.nationalFormatted) ++
    .plain 7 (.bool p.valid)

def PhoneNumber.ofFields (f : Fields) : PhoneNumber :=
  { countryCode := f.uint64 1, defaultCountry := f.string 2, input := f.string 3
    internationalFormatted := f.string 4, national := f.uint64 5, nationalFormatted := f.string 6
    valid := f.bool 7 }

/-- A message whose only field holds texts. -/
def textsToFields (values : List String) : Fields := .repeated 1 (values.map .string)

def boolsToFields (values : List Bool) : Fields := .repeated 1 (values.map .bool)

def boolsOfFields (f : Fields) : List Bool :=
  (f.list 1).filterMap fun
    | .bool b => some b
    | _ => none

/-! ### Writing -/

mutual

def Value.toFields : Value → Fields
  | .unset => []
  | .number x => [(1, .double x)]
  | .string s => [(2, .string s)]
  | .bool b => [(3, .bool b)]
  | .object fields => [(4, .message (Fields.map 1 (valueEntries fields)))]
  | .list elements kind =>
    [(5, .message (Fields.repeated 1 (valueMessages elements) ++ ListKind.toFields kind))]
  | .date s => [(6, .string s)]
  | .uuid s => [(7, .string s)]
  | .int n => [(8, .int64 n)]
  | .geo g => [(9, .message g.toFields)]
  | .blob s => [(10, .string s)]
  | .phone p => [(11, .message p.toFields)]
  | .null n => [(12, .int32 n)]
  | .text s => [(13, .string s)]

def ListKind.toFields : ListKind → Fields
  | .untyped => []
  | .numbers lanes => [(2, .message (Fields.plain 1 (.bytes lanes)))]
  | .bools values => [(3, .message (boolsToFields values))]
  | .objects values => [(4, .message (Fields.repeated 1 (objectMessages values)))]
  | .dates values => [(5, .message (textsToFields values))]
  | .uuids values => [(6, .message (textsToFields values))]
  | .ints lanes => [(7, .message (Fields.plain 1 (.bytes lanes)))]
  | .texts values => [(8, .message (textsToFields values))]

def valueEntries : List (String × Value) → List (String × Datum)
  | [] => []
  | (name, v) :: rest => (name, .message v.toFields) :: valueEntries rest

def valueMessages : List Value → List Datum
  | [] => []
  | v :: rest => .message v.toFields :: valueMessages rest

def objectMessages : List (List (String × Value)) → List Datum
  | [] => []
  | p :: rest => .message (Fields.map 1 (valueEntries p)) :: objectMessages rest

end

def Properties.toFields (p : Properties) : Fields := .map 1 (valueEntries p)

/-! ### Reading -/

mutual

def Value.ofField : Nat → Datum → Value
  | 1, .double x => .number x
  | 2, .string s => .string s
  | 3, .bool b => .bool b
  | 4, .message f => .object (propertiesOfFields f)
  | 5, .message f => .list (elementsOfFields f) (ListKind.ofFields f)
  | 6, .string s => .date s
  | 7, .string s => .uuid s
  | 8, .int64 n => .int n
  | 9, .message f => .geo (.ofFields f)
  | 10, .string s => .blob s
  | 11, .message f => .phone (.ofFields f)
  | 12, .int32 n => .null n
  | 13, .string s => .text s
  | _, _ => .unset

def Value.ofFields : List (Nat × Datum) → Value
  | [] => .unset
  | (tag, d) :: _ => Value.ofField tag d

def elementsOfFields : List (Nat × Datum) → List Value
  | (1, .list ds) :: _ => valuesOfMessages ds
  | _ => []

def ListKind.ofFields : List (Nat × Datum) → ListKind
  | [] => .untyped
  | (tag, d) :: rest => if tag = 1 then ListKind.ofFields rest else ListKind.ofField tag d

def ListKind.ofField : Nat → Datum → ListKind
  | 2, .message f => .numbers (Fields.bytes 1 f)
  | 3, .message f => .bools (boolsOfFields f)
  | 4, .message f => .objects (objectsOfFields f)
  | 5, .message f => .dates (Fields.strings 1 f)
  | 6, .message f => .uuids (Fields.strings 1 f)
  | 7, .message f => .ints (Fields.bytes 1 f)
  | 8, .message f => .texts (Fields.strings 1 f)
  | _, _ => .untyped

def propertiesOfFields : List (Nat × Datum) → List (String × Value)
  | (1, .map entries) :: _ => valuesOfEntries entries
  | _ => []

def objectsOfFields : List (Nat × Datum) → List (List (String × Value))
  | (1, .list ds) :: _ => objectsOfMessages ds
  | _ => []

def valuesOfEntries : List (String × Datum) → List (String × Value)
  | [] => []
  | (name, .message f) :: rest => (name, Value.ofFields f) :: valuesOfEntries rest
  | (_, _) :: rest => valuesOfEntries rest

def valuesOfMessages : List Datum → List Value
  | [] => []
  | .message f :: rest => Value.ofFields f :: valuesOfMessages rest
  | _ :: rest => valuesOfMessages rest

def objectsOfMessages : List Datum → List (List (String × Value))
  | [] => []
  | .message f :: rest => propertiesOfFields f :: objectsOfMessages rest
  | _ :: rest => objectsOfMessages rest

end

def Properties.ofFields (f : Fields) : Properties := propertiesOfFields f

end VectorClient.Wire
