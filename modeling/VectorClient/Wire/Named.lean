import VectorClient.Json.Exact
import VectorClient.Wire.Datum

/-!
# Named form of messages

A message as an object with the declared names of its fields as keys and exact values. Fields that
are not present are left out. The one present field of a group is nested in an object under the
name of the group.
-/

namespace VectorClient.Wire

open Json

/-! ### Writing -/

mutual

def Datum.toNamed (kind : Kind) : Datum → Json
  | .double x => Exact.double x
  | .float x => Exact.single x
  | .int32 n => .int n.toInt
  | .int64 n => Exact.integer n.toInt
  | .uint32 n => .int n.toNat
  | .uint64 n => Exact.integer n.toNat
  | .bool b => .bool b
  | .string s => .string s
  | .bytes b => Exact.bytes b
  | .list values => .array (namedItems kind values)
  | .map entries => .object (namedEntries kind entries)
  | .message fields =>
    match kind with
    | .message type => .object (namedFields type fields)
    | _ => .null

def namedItems (kind : Kind) : List Datum → List Json
  | [] => []
  | d :: rest => d.toNamed kind :: namedItems kind rest

def namedEntries (kind : Kind) : List (String × Datum) → List (String × Json)
  | [] => []
  | (key, d) :: rest => (key, d.toNamed kind) :: namedEntries kind rest

def namedFields (type : MessageType) : List (Nat × Datum) → List (String × Json)
  | [] => []
  | (tag, d) :: rest =>
    match type.field? tag with
    | none => namedFields type rest
    | some field =>
      let value := d.toNamed field.kind
      match field.rule with
      | .member group => (group, .object [(field.name, value)]) :: namedFields type rest
      | _ => (field.name, value) :: namedFields type rest

end

def toNamed (type : MessageType) (fields : Fields) : Json := .object (namedFields type fields)

/-! ### Reading -/

/-- A value of a kind that is no message. -/
def plainDatum? (kind : Kind) (j : Json) : Option Datum :=
  match kind with
  | .double => (Exact.double? j).map .double
  | .float => (Exact.single? j).map .float
  | .int32 => (Exact.int32? j).map .int32
  | .int64 => (Exact.int64? j).map .int64
  | .uint32 => (Exact.uint32? j).map .uint32
  | .uint64 => (Exact.uint64? j).map .uint64
  | .bool => (Exact.boolean? j).map .bool
  | .string => (Exact.text? j).map .string
  | .bytes => (Exact.bytes? j).map .bytes
  | .message _ => none

namespace MessageType

/-- The field outside of groups with a name. -/
def named? (type : MessageType) (name : String) : Option Field :=
  type.fields.find? fun f => f.name = name && match f.rule with
    | .member _ => false
    | _ => true

/-- The field of a group with a name. -/
def member? (type : MessageType) (group name : String) : Option Field :=
  type.fields.find? fun f => f.name = name && f.rule = .member group

end MessageType

/-- Puts the value of a field into a message by the rule of the field. -/
def Fields.set (field : Field) (value : Datum) (fields : Fields) : Fields :=
  match field.rule with
  | .plain => fields.putPlain field.tag value
  | .repeated | .map => if value.isDefault then fields else fields.put field.tag value
  | _ => fields.put field.tag value

mutual

def Datum.ofNamed? (kind : Kind) : Json → Option Datum
  | .object entries =>
    match kind with
    | .message type => (fieldsOfNamed? type entries).map .message
    | _ => none
  | j => plainDatum? kind j

def datumItems? (kind : Kind) : List Json → Option (List Datum)
  | [] => some []
  | j :: rest => do
    let d ← Datum.ofNamed? kind j
    let ds ← datumItems? kind rest
    return d :: ds

def datumEntries? (kind : Kind) : List (String × Json) → Option (List (String × Datum))
  | [] => some []
  | (key, j) :: rest => do
    let d ← Datum.ofNamed? kind j
    let ds ← datumEntries? kind rest
    return (key, d) :: ds

/-- The present fields of a message; null counts as absent. -/
def fieldsOfNamed? (type : MessageType) : List (String × Json) → Option (List (Nat × Datum))
  | [] => some []
  | (_, .null) :: rest => fieldsOfNamed? type rest
  | (name, j) :: rest => do
    let others ← fieldsOfNamed? type rest
    match type.named? name, j with
    | none, .object [(member, j)] =>
      let field ← type.member? name member
      let d ← Datum.ofNamed? field.kind j
      return Fields.set field d others
    | some field, .array items =>
      if field.rule = .repeated then
        let ds ← datumItems? field.kind items
        return Fields.set field (.list ds) others
      else none
    | some field, .object entries =>
      if field.rule = .map then
        let ds ← datumEntries? field.kind entries
        return Fields.set field (.map (KeyMap.ofList ds)) others
      else
        match field.kind with
        | .message inner =>
          let ds ← fieldsOfNamed? inner entries
          return Fields.set field (.message ds) others
        | _ => none
    | some field, j =>
      let d ← plainDatum? field.kind j
      return Fields.set field d others
    | none, _ => none

end

def ofNamed? (type : MessageType) : Json → Option Fields
  | .object entries => fieldsOfNamed? type entries
  | _ => none

end VectorClient.Wire
