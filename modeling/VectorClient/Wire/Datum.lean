import VectorClient.KeyMap
import VectorClient.Number.Single
import VectorClient.Wire.Schema

/-!
# Message contents

The contents of a message are its present fields in ascending order of their tags, each once:
repeated values are gathered in a list, map entries in a map. Plain fields that hold their default
are not present.
-/

namespace VectorClient.Wire

open Number

abbrev Bytes := List UInt8

inductive Datum
  | double (x : Double)
  | float (x : Single)
  | int32 (n : Int32)
  | int64 (n : Int64)
  | uint32 (n : UInt32)
  | uint64 (n : UInt64)
  | bool (b : Bool)
  | string (s : String)
  | bytes (b : Bytes)
  | list (values : List Datum)
  | map (entries : List (String × Datum))
  | message (fields : List (Nat × Datum))
deriving Repr, BEq, Inhabited

abbrev Fields := List (Nat × Datum)

namespace Datum

def default : Kind → Datum
  | .double => .double .zero
  | .float => .float .zero
  | .int32 => .int32 0
  | .int64 => .int64 0
  | .uint32 => .uint32 0
  | .uint64 => .uint64 0
  | .bool => .bool false
  | .string => .string ""
  | .bytes => .bytes []
  | .message _ => .message []

/-- Whether a plain field with this value is absent; a zero with a sign is present. -/
def isDefault : Datum → Bool
  | .double x => x.bits = 0
  | .float x => x.bits = 0
  | .int32 n => n = 0
  | .int64 n => n = 0
  | .uint32 n => n = 0
  | .uint64 n => n = 0
  | .bool b => !b
  | .string s => s = ""
  | .bytes b => b = []
  | .list values => values.isEmpty
  | .map entries => entries.isEmpty
  | .message fields => fields.isEmpty

/-- Whether the encoding leaves the value out where defaults are left out: zeros of both signs. -/
def isOmitted : Datum → Bool
  | .double x => x.isZero
  | .float x => x.isZero
  | d => d.isDefault

end Datum

namespace Fields

/-- Puts a field in its place, instead of one with the same tag. -/
def put (tag : Nat) (value : Datum) : Fields → Fields
  | [] => [(tag, value)]
  | (t, v) :: rest =>
    if tag < t then (tag, value) :: (t, v) :: rest
    else if tag = t then (tag, value) :: rest
    else (t, v) :: put tag value rest

def get? (tag : Nat) : Fields → Option Datum
  | [] => none
  | (t, v) :: rest => if t = tag then some v else get? tag rest

def remove (tags : List Nat) (fields : Fields) : Fields := fields.filter fun (t, _) => t ∉ tags

/-- A plain field: its default is the same as absence. -/
def putPlain (tag : Nat) (value : Datum) (fields : Fields) : Fields :=
  if value.isDefault then remove [tag] fields else put tag value fields

/-! ### Reading fields of a known kind -/

def double? (tag : Nat) (f : Fields) : Option Double :=
  match f.get? tag with
  | some (.double x) => some x
  | _ => none

def float? (tag : Nat) (f : Fields) : Option Single :=
  match f.get? tag with
  | some (.float x) => some x
  | _ => none

def int32? (tag : Nat) (f : Fields) : Option Int32 :=
  match f.get? tag with
  | some (.int32 n) => some n
  | _ => none

def int64? (tag : Nat) (f : Fields) : Option Int64 :=
  match f.get? tag with
  | some (.int64 n) => some n
  | _ => none

def uint64? (tag : Nat) (f : Fields) : Option UInt64 :=
  match f.get? tag with
  | some (.uint64 n) => some n
  | _ => none

def bool? (tag : Nat) (f : Fields) : Option Bool :=
  match f.get? tag with
  | some (.bool b) => some b
  | _ => none

def string? (tag : Nat) (f : Fields) : Option String :=
  match f.get? tag with
  | some (.string s) => some s
  | _ => none

def bytes? (tag : Nat) (f : Fields) : Option Bytes :=
  match f.get? tag with
  | some (.bytes b) => some b
  | _ => none

def message? (tag : Nat) (f : Fields) : Option Fields :=
  match f.get? tag with
  | some (.message m) => some m
  | _ => none

def double (tag : Nat) (f : Fields) : Double := (f.double? tag).getD .zero
def float (tag : Nat) (f : Fields) : Single := (f.float? tag).getD .zero
def int32 (tag : Nat) (f : Fields) : Int32 := (f.int32? tag).getD 0
def int64 (tag : Nat) (f : Fields) : Int64 := (f.int64? tag).getD 0
def uint64 (tag : Nat) (f : Fields) : UInt64 := (f.uint64? tag).getD 0
def bool (tag : Nat) (f : Fields) : Bool := (f.bool? tag).getD false
def string (tag : Nat) (f : Fields) : String := (f.string? tag).getD ""
def bytes (tag : Nat) (f : Fields) : Bytes := (f.bytes? tag).getD []

def list (tag : Nat) (f : Fields) : List Datum :=
  match f.get? tag with
  | some (.list values) => values
  | _ => []

def strings (tag : Nat) (f : Fields) : List String :=
  (f.list tag).filterMap fun
    | .string s => some s
    | _ => none

def floats (tag : Nat) (f : Fields) : List Single :=
  (f.list tag).filterMap fun
    | .float x => some x
    | _ => none

def messages (tag : Nat) (f : Fields) : List Fields :=
  (f.list tag).filterMap fun
    | .message m => some m
    | _ => none

/-! ### Writing fields -/

def plain (tag : Nat) (value : Datum) : Fields := if value.isDefault then [] else [(tag, value)]

def optional (tag : Nat) (value : Option Datum) : Fields :=
  match value with
  | none => []
  | some v => [(tag, v)]

def repeated (tag : Nat) (values : List Datum) : Fields :=
  match values with
  | [] => []
  | values => [(tag, .list values)]

def map (tag : Nat) (entries : List (String × Datum)) : Fields :=
  match entries with
  | [] => []
  | entries => [(tag, .map entries)]

end Fields

end VectorClient.Wire
