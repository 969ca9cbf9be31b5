import VectorClient.Number.Power
import VectorClient.Wire.Datum

/-!
# Encoding messages

Fields are written in ascending order of their tags, each value behind a key that holds the tag
and the wire type. Repeated numbers are packed into one value.
-/

namespace VectorClient.Wire

open Number

inductive WireType
  | varint
  | fixed64
  | delimited
  | startGroup
  | endGroup
  | fixed32
deriving DecidableEq, Repr

namespace WireType

def number : WireType → Nat
  | .varint => 0
  | .fixed64 => 1
  | .delimited => 2
  | .startGroup => 3
  | .endGroup => 4
  | .fixed32 => 5

def ofNumber? : Nat → Option WireType
  | 0 => some .varint
  | 1 => some .fixed64
  | 2 => some .delimited
  | 3 => some .startGroup
  | 4 => some .endGroup
  | 5 => some .fixed32
  | _ => none

end WireType

namespace Kind

def wireType : Kind → WireType
  | .double => .fixed64
  | .float => .fixed32
  | .int32 | .int64 | .uint32 | .uint64 | .bool => .varint
  | .string | .bytes | .message _ => .delimited

/-- Repeated values of these kinds share one delimited value. -/
def isPacked (k : Kind) : Bool := k.wireType ≠ .delimited

end Kind

/-- Groups of seven bits, the lowest first; all but the last have the top bit set. -/
def varint (n : Nat) : Bytes :=
  if n < 128 then [UInt8.ofNat n] else UInt8.ofNat (n % 128 + 128) :: varint (n / 128)

/-- The lowest `count` bytes of a number, the lowest first. -/
def littleEndian : Nat → Nat → Bytes
  | 0, _ => []
  | count + 1, n => UInt8.ofNat (n % 256) :: littleEndian count (n / 256)

def utf8 (s : String) : Bytes := s.toByteArray.data.toList

def delimited (b : Bytes) : Bytes := varint b.length ++ b

def key (tag : Nat) (type : WireType) : Bytes := varint (8 * tag + type.number)

/-- Negative numbers are written as the 64-bit word with the same sign. -/
def signedVarint (n : Int) : Bytes := varint (n % (pow2 64 : Int)).toNat

mutual

def Datum.payload (kind : Kind) : Datum → Bytes
  | .double x => littleEndian 8 x.bits.toNat
  | .float x => littleEndian 4 x.bits.toNat
  | .int32 n => signedVarint n.toInt
  | .int64 n => signedVarint n.toInt
  | .uint32 n => varint n.toNat
  | .uint64 n => varint n.toNat
  | .bool b => varint b.toNat
  | .string s => delimited (utf8 s)
  | .bytes b => delimited b
  | .list _ => []
  | .map _ => []
  | .message fields =>
    match kind with
    | .message type => delimited (encodeFields type fields)
    | _ => []

def payloads (kind : Kind) : List Datum → Bytes
  | [] => []
  | d :: rest => d.payload kind ++ payloads kind rest

/-- Each value behind a key of its own. -/
def keyedPayloads (tag : Nat) (kind : Kind) : List Datum → Bytes
  | [] => []
  | d :: rest => key tag kind.wireType ++ d.payload kind ++ keyedPayloads tag kind rest

/-- Each entry is a message of a key and a value, in which defaults are left out. -/
def entryPayloads (tag : Nat) (kind : Kind) : List (String × Datum) → Bytes
  | [] => []
  | (k, d) :: rest =>
    let entryKey := if k = "" then [] else key 1 .delimited ++ delimited (utf8 k)
    let entryValue := if d.isOmitted then [] else key 2 kind.wireType ++ d.payload kind
    key tag .delimited ++ delimited (entryKey ++ entryValue) ++ entryPayloads tag kind rest

def Datum.encode (field : Field) : Datum → Bytes
  | .list values =>
    if field.kind.isPacked then
      key field.tag .delimited ++ delimited (payloads field.kind values)
    else
      keyedPayloads field.tag field.kind values
  | .map entries => entryPayloads field.tag field.kind entries
  | _ => []

/-- The declared fields of a message; a plain zero is left out whatever its sign. -/
def encodeFields (type : MessageType) : List (Nat × Datum) → Bytes
  | [] => []
  | (tag, d) :: rest =>
    (match type.field? tag with
      | none => []
      | some field =>
        match field.rule with
        | .plain => if d.isOmitted then [] else key tag field.kind.wireType ++ d.payload field.kind
        | .optional | .member _ => key tag field.kind.wireType ++ d.payload field.kind
        | .repeated | .map => d.encode field) ++
    encodeFields type rest

end

def encode (type : MessageType) (fields : Fields) : Bytes := encodeFields type fields

end VectorClient.Wire
