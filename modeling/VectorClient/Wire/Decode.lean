import VectorClient.Wire.Encode

/-!
# Decoding messages

`decode` reads the fields of a message in any order into its contents: the last plain value wins,
messages merge, lists grow. Fields that are not declared are skipped. It fails on bytes that are
not well formed, on a declared field of another wire type, on text that is not UTF-8, and where
messages nest deeper than `maxLevels`.
-/

namespace VectorClient.Wire

open Number

/-! ### Reading from the front -/

/-- The number in at most `groups` groups; the tenth one holds the last of 64 bits. -/
def readVarintGroups : Nat → Bytes → Option (Nat × Bytes)
  | _, [] => none
  | 0, _ :: _ => none
  | groups + 1, b :: rest =>
    if b.toNat < 128 then
      if groups = 0 ∧ 2 ≤ b.toNat then none else some (b.toNat, rest)
    else do
      let (n, rest) ← readVarintGroups groups rest
      return (b.toNat - 128 + 128 * n, rest)

def readVarint (b : Bytes) : Option (Nat × Bytes) := readVarintGroups 10 b

def takeBytes? (count : Nat) (b : Bytes) : Option (Bytes × Bytes) :=
  let taken := b.take count
  if taken.length = count then some (taken, b.drop count) else none

def ofLittleEndian : Bytes → Nat
  | [] => 0
  | b :: rest => b.toNat + 256 * ofLittleEndian rest

def readDelimited (b : Bytes) : Option (Bytes × Bytes) := do
  let (length, rest) ← readVarint b
  takeBytes? length rest

/-- A tag and a wire type; a key fits 32 bits and no field has the tag 0. -/
def readKey (b : Bytes) : Option (Nat × WireType × Bytes) := do
  let (key, rest) ← readVarint b
  if UInt32.size ≤ key then none
  let type ← WireType.ofNumber? (key % 8)
  let tag := key / 8
  if tag = 0 then none
  return (tag, type, rest)

def ofUtf8? (b : Bytes) : Option String := String.fromUTF8? ⟨b.toArray⟩

/-- A single value that is not a message; words keep the low bits that they have room for. -/
def readScalar (kind : Kind) (b : Bytes) : Option (Datum × Bytes) :=
  match kind with
  | .double => (takeBytes? 8 b).map fun (x, rest) =>
    (.double ⟨UInt64.ofNat (ofLittleEndian x)⟩, rest)
  | .float => (takeBytes? 4 b).map fun (x, rest) =>
    (.float ⟨UInt32.ofNat (ofLittleEndian x)⟩, rest)
  | .int32 => (readVarint b).map fun (n, rest) => (.int32 (Int32.ofInt n), rest)
  | .int64 => (readVarint b).map fun (n, rest) => (.int64 (Int64.ofInt n), rest)
  | .uint32 => (readVarint b).map fun (n, rest) => (.uint32 (UInt32.ofNat n), rest)
  | .uint64 => (readVarint b).map fun (n, rest) => (.uint64 (UInt64.ofNat n), rest)
  | .bool => (readVarint b).map fun (n, rest) => (.bool (n ≠ 0), rest)
  | .string => do
    let (x, rest) ← readDelimited b
    let s ← ofUtf8? x
    return (.string s, rest)
  | .bytes => (readDelimited b).map fun (x, rest) => (.bytes x, rest)
  | .message _ => none

/-- Values without keys up to the end; `fuel` bounds their number. -/
def readPacked (kind : Kind) : Nat → Bytes → Option (List Datum)
  | _, [] => some []
  | 0, _ :: _ => none
  | fuel + 1, b => do
    let (d, rest) ← readScalar kind b
    let ds ← readPacked kind fuel rest
    return d :: ds

/-! ### Skipping -/

/-- Passes over the value of a field that is not declared. A group ends at the key with its own
tag; each group inside it takes one of `levels`. `fuel` bounds the number of keys. -/
def skipValue : Nat → Nat → Nat → WireType → Bytes → Option Bytes
  | _, 0, _, _, _ => none
  | 0, _, _, _, _ => none
  | fuel + 1, levels + 1, tag, type, b =>
    match type with
    | .varint => (readVarint b).map Prod.snd
    | .fixed64 => (takeBytes? 8 b).map Prod.snd
    | .fixed32 => (takeBytes? 4 b).map Prod.snd
    | .delimited => (readDelimited b).map Prod.snd
    | .endGroup => none
    | .startGroup => do
      let (innerTag, innerType, rest) ← readKey b
      if innerType = .endGroup then
        if innerTag = tag then some rest else none
      else
        let rest ← skipValue fuel levels innerTag innerType rest
        skipValue fuel (levels + 1) tag .startGroup rest

/-! ### Fields -/

/-- Reads the contents of a message on top of the contents that it already has. -/
abbrev Reader := MessageType → Fields → Bytes → Option Fields

/-- How values are read at one level of nesting. -/
structure Level where
  /-- Levels below this one. -/
  remaining : Nat
  inner : Reader
  /-- Reads a message that is the value of a map entry. -/
  innerEntry : Reader

namespace Level

def skip (l : Level) (tag : Nat) (type : WireType) (b : Bytes) : Option Bytes :=
  skipValue (b.length + 1) l.remaining tag type b

/-- A value of a declared kind; a message starts from the contents `old`. -/
def readValue (read : Reader) (kind : Kind) (old : Option Datum) (type : WireType) (b : Bytes) :
    Option (Datum × Bytes) := do
  if type ≠ kind.wireType then none
  match kind with
  | .message m =>
    let (content, rest) ← readDelimited b
    let start := match old with
      | some (.message fields) => fields
      | _ => []
    let fields ← read m start content
    return (.message fields, rest)
  | kind => readScalar kind b

/-- A map entry: a key and a value in any order, each with a default. -/
def readEntry (l : Level) (kind : Kind) :
    Nat → Bytes → String × Datum → Option (String × Datum)
  | _, [], entry => some entry
  | 0, _ :: _, _ => none
  | fuel + 1, b, (k, d) => do
    let (tag, type, rest) ← readKey b
    if tag = 1 then
      match ← readValue l.innerEntry .string none type rest with
      | (.string k, rest) => readEntry l kind fuel rest (k, d)
      | _ => none
    else if tag = 2 then
      let (d, rest) ← readValue l.innerEntry kind (some d) type rest
      readEntry l kind fuel rest (k, d)
    else
      let rest ← skipValue (rest.length + 1) (l.remaining - 1) tag type rest
      readEntry l kind fuel rest (k, d)

/-- The other fields of the group that a member belongs to. -/
def rivals (type : MessageType) (group : String) (tag : Nat) : List Nat :=
  (type.fields.filter fun f => f.rule = .member group && f.tag ≠ tag).map Field.tag

def readField (l : Level) (m : MessageType) (field : Field) (type : WireType) (b : Bytes)
    (state : Fields) : Option (Fields × Bytes) :=
  let old := state.get? field.tag
  match field.rule with
  | .plain => do
    let (d, rest) ← readValue l.inner field.kind none type b
    return (state.putPlain field.tag d, rest)
  | .optional => do
    let (d, rest) ← readValue l.inner field.kind old type b
    return (state.put field.tag d, rest)
  | .member group => do
    let (d, rest) ← readValue l.inner field.kind old type b
    return ((state.remove (rivals m group field.tag)).put field.tag d, rest)
  | .repeated => do
    let (ds, rest) ←
      if field.kind.isPacked && type = .delimited then do
        let (content, rest) ← readDelimited b
        let ds ← readPacked field.kind content.length content
        pure (ds, rest)
      else do
        let (d, rest) ← readValue l.inner field.kind none type b
        pure ([d], rest)
    let values := state.list field.tag ++ ds
    return (if values.isEmpty then state else state.put field.tag (.list values), rest)
  | .map => do
    if l.remaining = 0 then none
    let (content, rest) ← readDelimited b
    let (k, d) ← readEntry l field.kind content.length content ("", .default field.kind)
    let entries := match old with
      | some (.map entries) => entries
      | _ => []
    return (state.put field.tag (.map (KeyMap.insert k d entries)), rest)

/-- Reads fields up to the end; `fuel` bounds their number. -/
def readFields (l : Level) (m : MessageType) : Nat → Bytes → Fields → Option Fields
  | _, [], state => some state
  | 0, _ :: _, _ => none
  | fuel + 1, b, state => do
    let (tag, type, rest) ← readKey b
    match m.field? tag with
    | some field =>
      let (state, rest) ← l.readField m field type rest state
      readFields l m fuel rest state
    | none =>
      let rest ← l.skip tag type rest
      readFields l m fuel rest state

def reader (l : Level) : Reader := fun m state b => l.readFields m b.length b state

end Level

def readerAt : Nat → Reader
  | 0 => Level.reader ⟨0, fun _ _ _ => none, fun _ _ _ => none⟩
  | 1 => Level.reader ⟨1, readerAt 0, fun _ _ _ => none⟩
  | levels + 2 => Level.reader ⟨levels + 2, readerAt (levels + 1), readerAt levels⟩

def maxLevels : Nat := 100

def decode (type : MessageType) (b : Bytes) : Option Fields := readerAt maxLevels type [] b

end VectorClient.Wire
