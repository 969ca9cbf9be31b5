import VectorClient.Date.Basic
import VectorClient.Json.Basic
import VectorClient.Number.Power
import VectorClient.Text.Hex
import VectorClient.Text.Integer
import VectorClient.Uuid

/-!
# Exact forms

A number in a JSON text may lose bits on its way through a reader. The exact forms are texts that
keep them: a float is the digits of its bits in base 16, a number of 64 bits is its decimal digits,
and bytes are their digits in base 16.
-/

namespace VectorClient.Json.Exact

open Number

/-- The digits of a number in base 16, at least `width` of them. -/
def hexText (width n : Nat) : String :=
  let digits := Text.hexNumber n
  String.ofList (List.replicate (width - digits.length) '0' ++ digits)

def bigEndian (b : List UInt8) : Nat := b.foldl (fun n x => n * 256 + x.toNat) 0

def text? : Json → Option String
  | .string s => some s
  | _ => none

def boolean? : Json → Option Bool
  | .bool b => some b
  | _ => none

def bytes (b : List UInt8) : Json := .string (String.ofList (Text.hexBytes b))

def bytes? (j : Json) : Option (List UInt8) := (text? j).bind fun s => Text.readHexBytes? s.toList

def single (x : Single) : Json := .string (hexText 8 x.bits.toNat)

def single? (j : Json) : Option Single := do
  let b ← bytes? j
  if b.length = 4 then return ⟨UInt32.ofNat (bigEndian b)⟩ else none

def double (x : Double) : Json := .string (hexText 16 x.bits.toNat)

def double? (j : Json) : Option Double := do
  let b ← bytes? j
  if b.length = 8 then return ⟨UInt64.ofNat (bigEndian b)⟩ else none

def integer (n : Int) : Json := .string (toString n)

/-- A whole number as decimal text or as it is; `limit` is the greatest. -/
def integer? (limit : Nat) : Json → Option Int
  | .int n => if -limit - 1 ≤ n ∧ n ≤ limit then some n else none
  | .string s =>
    match Text.readSigned limit s.toList with
    | .ok n => some n
    | .error _ => none
  | _ => none

def int32? (j : Json) : Option Int32 := (integer? (pow2 31 - 1) j).map Int32.ofInt

def int64? (j : Json) : Option Int64 := (integer? (pow2 63 - 1) j).map Int64.ofInt

def natural? (limit : Nat) (j : Json) : Option Nat := do
  let n ← integer? limit j
  if 0 ≤ n then return n.toNat else none

def uint32? (j : Json) : Option UInt32 := (natural? (UInt32.size - 1) j).map UInt32.ofNat

def uint64? (j : Json) : Option UInt64 := (natural? (UInt64.size - 1) j).map UInt64.ofNat

def uuid (id : Uuid) : Json := .string id.text

def uuid? (j : Json) : Option Uuid := (text? j).bind Uuid.read?

/-! ### Lists and objects -/

def list? {α : Type} (item? : Json → Option α) : Json → Option (List α)
  | .array items => items.mapM item?
  | _ => none

def entries? : Json → Option (List (String × Json))
  | .object entries => some entries
  | _ => none

def map? {α : Type} (value? : Json → Option α) (j : Json) : Option (KeyMap α) := do
  let entries ← entries? j
  let values ← entries.mapM fun (key, v) => (value? v).map (key, ·)
  return .ofList values

def onlyMember? : Json → Option (String × Json)
  | .object [entry] => some entry
  | _ => none

/-- The value of an entry that is neither absent nor null. -/
def present? (key : String) (j : Json) : Option Json :=
  match (entries? j).bind (List.lookup key) with
  | some .null => none
  | value => value

def required {α : Type} (value? : Json → Option α) (key : String) (j : Json) : Option α :=
  (present? key j).bind value?

def optional {α : Type} (value? : Json → Option α) (key : String) (j : Json) :
    Option (Option α) :=
  match present? key j with
  | none => some none
  | some v => (value? v).map some

/-- An object of the entries that are present. -/
def record (entries : List (String × Option Json)) : Json :=
  .object (entries.filterMap fun (key, value) => value.map (key, ·))

def date (d : Date) : Json := .object [("secs", integer d.seconds), ("nanos", .int d.nanos)]

def date? (j : Json) : Option Date := do
  let seconds ← required int64? "secs" j
  let nanos ← required uint32? "nanos" j
  Date.ofParts? seconds.toInt nanos.toNat

end VectorClient.Json.Exact
