import VectorClient.Json.Basic
import VectorClient.Number.Power

/-!
# Documents to read

A `Source` is what a JSON text says before anything asks for it. A number out of range or a text
with half a surrogate pair has no value, which matters only to who reads it. Decoders take a
source apart; records are read from objects and from lists of their fields in order.
-/

namespace VectorClient.Json

open Number

inductive Source
  | null
  | bool (b : Bool)
  | int (n : Int)
  | double (x : Double)
  | noNumber
  | string (s : String)
  | noString
  | array (items : List Source)
  /-- An entry without a key has a key without a value. -/
  | object (entries : List (Option String × Source))
deriving Repr, Inhabited

mutual

def Source.ofJson : Json → Source
  | .null => .null
  | .bool b => .bool b
  | .int n => .int n
  | .double x => .double x
  | .single x => .double x.toDouble
  | .string s => .string s
  | .array items => .array (sourcesOf items)
  | .object entries => .object (sourceEntries entries)

def sourcesOf : List Json → List Source
  | [] => []
  | j :: rest => Source.ofJson j :: sourcesOf rest

def sourceEntries : List (String × Json) → List (Option String × Source)
  | [] => []
  | (key, j) :: rest => (some key, Source.ofJson j) :: sourceEntries rest

end

abbrev Decoder (α : Type) := Source → Option α

mutual

def Source.json? : Source → Option Json
  | .null => some .null
  | .bool b => some (.bool b)
  | .int n => some (.int n)
  | .double x => some (.double x)
  | .noNumber => none
  | .string s => some (.string s)
  | .noString => none
  | .array items => (itemsJson? items).map .array
  | .object entries => (entriesJson? entries).map .object

def itemsJson? : List Source → Option (List Json)
  | [] => some []
  | s :: rest => do
    let j ← s.json?
    let js ← itemsJson? rest
    return j :: js

def entriesJson? : List (Option String × Source) → Option (List (String × Json))
  | [] => some []
  | (key, s) :: rest => do
    let key ← key
    let j ← s.json?
    let js ← entriesJson? rest
    return (key, j) :: js

end

namespace Source

def bool? : Decoder Bool
  | .bool b => some b
  | _ => none

def string? : Decoder String
  | .string s => some s
  | _ => none

/-- A whole number in a range; one with a point is none. -/
def intIn? (low high : Int) : Decoder Int
  | .int n => if low ≤ n ∧ n ≤ high then some n else none
  | _ => none

def int64? : Decoder Int64 := fun s =>
  (s.intIn? (-(pow2 63 : Int)) (pow2 63 - 1)).map Int64.ofInt

def uint64? : Decoder UInt64 := fun s =>
  (s.intIn? 0 (pow2 64 - 1)).map fun n => UInt64.ofNat n.toNat

def uint32? : Decoder UInt32 := fun s =>
  (s.intIn? 0 (pow2 32 - 1)).map fun n => UInt32.ofNat n.toNat

def double? : Decoder Double
  | .int n => some (.ofInt n)
  | .double x => some x
  | _ => none

def single? : Decoder Single
  | .int n => some (.ofInt n)
  | .double x => some (.ofDouble x)
  | _ => none

def list? {α : Type} (item : Decoder α) : Decoder (List α)
  | .array items => items.mapM item
  | _ => none

/-- A map; of entries with one key the last counts. -/
def map? {α : Type} (value : Decoder α) : Decoder (KeyMap α)
  | .object entries =>
    (entries.mapM fun (e : Option String × Source) => do
      let k ← e.1
      let v ← value e.2
      return (k, v)).map KeyMap.ofList
  | _ => none

/-! ### Records -/

def lookup (entries : List (Option String × Source)) (key : String) : Option Source :=
  (entries.find? (·.1 = some key)).map Prod.snd

/-- The fields of a record, each absent or present once; other entries do not count. -/
def fields? (names : List String) : Source → Option (List (Option Source))
  | .array items => if items.length = names.length then some (items.map some) else none
  | .object entries =>
    if entries.all (·.1.isSome) &&
        names.all fun name => entries.countP (·.1 = some name) ≤ 1 then
      some (names.map (lookup entries))
    else
      none
  | _ => none

def required {α : Type} (d : Decoder α) : Option Source → Option α
  | none => none
  | some s => d s

/-- Null counts as absent. -/
def optional {α : Type} (d : Decoder α) : Option Source → Option (Option α)
  | none => some none
  | some .null => some none
  | some s => (d s).map some

/-! ### Alternatives -/

/-- The name of an alternative and its value: a text, or an object with a single entry. -/
def variant? : Source → Option (String × Option Source)
  | .string name => some (name, none)
  | .object [(some name, s)] => some (name, some s)
  | _ => none

/-- Whether the value of an alternative is that of one without a value. -/
def isUnit : Option Source → Bool
  | none => true
  | some .null => true
  | _ => false

end Source

end VectorClient.Json
