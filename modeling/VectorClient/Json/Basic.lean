import VectorClient.KeyMap
import VectorClient.Number.Power
import VectorClient.Number.Single

/-!
# JSON values

Objects keep the order in which their entries were given. `normal` is the value itself: entries by
key, each key once, and numbers as whole numbers or doubles.
-/

namespace VectorClient

open Number

inductive Json
  | null
  | bool (b : Bool)
  | int (n : Int)
  | double (x : Double)
  /-- A number that is written with the digits of its own width. -/
  | single (x : Single)
  | string (s : String)
  | array (items : List Json)
  | object (entries : List (String × Json))
deriving Repr, BEq, Inhabited

namespace Json

/-- Whole numbers of 64 bits, with or without a sign. -/
def fitsWord (n : Int) : Bool := -(pow2 63 : Int) ≤ n && n < pow2 64

/-- A double, or null where there is no number. -/
def ofDouble (x : Double) : Json := if x.isFinite then .double x else .null

mutual

/-- The value of a document, unless a whole number has no 64-bit form. -/
def normal? : Json → Option Json
  | .null => some .null
  | .bool b => some (.bool b)
  | .int n => if fitsWord n then some (.int n) else none
  | .double x => some (ofDouble x)
  | .single x => some (ofDouble x.toDouble)
  | .string s => some (.string s)
  | .array items => (normalItems? items).map .array
  | .object entries => (normalEntries? entries).map fun es => .object (KeyMap.ofList es)

def normalItems? : List Json → Option (List Json)
  | [] => some []
  | j :: rest => do
    let v ← normal? j
    let vs ← normalItems? rest
    return v :: vs

def normalEntries? : List (String × Json) → Option (List (String × Json))
  | [] => some []
  | (key, j) :: rest => do
    let v ← normal? j
    let vs ← normalEntries? rest
    return (key, v) :: vs

end

def ofOption {α : Type} (f : α → Json) : Option α → Json
  | none => .null
  | some a => f a

def ofList {α : Type} (f : α → Json) (values : List α) : Json := .array (values.map f)

def ofMap {α : Type} (f : α → Json) (m : KeyMap α) : Json := .object (m.map fun (k, v) => (k, f v))

end Json

end VectorClient
