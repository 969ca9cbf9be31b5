/-!
# Maps with text keys

A map is its entries in ascending order of their keys. Code point order of keys is also the order
of their UTF-8 bytes.
-/

namespace VectorClient

abbrev KeyMap (α : Type) := List (String × α)

namespace KeyMap

variable {α : Type}

/-- Keys ascend strictly, so that each occurs once. -/
def Ordered (m : KeyMap α) : Prop := m.Pairwise fun a b => a.1 < b.1

/-- Puts an entry in its place, instead of one with the same key. -/
def insert (key : String) (value : α) : KeyMap α → KeyMap α
  | [] => [(key, value)]
  | (k, v) :: rest =>
    if key < k then (key, value) :: (k, v) :: rest
    else if key = k then (key, value) :: rest
    else (k, v) :: insert key value rest

def find? (key : String) : KeyMap α → Option α
  | [] => none
  | (k, v) :: rest => if k = key then some v else find? key rest

def contains (key : String) (m : KeyMap α) : Bool := (find? key m).isSome

def keys (m : KeyMap α) : List String := List.map Prod.fst m

def values (m : KeyMap α) : List α := List.map Prod.snd m

/-- Of entries with one key the last counts. -/
def ofList (entries : List (String × α)) : KeyMap α :=
  entries.foldl (fun m (k, v) => insert k v m) []

end KeyMap

end VectorClient
