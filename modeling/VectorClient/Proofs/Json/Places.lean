import VectorClient.Proofs.Json.Value

/-!
# What stands where in a document

A path of keys and indices leads to at most one value of a document. Two documents are the same by
value when only the form of their numbers differs.
-/

namespace VectorClient

open Number

namespace Json

/-! ### Paths -/

inductive Place
  | key (name : String)
  | index (i : Nat)
deriving DecidableEq, Repr

def part? : Place → Json → Option Json
  | .key name, .object entries => KeyMap.find? name entries
  | .index i, .array items => items[i]?
  | _, _ => none

def at? : List Place → Json → Option Json
  | [], v => some v
  | place :: rest, v => (v.part? place).bind (at? rest)

theorem mem_parts_of_part? {v w : Json} {place : Place} (found : v.part? place = some w) :
    w ∈ v.parts := by
  unfold part? at found
  split at found
  · exact List.mem_map_of_mem (KeyMap.mem_of_find? found)
  · exact List.mem_of_getElem? found
  · cases found

theorem IsValue.exists_part? {v w : Json} (value : v.IsValue) (part : w ∈ v.parts) :
    ∃ place, v.part? place = some w := by
  cases value with
  | array =>
    obtain ⟨i, found⟩ := List.mem_iff_getElem?.mp part
    exact ⟨.index i, found⟩
  | object ordered =>
    obtain ⟨e, member, rfl⟩ := List.mem_map.mp part
    exact ⟨.key e.1, KeyMap.Ordered.find?_of_mem ordered member⟩
  | _ => cases part

theorem IsValue.inside {v w : Json} (value : v.IsValue) (path : List Place) :
    v.at? path = some w → w.IsValue := by
  induction path generalizing v with
  | nil => exact fun found => Option.some.inj found ▸ value
  | cons place rest ih =>
    intro found
    obtain ⟨p, part, inside⟩ := Option.bind_eq_some_iff.mp found
    exact ih (value.part (mem_parts_of_part? part)) inside

section Everywhere

variable {P : Json → Prop} {v : Json}

theorem everywhere_of_parts (here : P v)
    (parts : ∀ p ∈ v.parts, ∀ path w, p.at? path = some w → P w) :
    ∀ path w, v.at? path = some w → P w := by
  intro path w found
  cases path with
  | nil => exact Option.some.inj found ▸ here
  | cons place rest =>
    obtain ⟨p, part, inside⟩ := Option.bind_eq_some_iff.mp found
    exact parts p (mem_parts_of_part? part) rest w inside

theorem IsValue.everywhere_part (value : v.IsValue)
    (everywhere : ∀ path w, v.at? path = some w → P w) :
    ∀ p ∈ v.parts, ∀ path w, p.at? path = some w → P w := by
  intro p part path w found
  obtain ⟨place, here⟩ := value.exists_part? part
  exact everywhere (place :: path) w (by rw [at?, here]; exact found)

theorem IsValue.everywhere_iff (value : v.IsValue) :
    (∀ path w, v.at? path = some w → P w) ↔
      P v ∧ ∀ p ∈ v.parts, ∀ path w, p.at? path = some w → P w :=
  ⟨fun everywhere => ⟨everywhere [] v rfl, value.everywhere_part everywhere⟩,
    fun both => everywhere_of_parts both.1 both.2⟩

end Everywhere

/-! ### Lists of one kind -/

inductive ItemKind
  | text
  | boolean
  | number
  | object
deriving DecidableEq, Repr

/-- The kind of an item of a list; neither a null nor a list is an item. -/
def itemKind? : Json → Option ItemKind
  | .string _ => some .text
  | .bool _ => some .boolean
  | .int _ | .double _ | .single _ => some .number
  | .object _ => some .object
  | .null | .array _ => none

def Homogeneous (items : List Json) : Prop :=
  ∃ kind, ∀ item ∈ items, item.itemKind? = some kind

/-! ### Documents without nulls -/

def isNull : Json → Bool
  | .null => true
  | _ => false

mutual

/-- The document without the entries of its objects that are null. -/
def withoutNulls : Json → Json
  | .array items => .array (itemsWithoutNulls items)
  | .object entries => .object (entriesWithoutNulls entries)
  | .null => .null
  | .bool b => .bool b
  | .int n => .int n
  | .double x => .double x
  | .single x => .single x
  | .string s => .string s

def itemsWithoutNulls : List Json → List Json
  | [] => []
  | item :: rest => withoutNulls item :: itemsWithoutNulls rest

def entriesWithoutNulls : List (String × Json) → List (String × Json)
  | [] => []
  | (key, v) :: rest =>
    if v.isNull then entriesWithoutNulls rest
    else (key, withoutNulls v) :: entriesWithoutNulls rest

end

/-! ### Equality by value -/

/-- The exact value of a number, in units of a double. -/
def value? : Json → Option Int
  | .int n => some (n * Format.double.one)
  | .double x => x.value?
  | .single x => x.toDouble.value?
  | _ => none

inductive Same : Json → Json → Prop
  | null : Same .null .null
  | bool (b : Bool) : Same (.bool b) (.bool b)
  | string (s : String) : Same (.string s) (.string s)
  | number {v w : Json} {u : Int} (left : v.value? = some u) (right : w.value? = some u) : Same v w
  | array {items others : List Json} (each : List.Forall₂ Same items others) :
      Same (.array items) (.array others)
  | object {entries others : KeyMap Json} (keys : entries.keys = others.keys)
      (each : List.Forall₂ Same entries.values others.values) :
      Same (.object entries) (.object others)

end Json

end VectorClient
