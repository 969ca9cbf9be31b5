import VectorClient.Json.Source
import VectorClient.Proofs.KeyMap
import VectorClient.Proofs.Number.Exact

/-!
# Values of documents

A normal form is a value: its numbers are whole or doubles, and its objects have each key once, in
order. A value is its own normal form, and it is what is read back of it.
-/

namespace VectorClient

open Number

namespace Json

/-! ### Values and their parts -/

inductive IsValue : Json → Prop
  | null : IsValue .null
  | bool (b : Bool) : IsValue (.bool b)
  | int {n : Int} (fits : fitsWord n = true) : IsValue (.int n)
  | double {x : Double} (finite : x.isFinite = true) : IsValue (.double x)
  | string (s : String) : IsValue (.string s)
  | array {items : List Json} (each : ∀ item ∈ items, IsValue item) : IsValue (.array items)
  | object {entries : KeyMap Json} (ordered : entries.Ordered)
      (each : ∀ e ∈ entries, IsValue e.2) : IsValue (.object entries)

def parts : Json → List Json
  | .array items => items
  | .object entries => entries.map (·.2)
  | _ => []

theorem sizeOf_part {v w : Json} (part : w ∈ v.parts) : sizeOf w < sizeOf v := by
  unfold parts at part
  split at part
  · have inside := List.sizeOf_lt_of_mem part
    simp only [array.sizeOf_spec]
    omega
  · obtain ⟨e, member, rfl⟩ := List.mem_map.mp part
    have inside := List.sizeOf_lt_of_mem member
    have whole : sizeOf e = 1 + sizeOf e.1 + sizeOf e.2 := rfl
    simp only [object.sizeOf_spec]
    omega
  · cases part

theorem inductionOnParts {P : Json → Prop} (step : ∀ v : Json, (∀ w ∈ v.parts, P w) → P v)
    (v : Json) : P v := by
  refine step v fun w part => ?_
  have smaller := sizeOf_part part
  exact inductionOnParts step w
termination_by sizeOf v

theorem IsValue.part {v w : Json} (value : v.IsValue) (part : w ∈ v.parts) : w.IsValue := by
  cases value with
  | array each => exact each w part
  | object _ each =>
    obtain ⟨e, member, rfl⟩ := List.mem_map.mp part
    exact each e member
  | _ => cases part

/-! ### Normal forms -/

theorem isValue_ofDouble (x : Double) : (ofDouble x).IsValue := by
  unfold ofDouble
  split
  · rename_i finite
    exact .double finite
  · exact .null

theorem normalItems?_some {items values : List Json} (normal : normalItems? items = some values) :
    ∀ v ∈ values, ∃ j ∈ items, j.normal? = some v := by
  induction items generalizing values with
  | nil =>
    obtain rfl := Option.some.inj normal
    exact nofun
  | cons j rest ih =>
    obtain ⟨v, first, others⟩ := Option.bind_eq_some_iff.mp normal
    obtain ⟨vs, later, same⟩ := Option.bind_eq_some_iff.mp others
    obtain rfl := Option.some.inj same
    refine List.forall_mem_cons.mpr ⟨⟨j, List.mem_cons_self, first⟩, fun w member => ?_⟩
    obtain ⟨j', listed, read⟩ := ih later w member
    exact ⟨j', List.mem_cons_of_mem _ listed, read⟩

theorem normalEntries?_some {entries values : List (String × Json)}
    (normal : normalEntries? entries = some values) :
    ∀ f ∈ values, ∃ e ∈ entries, e.2.normal? = some f.2 := by
  induction entries generalizing values with
  | nil =>
    obtain rfl := Option.some.inj normal
    exact nofun
  | cons e rest ih =>
    obtain ⟨v, first, others⟩ := Option.bind_eq_some_iff.mp normal
    obtain ⟨vs, later, same⟩ := Option.bind_eq_some_iff.mp others
    obtain rfl := Option.some.inj same
    refine List.forall_mem_cons.mpr ⟨⟨e, List.mem_cons_self, first⟩, fun f member => ?_⟩
    obtain ⟨e', listed, read⟩ := ih later f member
    exact ⟨e', List.mem_cons_of_mem _ listed, read⟩

theorem isValue_of_normal? (j : Json) : ∀ {v : Json}, j.normal? = some v → v.IsValue := by
  induction j using inductionOnParts with
  | step j ih =>
    intro v normal
    cases j with
    | null => exact Option.some.inj normal ▸ .null
    | bool b => exact Option.some.inj normal ▸ .bool b
    | string s => exact Option.some.inj normal ▸ .string s
    | double x => exact Option.some.inj normal ▸ isValue_ofDouble x
    | single x => exact Option.some.inj normal ▸ isValue_ofDouble x.toDouble
    | int n =>
      unfold normal? at normal
      split at normal
      · rename_i fits
        exact Option.some.inj normal ▸ .int fits
      · cases normal
    | array items =>
      obtain ⟨values, read, rfl⟩ := Option.map_eq_some_iff.mp normal
      refine .array fun w member => ?_
      obtain ⟨item, listed, read_item⟩ := normalItems?_some read w member
      exact ih item listed read_item
    | object entries =>
      obtain ⟨values, read, rfl⟩ := Option.map_eq_some_iff.mp normal
      refine .object (KeyMap.ordered_ofList values) fun f member => ?_
      obtain ⟨e, listed, read_e⟩ := normalEntries?_some read f (KeyMap.mem_of_mem_ofList f member)
      exact ih e.2 (List.mem_map_of_mem listed) read_e

theorem normalItems?_eq {items : List Json} (each : ∀ item ∈ items, item.normal? = some item) :
    normalItems? items = some items := by
  induction items with
  | nil => rfl
  | cons item rest ih =>
    obtain ⟨first, others⟩ := List.forall_mem_cons.mp each
    rw [normalItems?, first, ih others]
    rfl

theorem normalEntries?_eq {entries : List (String × Json)}
    (each : ∀ e ∈ entries, e.2.normal? = some e.2) : normalEntries? entries = some entries := by
  induction entries with
  | nil => rfl
  | cons e rest ih =>
    obtain ⟨first, others⟩ := List.forall_mem_cons.mp each
    rw [normalEntries?, first, ih others]
    rfl

theorem IsValue.normal?_eq {v : Json} (value : v.IsValue) : v.normal? = some v := by
  induction value with
  | null | bool | string => rfl
  | int fits => exact if_pos fits
  | double finite => exact congrArg some (if_pos finite)
  | array _ ih => exact congrArg (Option.map Json.array) (normalItems?_eq ih)
  | object ordered _ ih =>
    rw [normal?, normalEntries?_eq ih, Option.map_some, KeyMap.Ordered.ofList_eq ordered]

/-! ### Values read as values -/

theorem itemsJson?_eq {items : List Json}
    (each : ∀ item ∈ items, (Source.ofJson item).json? = some item) :
    itemsJson? (sourcesOf items) = some items := by
  induction items with
  | nil => rfl
  | cons item rest ih =>
    obtain ⟨first, others⟩ := List.forall_mem_cons.mp each
    rw [sourcesOf, itemsJson?, first, ih others]
    rfl

theorem entriesJson?_eq {entries : List (String × Json)}
    (each : ∀ e ∈ entries, (Source.ofJson e.2).json? = some e.2) :
    entriesJson? (sourceEntries entries) = some entries := by
  induction entries with
  | nil => rfl
  | cons e rest ih =>
    obtain ⟨first, others⟩ := List.forall_mem_cons.mp each
    rw [sourceEntries, entriesJson?, first, ih others]
    rfl

theorem IsValue.json?_ofJson {v : Json} (value : v.IsValue) :
    (Source.ofJson v).json? = some v := by
  induction value with
  | null | bool | int | double | string => rfl
  | array _ ih => exact congrArg (Option.map Json.array) (itemsJson?_eq ih)
  | object _ _ ih => exact congrArg (Option.map Json.object) (entriesJson?_eq ih)

end Json

end VectorClient
