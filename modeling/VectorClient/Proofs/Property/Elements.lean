import VectorClient.Proofs.Steps
import VectorClient.Property.Wire

/-!
# Elements of one type

The elements of an untyped list are gathered into a list of their type, which keeps each of them.
They are refused iff they are not all of one type that can be listed.
-/

namespace VectorClient

open Number

inductive ElementType
  | text
  | int
  | number
  | boolean
  | date
  | uuid
  | object
deriving DecidableEq, Repr

/-- The elements of a list as properties of their own. -/
def Property.elements? : Property → Option (List Property)
  | .textArray values => some (values.map .text)
  | .intArray values => some (values.map .int)
  | .numberArray values => some (values.map .number)
  | .booleanArray values => some (values.map .boolean)
  | .dateArray values => some (values.map .date)
  | .uuidArray values => some (values.map .uuid)
  | .objectArray values => some (values.map .object)
  | _ => none

def Property.elementType? : Property → Option ElementType
  | .text _ => some .text
  | .int _ => some .int
  | .number _ => some .number
  | .boolean _ => some .boolean
  | .date _ => some .date
  | .uuid _ => some .uuid
  | .object _ => some .object
  | _ => none

theorem Property.elementType?_of_elements {p : Property} {items : List Property}
    (listed : p.elements? = some items) : p.elementType? = none := by
  cases p <;> simp_all [Property.elements?, Property.elementType?]

structure Gathers {α : Type} (get? : Property → Option α) (mk : α → Property)
    (make : List α → Property) (type : ElementType) : Prop where
  inverse : ∀ q a, get? q = some a ↔ q = mk a := by
    intro q a
    cases q <;> simp
  listed : ∀ values, (make values).elements? = some (values.map mk) := by
    intro values
    rfl
  typed : ∀ q, q.elementType? = some type ↔ ∃ a, q = mk a := by
    intro q
    cases q <;> simp [Property.elementType?]

/-- All that can be made of elements: a list of the type of the first, if that can be listed. -/
theorem gather_cons (first : Property) (rest : List Property) :
    (first.elementType? = none ∧ ∃ e, gather (first :: rest) = .error e) ∨
      ∃ (α : Type) (get? : Property → Option α) (mk : α → Property) (make : List α → Property)
        (type : ElementType), Gathers get? mk make type ∧ first.elementType? = some type ∧
          gather (first :: rest) = make <$> collectAs get? first (first :: rest) := by
  cases first with
  | text _ => exact .inr ⟨String, _, .text, .textArray, .text, {}, rfl, rfl⟩
  | int _ => exact .inr ⟨Int64, _, .int, .intArray, .int, {}, rfl, rfl⟩
  | number _ => exact .inr ⟨Double, _, .number, .numberArray, .number, {}, rfl, rfl⟩
  | boolean _ => exact .inr ⟨Bool, _, .boolean, .booleanArray, .boolean, {}, rfl, rfl⟩
  | date _ => exact .inr ⟨Date, _, .date, .dateArray, .date, {}, rfl, rfl⟩
  | uuid _ => exact .inr ⟨Uuid, _, .uuid, .uuidArray, .uuid, {}, rfl, rfl⟩
  | object _ =>
    exact .inr ⟨List (String × Property), _, .object, .objectArray, .object, {}, rfl, rfl⟩
  | _ => exact .inl ⟨rfl, _, rfl⟩

section Gathering

variable {α : Type} {get? : Property → Option α} {mk : α → Property} {make : List α → Property}
  {type : ElementType} {items : List Property} {p : Property}

theorem Gathers.collectAs_ok (gathers : Gathers get? mk make type) {first : Property}
    {values : List α} :
    collectAs get? first items = .ok values ↔ List.Forall₂ (fun q a => q = mk a) items values := by
  rw [collectAs, mapM_ok_iff]
  constructor
  · refine List.Forall₂.imp fun item a taken => (gathers.inverse item a).mp ?_
    cases got : get? item with
    | none => simp [got] at taken
    | some b => simpa [got] using taken
  · intro each
    refine each.imp fun item a same => ?_
    have got := (gathers.inverse item a).mpr same
    simp only [got]

theorem Gathers.collectAs_accepts (gathers : Gathers get? mk make type) {first : Property} :
    (∃ values, collectAs get? first items = .ok values) ↔
      ∀ item ∈ items, item.elementType? = some type := by
  simp only [gathers.collectAs_ok, exists_forall₂, gathers.typed]

theorem gather_elements (gathered : gather items = .ok p) : p.elements? = some items := by
  cases items with
  | nil =>
    obtain rfl := Except.ok.inj gathered
    rfl
  | cons first rest =>
    obtain ⟨_, e, failed⟩ | ⟨α, get?, mk, make, type, gathers, _, made⟩ := gather_cons first rest
    · rw [failed] at gathered
      cases gathered
    · rw [made] at gathered
      obtain ⟨values, collected, rfl⟩ := map_ok.mp gathered
      have same := gathers.collectAs_ok.mp collected
      rw [← List.forall₂_map_right_iff, List.forall₂_eq_eq_eq] at same
      rw [gathers.listed, same]

theorem gather_accepts :
    (∃ p, gather items = .ok p) ↔ ∃ type, ∀ item ∈ items, item.elementType? = some type := by
  cases items with
  | nil => exact ⟨fun _ => ⟨.text, nofun⟩, fun _ => ⟨_, rfl⟩⟩
  | cons first rest =>
    obtain ⟨untyped, e, failed⟩ | ⟨α, get?, mk, make, type, gathers, typed, made⟩ :=
      gather_cons first rest
    · constructor
      · rintro ⟨p, gathered⟩
        rw [failed] at gathered
        cases gathered
      · rintro ⟨type, alike⟩
        have typed := alike first List.mem_cons_self
        rw [untyped] at typed
        cases typed
    · have accepts : (∃ p, gather (first :: rest) = .ok p) ↔
          ∀ item ∈ first :: rest, item.elementType? = some type := by
        rw [made, ← gathers.collectAs_accepts]
        exact map_accepts
      rw [accepts]
      refine ⟨fun alike => ⟨type, alike⟩, ?_⟩
      rintro ⟨other, alike⟩
      obtain rfl : other = type :=
        Option.some.inj ((alike first List.mem_cons_self).symm.trans typed)
      exact alike

end Gathering

end VectorClient
