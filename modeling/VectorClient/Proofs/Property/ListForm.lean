import VectorClient.Property.Wire

/-!
# The form of lists

In a property tree that is written for a server, each list at any depth has the form that the
server knows: typed as a whole, or made of single values.
-/

namespace VectorClient

namespace Wire

mutual

/-- All lists in a value, at any depth, by their elements and their kind. -/
def Value.lists : Value → List (List Value × ListKind)
  | .object fields => listsOfFields fields
  | .list elements kind => (elements, kind) :: (listsOfElements elements ++ kind.lists)
  | _ => []

def ListKind.lists : ListKind → List (List Value × ListKind)
  | .objects values => listsOfObjects values
  | _ => []

def listsOfElements : List Value → List (List Value × ListKind)
  | [] => []
  | v :: rest => v.lists ++ listsOfElements rest

def listsOfFields : List (String × Value) → List (List Value × ListKind)
  | [] => []
  | (_, v) :: rest => v.lists ++ listsOfFields rest

def listsOfObjects : List (List (String × Value)) → List (List Value × ListKind)
  | [] => []
  | fields :: rest => listsOfFields fields ++ listsOfObjects rest

end

structure InForm (typed : Bool) (l : List Value × ListKind) : Prop where
  whole : l.2 ≠ .untyped ↔ typed = true
  noElements : typed = true → l.1 = []

theorem listsOfElements_map {α : Type} {write : α → Value} (flat : ∀ a, (write a).lists = [])
    (values : List α) : listsOfElements (values.map write) = [] := by
  induction values with
  | nil => rfl
  | cons a rest ih => rw [List.map_cons, listsOfElements, flat, ih, List.nil_append]

end Wire

open Wire

theorem inForm_listToWire {typed : Bool} {kind : ListKind} {elements : List Value}
    (isTyped : kind ≠ .untyped) (inKind : ∀ l ∈ kind.lists, InForm typed l)
    (inElements : ∀ l ∈ listsOfElements elements, InForm typed l) :
    ∀ l ∈ (listToWire typed kind elements).lists, InForm typed l := by
  cases typed with
  | true =>
    exact List.forall_mem_cons.mpr ⟨⟨⟨fun _ => rfl, fun _ => isTyped⟩, fun _ => rfl⟩, inKind⟩
  | false =>
    refine List.forall_mem_cons.mpr ⟨⟨⟨fun other => absurd rfl other, nofun⟩, nofun⟩, ?_⟩
    rw [ListKind.lists, List.append_nil]
    · exact inElements
    · exact nofun

theorem inForm_listToWire_map {α : Type} {typed : Bool} {kind : ListKind} {write : α → Value}
    {values : List α} (isTyped : kind ≠ .untyped) (flatKind : kind.lists = [])
    (flat : ∀ a, (write a).lists = []) :
    ∀ l ∈ (listToWire typed kind (values.map write)).lists, InForm typed l := by
  refine inForm_listToWire isTyped ?_ ?_
  · rw [flatKind]
    exact nofun
  · rw [listsOfElements_map flat]
    exact nofun

mutual

theorem Property.inForm_toWire (typed : Bool) :
    ∀ p : Property, ∀ l ∈ (p.toWire typed).lists, InForm typed l
  | .text _ | .int _ | .number _ | .boolean _ | .date _ | .uuid _ | .blob _ | .geo _ | .phone _ =>
    nofun
  | .object fields => inForm_propertiesToWire typed fields
  | .textArray _ => inForm_listToWire_map nofun rfl fun _ => rfl
  | .intArray _ => inForm_listToWire_map nofun rfl fun _ => rfl
  | .numberArray _ => inForm_listToWire_map nofun rfl fun _ => rfl
  | .booleanArray _ => inForm_listToWire_map nofun rfl fun _ => rfl
  | .dateArray _ => inForm_listToWire_map nofun rfl fun _ => rfl
  | .uuidArray _ => inForm_listToWire_map nofun rfl fun _ => rfl
  | .objectArray values =>
    inForm_listToWire nofun (inForm_objectsToWire typed values) (inForm_elementsToWire typed values)

theorem inForm_propertiesToWire (typed : Bool) : ∀ fields : List (String × Property),
    ∀ l ∈ listsOfFields (propertiesToWire typed fields), InForm typed l
  | [] => nofun
  | (_, p) :: rest =>
    List.forall_mem_append.mpr ⟨p.inForm_toWire typed, inForm_propertiesToWire typed rest⟩

theorem inForm_objectsToWire (typed : Bool) : ∀ values : List (List (String × Property)),
    ∀ l ∈ listsOfObjects (objectsToWire typed values), InForm typed l
  | [] => nofun
  | fields :: rest =>
    List.forall_mem_append.mpr
      ⟨inForm_propertiesToWire typed fields, inForm_objectsToWire typed rest⟩

theorem inForm_elementsToWire (typed : Bool) : ∀ values : List (List (String × Property)),
    ∀ l ∈ listsOfElements (elementsToWire typed values), InForm typed l
  | [] => nofun
  | fields :: rest =>
    List.forall_mem_append.mpr
      ⟨inForm_propertiesToWire typed fields, inForm_elementsToWire typed rest⟩

end

end VectorClient
