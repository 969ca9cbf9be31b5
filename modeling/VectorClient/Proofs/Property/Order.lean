import VectorClient.Proofs.Wire.Property
import VectorClient.Property.Wire

/-!
# Properties in order

Properties form maps at every depth. What is sent of them has the entries of each map in the same
order.
-/

namespace VectorClient

mutual

/-- The objects inside of a property have their entries in order, at any depth. -/
def Property.InOrder : Property → Prop
  | .object fields => KeyMap.Ordered fields ∧ EntriesInOrder fields
  | .objectArray values => ObjectsInOrder values
  | _ => True

def EntriesInOrder : List (String × Property) → Prop
  | [] => True
  | (_, p) :: rest => p.InOrder ∧ EntriesInOrder rest

def ObjectsInOrder : List (List (String × Property)) → Prop
  | [] => True
  | fields :: rest => (KeyMap.Ordered fields ∧ EntriesInOrder fields) ∧ ObjectsInOrder rest

end

variable {typed : Bool}

theorem keys_propertiesToWire (fields : List (String × Property)) :
    KeyMap.keys (propertiesToWire typed fields) = KeyMap.keys fields := by
  induction fields with
  | nil => rfl
  | cons e rest ih => exact congrArg (e.1 :: ·) ih

theorem ordered_elements {α : Type} (toValue : α → Wire.Value)
    (flat : ∀ a, (toValue a).Ordered) : ∀ values : List α,
      Wire.OrderedElements (values.map toValue)
  | [] => trivial
  | a :: rest => ⟨flat a, ordered_elements toValue flat rest⟩

theorem ordered_listToWire {kind : Wire.ListKind} {elements : List Wire.Value}
    (whole : kind.Ordered) (single : Wire.OrderedElements elements) :
    (listToWire typed kind elements).Ordered := by
  cases typed with
  | true => exact ⟨trivial, whole⟩
  | false => exact ⟨single, trivial⟩

mutual

theorem Property.ordered_toWire : ∀ p : Property, p.InOrder → (p.toWire typed).Ordered
  | .text _, _ | .int _, _ | .number _, _ | .boolean _, _ | .date _, _ | .uuid _, _ | .blob _, _
  | .geo _, _ | .phone _, _ => trivial
  | .object fields, inOrder =>
    ⟨inOrder.1.of_keys (keys_propertiesToWire fields), ordered_properties fields inOrder.2⟩
  | .textArray values, _ =>
    ordered_listToWire trivial (ordered_elements .string (fun _ => trivial) values)
  | .intArray values, _ =>
    ordered_listToWire trivial (ordered_elements .int (fun _ => trivial) values)
  | .numberArray values, _ =>
    ordered_listToWire trivial (ordered_elements .number (fun _ => trivial) values)
  | .booleanArray values, _ =>
    ordered_listToWire trivial (ordered_elements .bool (fun _ => trivial) values)
  | .dateArray values, _ =>
    ordered_listToWire trivial (ordered_elements (.date ·.text) (fun _ => trivial) values)
  | .uuidArray values, _ =>
    ordered_listToWire trivial (ordered_elements (.uuid ·.text) (fun _ => trivial) values)
  | .objectArray values, inOrder =>
    ordered_listToWire (ordered_objects values inOrder) (ordered_elementsToWire values inOrder)

theorem ordered_properties : ∀ fields : List (String × Property), EntriesInOrder fields →
    Wire.OrderedEntries (propertiesToWire typed fields)
  | [], _ => trivial
  | (_, p) :: rest, inOrder => ⟨p.ordered_toWire inOrder.1, ordered_properties rest inOrder.2⟩

theorem ordered_objects : ∀ values : List (List (String × Property)), ObjectsInOrder values →
    Wire.OrderedObjects (objectsToWire typed values)
  | [], _ => trivial
  | fields :: rest, inOrder =>
    ⟨⟨inOrder.1.1.of_keys (keys_propertiesToWire fields), ordered_properties fields inOrder.1.2⟩,
      ordered_objects rest inOrder.2⟩

theorem ordered_elementsToWire : ∀ values : List (List (String × Property)),
    ObjectsInOrder values → Wire.OrderedElements (elementsToWire typed values)
  | [], _ => trivial
  | fields :: rest, inOrder =>
    ⟨⟨inOrder.1.1.of_keys (keys_propertiesToWire fields), ordered_properties fields inOrder.1.2⟩,
      ordered_elementsToWire rest inOrder.2⟩

end

end VectorClient
