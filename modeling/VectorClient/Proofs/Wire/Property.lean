import VectorClient.Proofs.KeyMap
import VectorClient.Proofs.Wire.Pieces

/-!
# Properties that arrive

What arrives of a property value, with objects and lists at any depth: a value of the same kind,
which differs in nothing but the signs of zeros in coordinates.
-/

namespace VectorClient.Wire

open Number

def GeoCoordinate.received (g : GeoCoordinate) : GeoCoordinate :=
  ⟨g.longitude.received, g.latitude.received⟩

mutual

def Value.received : Value → Value
  | .object fields => .object (receivedEntries fields)
  | .list elements kind => .list (receivedElements elements) kind.received
  | .geo g => .geo g.received
  | v => v

def ListKind.received : ListKind → ListKind
  | .objects values => .objects (receivedObjects values)
  | kind => kind

def receivedEntries : List (String × Value) → List (String × Value)
  | [] => []
  | (name, v) :: rest => (name, v.received) :: receivedEntries rest

def receivedElements : List Value → List Value
  | [] => []
  | v :: rest => v.received :: receivedElements rest

def receivedObjects : List (List (String × Value)) → List (List (String × Value))
  | [] => []
  | p :: rest => receivedEntries p :: receivedObjects rest

end

mutual

/-- The objects inside of a value have their entries in order, at any depth. -/
def Value.Ordered : Value → Prop
  | .object fields => KeyMap.Ordered fields ∧ OrderedEntries fields
  | .list elements kind => OrderedElements elements ∧ kind.Ordered
  | _ => True

def ListKind.Ordered : ListKind → Prop
  | .objects values => OrderedObjects values
  | _ => True

def OrderedEntries : List (String × Value) → Prop
  | [] => True
  | (_, v) :: rest => v.Ordered ∧ OrderedEntries rest

def OrderedElements : List Value → Prop
  | [] => True
  | v :: rest => v.Ordered ∧ OrderedElements rest

def OrderedObjects : List (List (String × Value)) → Prop
  | [] => True
  | p :: rest => (KeyMap.Ordered p ∧ OrderedEntries p) ∧ OrderedObjects rest

end

namespace GeoCoordinate

theorem sent (g : GeoCoordinate) : Sent .geoCoordinate g.toFields g.received.toFields := by
  refine .of_pieces ?_
  simp only [toFields, received, List.append_assoc]
  exact .single <| .single .done

@[simp] theorem ofFields_toFields (g : GeoCoordinate) : ofFields g.toFields = g := by
  simp [ofFields, toFields]

end GeoCoordinate

namespace PhoneNumber

theorem sent (p : PhoneNumber) : Sent .phoneNumber p.toFields p.toFields := by
  refine .of_pieces ?_
  simp only [toFields, List.append_assoc]
  exact .value rfl rfl <| .value rfl rfl <| .value rfl rfl <| .value rfl rfl <| .value rfl rfl <|
    .value rfl rfl <| .value rfl rfl .done

@[simp] theorem ofFields_toFields (p : PhoneNumber) : ofFields p.toFields = p := by
  simp [ofFields, toFields]

end PhoneNumber

/-! ### Values -/

theorem keys_valueEntries (fields : List (String × Value)) :
    KeyMap.keys (valueEntries fields) = KeyMap.keys fields := by
  induction fields with
  | nil => rfl
  | cons e rest ih => exact congrArg (e.1 :: ·) ih

/-- Only a value without a kind has no contents. -/
theorem Value.eq_unset {v : Value} (empty : v.toFields = []) : v = .unset := by
  cases v with
  | unset => rfl
  | _ => simp [toFields] at empty

mutual

theorem Value.sent : ∀ v : Value, v.Ordered → Sent .value v.toFields v.received.toFields
  | .unset, _ => .of_laid .nothing
  | .number _, _ => .of_laid <| .member rfl (.scalar rfl) .nothing
  | .string _, _ => .of_laid <| .behind 1 <| .member rfl (.scalar rfl) .nothing
  | .bool _, _ => .of_laid <| .behind 2 <| .member rfl (.scalar rfl) .nothing
  | .object fields, ordered =>
    have within := sentEntries fields ordered.1 ordered.2
    .of_laid <| .behind 3 <| .member rfl (.message within) .nothing
  | .list elements kind, ordered => by
    refine .of_laid <| .behind 4 <| .member rfl (.message (.of_pieces ?_)) .nothing
    simp only [List.append_assoc]
    exact .list (sentElements elements ordered.1) (kind.laid ordered.2)
  | .date _, _ => .of_laid <| .behind 5 <| .member rfl (.scalar rfl) .nothing
  | .uuid _, _ => .of_laid <| .behind 6 <| .member rfl (.scalar rfl) .nothing
  | .int _, _ => .of_laid <| .behind 7 <| .member rfl (.scalar rfl) .nothing
  | .geo g, _ => .of_laid <| .behind 8 <| .member rfl (.message g.sent) .nothing
  | .blob _, _ => .of_laid <| .behind 9 <| .member rfl (.scalar rfl) .nothing
  | .phone p, _ => .of_laid <| .behind 10 <| .member rfl (.message p.sent) .nothing
  | .null _, _ => .of_laid <| .behind 11 <| .member rfl (.scalar rfl) .nothing
  | .text _, _ => .of_laid <| .behind 12 <| .member rfl (.scalar rfl) .nothing

/-- The list that is typed as a whole comes behind the elements of an untyped one. -/
theorem ListKind.laid : ∀ kind : ListKind, kind.Ordered →
    Laid Sent (MessageType.listValue.fields.drop 1) (kind.toFields ++ [])
      (kind.received.toFields ++ [])
  | .untyped, _ => .nothing
  | .numbers _, _ => .member rfl (.message (.of_pieces <| .value rfl rfl .done)) .nothing
  | .bools _, _ =>
    .behind 1 <| .member rfl (.message (.of_pieces <| .scalars (fun _ => rfl) .done)) .nothing
  | .objects values, ordered =>
    .behind 2 <| .member rfl (.message (.of_pieces <| .list (sentObjects values ordered) .done))
      .nothing
  | .dates _, _ =>
    .behind 3 <| .member rfl (.message (.of_pieces <| .scalars (fun _ => rfl) .done)) .nothing
  | .uuids _, _ =>
    .behind 4 <| .member rfl (.message (.of_pieces <| .scalars (fun _ => rfl) .done)) .nothing
  | .ints _, _ => .behind 5 <| .member rfl (.message (.of_pieces <| .value rfl rfl .done)) .nothing
  | .texts _, _ =>
    .behind 6 <| .member rfl (.message (.of_pieces <| .scalars (fun _ => rfl) .done)) .nothing

theorem sentEntries : ∀ fields : List (String × Value), KeyMap.Ordered fields →
    OrderedEntries fields →
    Sent .properties (.map 1 (valueEntries fields)) (.map 1 (valueEntries (receivedEntries fields)))
  | fields, ordered, inside =>
    have keys := ordered.of_keys (keys_valueEntries fields)
    .of_pieces <| .entries keys (arriveEntries fields inside) .done

theorem arriveEntries : ∀ fields : List (String × Value), OrderedEntries fields →
    List.Forall₂ (fun e e' => e'.1 = e.1 ∧ ArrivesInEntry Sent (.message .value) e.2 e'.2)
      (valueEntries fields) (valueEntries (receivedEntries fields))
  | [], _ => .nil
  | (_, v) :: rest, ordered => by
    have empty : v.toFields = [] → v.received.toFields = [] := by
      intro empty
      rw [v.eq_unset empty]
      rfl
    exact .cons ⟨rfl, .message (v.sent ordered.1) empty⟩ (arriveEntries rest ordered.2)

theorem sentElements : ∀ elements : List Value, OrderedElements elements →
    List.Forall₂ (Arrives Sent (.message .value)) (valueMessages elements)
      (valueMessages (receivedElements elements))
  | [], _ => .nil
  | v :: rest, ordered => .cons (.message (v.sent ordered.1)) (sentElements rest ordered.2)

theorem sentObjects : ∀ values : List (List (String × Value)), OrderedObjects values →
    List.Forall₂ (Arrives Sent (.message .properties)) (objectMessages values)
      (objectMessages (receivedObjects values))
  | [], _ => .nil
  | fields :: rest, ordered =>
    .cons (.message (sentEntries fields ordered.1.1 ordered.1.2)) (sentObjects rest ordered.2)

end

/-! ### Reading values -/

theorem propertiesOfFields_map (es : KeyMap Datum) :
    propertiesOfFields (Fields.map 1 es) = valuesOfEntries es := by
  cases es <;> rfl

theorem objectsOfFields_repeated (ds : List Datum) :
    objectsOfFields (Fields.repeated 1 ds) = objectsOfMessages ds := by
  cases ds <;> rfl

/-- The fields of a typed list have other tags than its elements. -/
theorem elementsOfFields_append (ds : List Datum) (kind : ListKind) :
    elementsOfFields (Fields.repeated 1 ds ++ kind.toFields) = valuesOfMessages ds := by
  cases ds with
  | nil => cases kind <;> rfl
  | cons => rfl

theorem ListKind.ofFields_append (ds : List Datum) (f : Fields) :
    ListKind.ofFields (Fields.repeated 1 ds ++ f) = ListKind.ofFields f := by
  cases ds <;> rfl

theorem boolsOfFields_toFields (values : List Bool) :
    boolsOfFields (boolsToFields values) = values := by
  simp [boolsOfFields, boolsToFields]

theorem strings_textsToFields (values : List String) :
    Fields.strings 1 (textsToFields values) = values := by
  simp [textsToFields, Function.comp_def]

theorem bytes_plain (lanes : Bytes) : Fields.bytes 1 (Fields.plain 1 (.bytes lanes)) = lanes := by
  simp

mutual

theorem Value.ofFields_toFields : ∀ v : Value, Value.ofFields v.toFields = v
  | .unset | .number _ | .string _ | .bool _ | .date _ | .uuid _ | .int _ | .blob _ | .null _
  | .text _ => rfl
  | .object fields => by
    rw [Value.toFields, Value.ofFields, Value.ofField, propertiesOfFields_map,
      valuesOfEntries_entries]
  | .list elements kind => by
    rw [Value.toFields, Value.ofFields, Value.ofField, elementsOfFields_append,
      ListKind.ofFields_append, valuesOfMessages_messages, kind.ofFields_toFields]
  | .geo g => congrArg Value.geo g.ofFields_toFields
  | .phone p => congrArg Value.phone p.ofFields_toFields

theorem ListKind.ofFields_toFields : ∀ kind : ListKind, ListKind.ofFields kind.toFields = kind
  | .untyped => rfl
  | .numbers lanes => congrArg ListKind.numbers (bytes_plain lanes)
  | .bools values => congrArg ListKind.bools (boolsOfFields_toFields values)
  | .objects values => by
    rw [ListKind.toFields, ListKind.ofFields, if_neg (by decide), ListKind.ofField,
      objectsOfFields_repeated, objectsOfMessages_messages]
  | .dates values => congrArg ListKind.dates (strings_textsToFields values)
  | .uuids values => congrArg ListKind.uuids (strings_textsToFields values)
  | .ints lanes => congrArg ListKind.ints (bytes_plain lanes)
  | .texts values => congrArg ListKind.texts (strings_textsToFields values)

theorem valuesOfEntries_entries : ∀ fields : List (String × Value),
    valuesOfEntries (valueEntries fields) = fields
  | [] => rfl
  | (name, v) :: rest => by
    rw [valueEntries, valuesOfEntries, v.ofFields_toFields, valuesOfEntries_entries rest]

theorem valuesOfMessages_messages : ∀ elements : List Value,
    valuesOfMessages (valueMessages elements) = elements
  | [] => rfl
  | v :: rest => by
    rw [valueMessages, valuesOfMessages, v.ofFields_toFields, valuesOfMessages_messages rest]

theorem objectsOfMessages_messages : ∀ values : List (List (String × Value)),
    objectsOfMessages (objectMessages values) = values
  | [] => rfl
  | fields :: rest => by
    rw [objectMessages, objectsOfMessages, propertiesOfFields_map, valuesOfEntries_entries fields,
      objectsOfMessages_messages rest]

end

end VectorClient.Wire
