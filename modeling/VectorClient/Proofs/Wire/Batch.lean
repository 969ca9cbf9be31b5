import VectorClient.Proofs.Wire.Property
import VectorClient.Proofs.Wire.Vectors

/-!
# Batches that arrive

What arrives of the objects of a batch: the same objects but for the signs of zeros in coordinates.
-/

namespace VectorClient.Wire

open Number

/-- The entries of an object are in order, and so are those of all objects inside of it. -/
def OrderedProperties (p : Properties) : Prop := KeyMap.Ordered p ∧ OrderedEntries p

namespace BatchProperties

def received (p : BatchProperties) : BatchProperties :=
  { p with nonRefProperties := p.nonRefProperties.map receivedEntries }

theorem sent (p : BatchProperties) (ordered : ∀ own ∈ p.nonRefProperties, OrderedProperties own) :
    Sent .batchProperties p.toFields p.received.toFields := by
  have single (r : SingleTargetReferences) : Sent .singleTargetReferences
      (texts 1 r.uuids ++ .plain 2 (.string r.propName))
      (texts 1 r.uuids ++ .plain 2 (.string r.propName)) := by
    refine .of_pieces ?_
    simp only [List.append_assoc]
    exact .texts <| .value rfl rfl .done
  have multi (r : MultiTargetReferences) : Sent .multiTargetReferences
      (texts 1 r.uuids ++ (.plain 2 (.string r.propName) ++ .plain 3 (.string r.targetCollection)))
      (texts 1 r.uuids ++ (.plain 2 (.string r.propName) ++
        .plain 3 (.string r.targetCollection))) := by
    refine .of_pieces ?_
    simp only [List.append_assoc]
    exact .texts <| .value rfl rfl <| .value rfl rfl .done
  refine .of_pieces ?_
  simp only [toFields, received, List.append_assoc]
  exact .message (fun own given => sentEntries own (ordered own given).1 (ordered own given).2) <|
    .sameMessages (fun r _ => single r) <| .sameMessages (fun r _ => multi r) .done

@[simp] theorem ofFields_toFields (p : BatchProperties) : ofFields p.toFields = p := by
  have own (fields : Properties) : Properties.ofFields fields.toFields = fields := by
    rw [Properties.ofFields, Properties.toFields, propertiesOfFields_map, valuesOfEntries_entries]
  simp [ofFields, toFields, own, Option.bind_map, Function.comp_def]

end BatchProperties

namespace BatchObject

def received (o : BatchObject) : BatchObject :=
  { o with properties := o.properties.map .received }

def OrderedMaps (o : BatchObject) : Prop :=
  ∀ p ∈ o.properties, ∀ own ∈ p.nonRefProperties, OrderedProperties own

theorem sent (o : BatchObject) (ordered : o.OrderedMaps) :
    Sent .batchObject o.toFields o.received.toFields := by
  refine .of_pieces ?_
  simp only [toFields, received, List.append_assoc]
  exact .value rfl rfl <| .scalars (fun _ => rfl) <|
    .message (fun p given => p.sent (ordered p given)) <| .value rfl rfl <| .value rfl rfl <|
    .value rfl rfl <| .sameMessages (fun v _ => v.sent) .done

@[simp] theorem ofFields_toFields (o : BatchObject) : ofFields o.toFields = o := by
  simp [ofFields, toFields, Option.bind_map, Function.comp_def]

end BatchObject

namespace BatchRequest

def received (r : BatchRequest) : BatchRequest := { r with objects := r.objects.map .received }

theorem sent (r : BatchRequest) (ordered : ∀ o ∈ r.objects, o.OrderedMaps) :
    Sent .batchObjectsRequest r.toFields r.received.toFields := by
  refine .of_pieces ?_
  simp only [toFields, received, List.append_assoc]
  exact .messages (fun o listed => o.sent (ordered o listed)) <| .given (fun _ => rfl) .done

@[simp] theorem ofFields_toFields (r : BatchRequest) : ofFields r.toFields = r := by
  simp [ofFields, toFields, Option.bind_map, Function.comp_def]

end BatchRequest

end VectorClient.Wire
