import VectorClient.Proofs.Wire.Pieces

/-!
# Filters that arrive

What arrives of a filter with all filters inside of it. Numbers that are compared arrive with their
signs, and only coordinates lose the signs of zeros.
-/

namespace VectorClient.Wire

open Number

def GeoCoordinatesFilter.received (g : GeoCoordinatesFilter) : GeoCoordinatesFilter :=
  ⟨g.latitude.received, g.longitude.received, g.distance.received⟩

def TestValue.received : TestValue → TestValue
  | .geo g => .geo g.received
  | v => v

mutual

def Filters.received : Filters → Filters
  | ⟨operator, filters, testValue, target⟩ =>
    ⟨operator, receivedFilters filters, testValue.map .received, target⟩

def receivedFilters : List Filters → List Filters
  | [] => []
  | f :: rest => f.received :: receivedFilters rest

end

namespace FilterTarget

theorem sent : ∀ target : FilterTarget, Sent .filterTarget target.toFields target.toFields
  | .property name => .of_laid <| .member rfl (.scalar rfl) .nothing
  | .singleTarget on target =>
    have within := .of_laid <| .value rfl rfl <| .optional rfl (.message target.sent) .done
    .of_laid <| .absent <| .member rfl (.message within) .nothing
  | .multiTarget on target collection => by
    refine .of_laid <| .behind 2 <| .member rfl (.message (.of_pieces ?_)) .nothing
    simp only [List.append_assoc]
    exact .value rfl rfl <| .optional rfl (.message target.sent) <| .value rfl rfl .done
  | .count on =>
    have within := .of_pieces <| .value rfl rfl .done
    .of_laid <| .behind 3 <| .member rfl (.message within) .nothing

theorem targetInside?_eq (f : Fields) :
    targetInside? f = ((f.get? 2).map ofMessage?).getD none :=
  Fields.found_eq (fun _ _ _ => rfl) f

@[simp] theorem ofFields?_toFields : ∀ target : FilterTarget,
    ofFields? target.toFields = some target
  | .property name => rfl
  | .singleTarget on target => by
    have inner := ofFields?_toFields target
    simp [toFields, ofFields?, ofField?, targetInside?_eq, ofMessage?, inner]
  | .multiTarget on target collection => by
    have inner := ofFields?_toFields target
    simp [toFields, ofFields?, ofField?, targetInside?_eq, ofMessage?, inner]
  | .count on => by simp [toFields, ofFields?, ofField?]

end FilterTarget

namespace GeoCoordinatesFilter

theorem sent (g : GeoCoordinatesFilter) :
    Sent .geoCoordinatesFilter g.toFields g.received.toFields := by
  refine .of_pieces ?_
  simp only [toFields, received, List.append_assoc]
  exact .single <| .single <| .single .done

@[simp] theorem ofFields_toFields (g : GeoCoordinatesFilter) : ofFields g.toFields = g := by
  simp [ofFields, toFields]

end GeoCoordinatesFilter

namespace TestValue

/-- The values of a filter are one group, and the target comes behind it. -/
theorem laid {f g : Fields}
    (rest : Laid Sent [.optional 20 "target" (.message .filterTarget)] f g) :
    ∀ v : Option TestValue, Laid Sent (MessageType.filters.fields.drop 3)
      ((v.map toFields).getD [] ++ f) (((v.map received).map toFields).getD [] ++ g)
  | none => .behind 9 rest
  | some (.text _) => .member rfl (.scalar rfl) rest
  | some (.int _) => .absent <| .member rfl (.scalar rfl) rest
  | some (.boolean _) => .behind 2 <| .member rfl (.scalar rfl) rest
  | some (.number _) => .behind 3 <| .member rfl (.scalar rfl) rest
  | some (.textArray _) =>
    .behind 4 <| .member rfl (.message (.of_pieces <| .scalars (fun _ => rfl) .done)) rest
  | some (.intArray _) =>
    .behind 5 <| .member rfl (.message (.of_pieces <| .scalars (fun _ => rfl) .done)) rest
  | some (.booleanArray _) =>
    .behind 6 <| .member rfl (.message (.of_pieces <| .scalars (fun _ => rfl) .done)) rest
  | some (.numberArray _) =>
    .behind 7 <| .member rfl (.message (.of_pieces <| .scalars (fun _ => rfl) .done)) rest
  | some (.geo g) => .behind 8 <| .member rfl (.message g.sent) rest

theorem ofFields?_append (f g : Fields) :
    ofFields? (f ++ g) = (ofFields? f).or (ofFields? g) := List.findSome?_append

theorem ofFields?_toFields (v : Option TestValue) :
    ofFields? ((v.map toFields).getD []) = v := by
  rcases v with _ | (_ | _) <;>
    simp [ofFields?, toFields, ofField?, boolsOfFields, Function.comp_def]

theorem get?_toFields {tag : Nat} (other : tag < 4 ∨ 13 < tag) (v : Option TestValue) :
    Fields.get? tag ((v.map toFields).getD []) = none := by
  rcases v with _ | (_ | _)
  · rfl
  all_goals
    simp only [Option.map_some, Option.getD_some, toFields, Fields.get?_cons, Fields.get?_nil]
    rw [if_neg (by omega)]

end TestValue

namespace Filters

mutual

theorem sent : ∀ filters : Filters, Sent .filters filters.toFields filters.received.toFields
  | ⟨operator, filters, testValue, target⟩ => by
    have operands := sentMessages filters
    refine .of_pieces ?_
    simp only [toFields, received, List.append_assoc]
    exact .value rfl rfl <| .absent <| .list operands <| TestValue.laid
      (.same (fun t _ => t.sent) .done) testValue

theorem sentMessages : ∀ filters : List Filters,
    List.Forall₂ (Arrives Sent (.message .filters)) (filterMessages filters)
      (filterMessages (receivedFilters filters))
  | [] => .nil
  | f :: rest => .cons (.message f.sent) (sentMessages rest)

end

theorem filtersInside_eq (f : Fields) :
    filtersInside f = ((f.get? 3).map filtersOfList).getD [] :=
  Fields.found_eq (fun _ _ _ => rfl) f

theorem testValue_toFields (filters : Filters) :
    TestValue.ofFields? filters.toFields = filters.testValue := by
  obtain ⟨operator, filters, testValue, target⟩ := filters
  have before : TestValue.ofFields? (.plain 1 (.int32 operator)) = none := by
    unfold Fields.plain
    split <;> rfl
  have operands : TestValue.ofFields? (.repeated 3 (filterMessages filters)) = none := by
    cases filterMessages filters <;> rfl
  have behind :
      TestValue.ofFields? (.optional 20 (target.map fun t => .message t.toFields)) = none := by
    cases target <;> rfl
  simp [toFields, TestValue.ofFields?_append, before, operands, behind,
    TestValue.ofFields?_toFields]

mutual

@[simp] theorem ofFields_toFields : ∀ filters : Filters, ofFields filters.toFields = filters
  | ⟨operator, filters, testValue, target⟩ => by
    have operands := ofMessages_messages filters
    have value := testValue_toFields ⟨operator, filters, testValue, target⟩
    rw [ofFields, assemble, value, filtersInside_eq]
    simp [toFields, Fields.map_kept_list filtersOfList [] rfl, filtersOfList, operands,
      TestValue.get?_toFields, Option.bind_map, Option.bind_assoc, Function.comp_def]

theorem ofMessages_messages : ∀ filters : List Filters,
    filtersOfMessages (filterMessages filters) = filters
  | [] => rfl
  | f :: rest => by
    have first := ofFields_toFields f
    have others := ofMessages_messages rest
    rw [ofFields] at first
    rw [filterMessages, filtersOfMessages, first, others]

end

end Filters

end VectorClient.Wire
