import VectorClient.Proofs.Search.Request
import VectorClient.Proofs.Wire.Filter
import VectorClient.Proofs.Wire.Vectors

/-!
# Searches that arrive

What arrives of a search with everything inside of it: the same search but for the signs of zeros in
plain fields, which the force of a move, the balance of a hybrid search, weights and the coordinates
of filters are.
-/

namespace VectorClient.Wire

open Number

/-! ### Selections -/

namespace MetadataRequest

theorem sent (m : MetadataRequest) : Sent .metadataRequest m.toFields m.toFields := by
  refine .of_pieces ?_
  simp only [toFields, List.append_assoc]
  exact .value rfl rfl <| .value rfl rfl <| .value rfl rfl <| .value rfl rfl <| .value rfl rfl <|
    .value rfl rfl <| .value rfl rfl <| .value rfl rfl <| .value rfl rfl <| .texts .done

@[simp] theorem ofFields_toFields (m : MetadataRequest) : ofFields m.toFields = m := by
  simp [ofFields, toFields, Function.comp_def]

end MetadataRequest

namespace ObjectPropertiesRequest

mutual

theorem sent : ∀ o : ObjectPropertiesRequest,
    Sent .objectPropertiesRequest o.toFields o.toFields
  | ⟨name, primitives, objects⟩ => by
    refine .of_pieces ?_
    simp only [toFields, List.append_assoc]
    exact .value rfl rfl <| .texts <| .list (sentMessages objects) .done

theorem sentMessages : ∀ objects : List ObjectPropertiesRequest,
    List.Forall₂ (Arrives Sent (.message .objectPropertiesRequest))
      (objectPropertiesMessages objects) (objectPropertiesMessages objects)
  | [] => .nil
  | o :: rest => .cons (.message o.sent) (sentMessages rest)

end

theorem objectsInside_eq (f : Fields) :
    objectsInside f = ((f.get? 3).map objectRequestsOfList).getD [] :=
  Fields.found_eq (fun _ _ _ => rfl) f

@[simp] theorem ofMessages_messages : ∀ objects : List ObjectPropertiesRequest,
    objectRequestsOfMessages (objectPropertiesMessages objects) = objects
  | [] => rfl
  | ⟨name, primitives, objects⟩ :: rest => by
    have inner := ofMessages_messages objects
    have others := ofMessages_messages rest
    simp [objectPropertiesMessages, objectRequestsOfMessages, objectsInside_eq, toFields,
      Fields.map_kept_list objectRequestsOfList [] rfl, objectRequestsOfList, inner, others,
      Function.comp_def]

end ObjectPropertiesRequest

namespace PropertiesRequest

mutual

theorem sent : ∀ p : PropertiesRequest, Sent .propertiesRequest p.toFields p.toFields
  | ⟨names, references, objects, all⟩ => by
    refine .of_pieces ?_
    simp only [toFields, List.append_assoc]
    exact .texts <| .list (sentReferences references) <|
      .list (ObjectPropertiesRequest.sentMessages objects) <| .value rfl rfl .done

theorem sentReferences : ∀ references : List RefPropertiesRequest,
    List.Forall₂ (Arrives Sent (.message .refPropertiesRequest)) (referenceMessages references)
      (referenceMessages references)
  | [] => .nil
  | ⟨name, properties, metadata, collection⟩ :: rest => by
    refine .cons (.message (.of_pieces ?_)) (sentReferences rest)
    simp only [RefPropertiesRequest.toFields, List.append_assoc]
    exact .value rfl rfl <| .optional rfl (.message properties.sent) <|
      .optional rfl (.message metadata.sent) <| .value rfl rfl .done

end

theorem referencesInside_eq (f : Fields) :
    referencesInside f = ((f.get? 2).map referenceRequestsOfList).getD [] :=
  Fields.found_eq (fun _ _ _ => rfl) f

theorem selectionInside_eq (f : Fields) :
    selectionInside f = ((f.get? 2).map ofMessage).getD (.assemble [] []) :=
  Fields.found_eq (fun _ _ _ => rfl) f

mutual

@[simp] theorem ofFields_toFields : ∀ p : PropertiesRequest, ofFields p.toFields = p
  | ⟨names, references, objects, all⟩ => by
    have inner := ofMessages_messages references
    simp [ofFields, assemble, referencesInside_eq, ObjectPropertiesRequest.objectsInside_eq,
      toFields, Fields.map_kept_list referenceRequestsOfList [] rfl, referenceRequestsOfList,
      Fields.map_kept_list objectRequestsOfList [] rfl, objectRequestsOfList, inner,
      Function.comp_def]

theorem ofMessages_messages : ∀ references : List RefPropertiesRequest,
    referenceRequestsOfMessages (referenceMessages references) = references
  | [] => rfl
  | ⟨name, properties, metadata, collection⟩ :: rest => by
    have selection := ofFields_toFields properties
    have others := ofMessages_messages rest
    rw [ofFields] at selection
    simp [referenceMessages, referenceRequestsOfMessages, RefPropertiesRequest.toFields,
      selectionInside_eq, ofMessage, selection, others]

end

end PropertiesRequest

/-! ### Additions -/

namespace GroupBy

theorem sent (g : GroupBy) : Sent .groupBy g.toFields g.toFields := by
  refine .of_pieces ?_
  simp only [toFields, List.append_assoc]
  exact .texts <| .value rfl rfl <| .value rfl rfl .done

@[simp] theorem ofFields_toFields (g : GroupBy) : ofFields g.toFields = g := by
  simp [ofFields, toFields, Function.comp_def]

end GroupBy

namespace SortBy

theorem sent (s : SortBy) : Sent .sortBy s.toFields s.toFields := by
  refine .of_pieces ?_
  simp only [toFields, List.append_assoc]
  exact .value rfl rfl <| .texts .done

@[simp] theorem ofFields_toFields (s : SortBy) : ofFields s.toFields = s := by
  simp [ofFields, toFields, Function.comp_def]

end SortBy

namespace GenerativeSearch

theorem sent (g : GenerativeSearch) : Sent .generativeSearch g.toFields g.toFields := by
  refine .of_pieces ?_
  simp only [toFields, List.append_assoc]
  exact .value rfl rfl <| .value rfl rfl <| .texts .done

@[simp] theorem ofFields_toFields (g : GenerativeSearch) : ofFields g.toFields = g := by
  simp [ofFields, toFields, Function.comp_def]

end GenerativeSearch

namespace Rerank

theorem sent (r : Rerank) : Sent .rerank r.toFields r.toFields := by
  refine .of_pieces ?_
  simp only [toFields, List.append_assoc]
  exact .value rfl rfl <| .given (fun _ => rfl) .done

@[simp] theorem ofFields_toFields (r : Rerank) : ofFields r.toFields = r := by
  simp [ofFields, toFields, Option.bind_map, Function.comp_def]

end Rerank

namespace SearchOperatorOptions

theorem sent (o : SearchOperatorOptions) :
    Sent .searchOperatorOptions o.toFields o.toFields := by
  refine .of_pieces ?_
  simp only [toFields, List.append_assoc]
  exact .value rfl rfl <| .given (fun _ => rfl) .done

@[simp] theorem ofFields_toFields (o : SearchOperatorOptions) : ofFields o.toFields = o := by
  simp [ofFields, toFields, Option.bind_map, Function.comp_def]

end SearchOperatorOptions

/-! ### Kinds of search -/

namespace Bm25

theorem sent (b : Bm25) : Sent .bm25 b.toFields b.toFields := by
  refine .of_pieces ?_
  simp only [toFields, List.append_assoc]
  exact .value rfl rfl <| .texts <| .same (fun o _ => o.sent) .done

@[simp] theorem ofFields_toFields (b : Bm25) : ofFields b.toFields = b := by
  simp [ofFields, toFields, Option.bind_map, Function.comp_def]

end Bm25

/-- Weights by name ascend by their names. -/
def OrderedWeights (targets : Option Targets) : Prop := ∀ t ∈ targets, t.weights.Ordered

namespace NearVector

def received (n : NearVector) : NearVector := { n with targets := n.targets.map .received }

theorem sent (n : NearVector) (weights : OrderedWeights n.targets)
    (vectors : n.vectorPerTarget.Ordered) : Sent .nearVector n.toFields n.received.toFields := by
  have entries : List.Forall₂
      (fun e e' => e'.1 = e.1 ∧ ArrivesInEntry Sent .bytes (.bytes e.2) (.bytes e'.2))
      n.vectorPerTarget n.vectorPerTarget :=
    List.forall₂_same.mpr fun e _ => ⟨rfl, .bytes e.2⟩
  refine .of_pieces ?_
  simp only [toFields, received, List.append_assoc]
  exact .scalars (fun _ => rfl) <| .given (fun _ => rfl) <| .given (fun _ => rfl) <|
    .value rfl rfl <| .texts <| .message (fun t chosen => t.sent (weights t chosen)) <|
    .scalarEntries .bytes vectors entries <| .sameMessages (fun v _ => v.sent) <|
    .sameMessages (fun v _ => v.sent) .done

@[simp] theorem ofFields_toFields (n : NearVector) : ofFields n.toFields = n := by
  simp [ofFields, toFields, Fields.bytesEntries, Option.bind_map, Function.comp_def]

end NearVector

namespace NearObject

def received (n : NearObject) : NearObject := { n with targets := n.targets.map .received }

theorem sent (n : NearObject) (weights : OrderedWeights n.targets) :
    Sent .nearObject n.toFields n.received.toFields := by
  refine .of_pieces ?_
  simp only [toFields, received, List.append_assoc]
  exact .value rfl rfl <| .given (fun _ => rfl) <| .given (fun _ => rfl) <| .texts <|
    .message (fun t chosen => t.sent (weights t chosen)) .done

@[simp] theorem ofFields_toFields (n : NearObject) : ofFields n.toFields = n := by
  simp [ofFields, toFields, Option.bind_map, Function.comp_def]

end NearObject

namespace Move

def received (m : Move) : Move := { m with force := m.force.received }

theorem sent (m : Move) : Sent .move m.toFields m.received.toFields := by
  refine .of_pieces ?_
  simp only [toFields, received, List.append_assoc]
  exact .single <| .texts <| .texts .done

@[simp] theorem ofFields_toFields (m : Move) : ofFields m.toFields = m := by
  simp [ofFields, toFields, Function.comp_def]

end Move

namespace NearText

def received (n : NearText) : NearText :=
  { n with
    moveTo := n.moveTo.map .received
    moveAway := n.moveAway.map .received
    targets := n.targets.map .received }

theorem sent (n : NearText) (weights : OrderedWeights n.targets) :
    Sent .nearTextSearch n.toFields n.received.toFields := by
  refine .of_pieces ?_
  simp only [toFields, received, List.append_assoc]
  exact .texts <| .given (fun _ => rfl) <| .given (fun _ => rfl) <| .message (fun m _ => m.sent) <|
    .message (fun m _ => m.sent) <| .texts <|
    .message (fun t chosen => t.sent (weights t chosen)) .done

@[simp] theorem ofFields_toFields (n : NearText) : ofFields n.toFields = n := by
  simp [ofFields, toFields, Option.bind_map, Function.comp_def]

end NearText

namespace NearMedia

def received (n : NearMedia) : NearMedia := { n with targets := n.targets.map .received }

theorem sent {type : MessageType} {content : String}
    (declared : type.fields = MessageType.nearMediaFields content) (n : NearMedia)
    (weights : OrderedWeights n.targets) : Sent type n.toFields n.received.toFields := by
  refine .of_pieces ?_
  rw [declared]
  simp only [toFields, received, List.append_assoc]
  exact .value rfl rfl <| .given (fun _ => rfl) <| .given (fun _ => rfl) <| .texts <|
    .message (fun t chosen => t.sent (weights t chosen)) .done

@[simp] theorem ofFields_toFields (n : NearMedia) : ofFields n.toFields = n := by
  simp [ofFields, toFields, Option.bind_map, Function.comp_def]

end NearMedia

namespace Hybrid

def received (h : Hybrid) : Hybrid :=
  { h with
    alpha := h.alpha.received
    nearText := h.nearText.map .received
    nearVector := h.nearVector.map .received
    targets := h.targets.map .received }

theorem sent (h : Hybrid) (weights : OrderedWeights h.targets)
    (texts : ∀ n ∈ h.nearText, Sent .nearTextSearch n.toFields n.received.toFields)
    (vectors : ∀ n ∈ h.nearVector, Sent .nearVector n.toFields n.received.toFields) :
    Sent .hybrid h.toFields h.received.toFields := by
  refine .of_pieces ?_
  simp only [toFields, received, List.append_assoc]
  exact .value rfl rfl <| .texts <| .scalars (fun _ => rfl) <| .single <| .value rfl rfl <|
    .value rfl rfl <| .texts <| .message texts <| .message vectors <|
    .message (fun t chosen => t.sent (weights t chosen)) <| .same (fun o _ => o.sent) <|
    .given (fun _ => rfl) .done

@[simp] theorem ofFields_toFields (h : Hybrid) : ofFields h.toFields = h := by
  simp [ofFields, toFields, Option.bind_map, Function.comp_def]

end Hybrid

/-! ### Requests -/

namespace SearchRequest

def received (r : SearchRequest) : SearchRequest :=
  { r with
    filters := r.filters.map .received
    hybridSearch := r.hybridSearch.map .received
    nearVector := r.nearVector.map .received
    nearObject := r.nearObject.map .received
    nearText := r.nearText.map .received
    nearImage := r.nearImage.map .received
    nearAudio := r.nearAudio.map .received
    nearVideo := r.nearVideo.map .received
    nearDepth := r.nearDepth.map .received
    nearThermal := r.nearThermal.map .received
    nearImu := r.nearImu.map .received }

structure OrderedMaps (r : SearchRequest) : Prop where
  weights : ∀ s ∈ Search.selections r, OrderedWeights s.targets
  vectors : ∀ m ∈ Search.nearVectors r, m.vectorPerTarget.Ordered

section OrderedMaps

variable {r : SearchRequest} (ordered : r.OrderedMaps)
include ordered

theorem OrderedMaps.hybrid : ∀ h ∈ r.hybridSearch, OrderedWeights h.targets := by
  intro h chosen
  refine ordered.weights ⟨h.targetVectors, h.targets⟩ ?_
  simp [Search.selections, Option.mem_def.mp chosen]

theorem OrderedMaps.nearObject : ∀ n ∈ r.nearObject, OrderedWeights n.targets := by
  intro n chosen
  refine ordered.weights ⟨n.targetVectors, n.targets⟩ ?_
  simp [Search.selections, Option.mem_def.mp chosen]

theorem OrderedMaps.nearVectors : ∀ n ∈ Search.nearVectors r, OrderedWeights n.targets := by
  intro n listed
  refine ordered.weights ⟨n.targetVectors, n.targets⟩ ?_
  simp only [Search.selections, List.mem_append, List.mem_map]
  exact .inl (.inl (.inr ⟨n, listed, rfl⟩))

theorem OrderedMaps.nearTexts : ∀ n ∈ Search.nearTexts r, OrderedWeights n.targets := by
  intro n listed
  refine ordered.weights ⟨n.targetVectors, n.targets⟩ ?_
  simp only [Search.selections, List.mem_append, List.mem_map]
  exact .inl (.inr ⟨n, listed, rfl⟩)

theorem OrderedMaps.media : ∀ n ∈ Search.mediaMessages r, OrderedWeights n.targets := by
  intro n listed
  refine ordered.weights ⟨n.targetVectors, n.targets⟩ ?_
  simp only [Search.selections, List.mem_append, List.mem_map]
  exact .inr ⟨n, listed, rfl⟩

theorem sent : Sent .searchRequest r.toFields r.received.toFields := by
  have vectors (n : NearVector) (listed : n ∈ Search.nearVectors r) :
      Sent .nearVector n.toFields n.received.toFields :=
    n.sent (ordered.nearVectors n listed) (ordered.vectors n listed)
  have texts (n : NearText) (listed : n ∈ Search.nearTexts r) :
      Sent .nearTextSearch n.toFields n.received.toFields :=
    n.sent (ordered.nearTexts n listed)
  have hybrid : ∀ h ∈ r.hybridSearch, Sent .hybrid h.toFields h.received.toFields := by
    intro h chosen
    have inside := Option.mem_def.mp chosen
    refine h.sent (ordered.hybrid h chosen) (fun n half => ?_) (fun n half => ?_)
    · exact texts n (by simp [Search.nearTexts, inside, Option.mem_def.mp half])
    · exact vectors n (by simp [Search.nearVectors, inside, Option.mem_def.mp half])
  have media {type : MessageType} {content : String}
      (declared : type.fields = MessageType.nearMediaFields content) (n : NearMedia)
      (listed : n ∈ Search.mediaMessages r) : Sent type n.toFields n.received.toFields :=
    n.sent declared (ordered.media n listed)
  refine .of_pieces ?_
  unfold toFields received
  simp only [List.append_assoc]
  refine .value rfl rfl <| .value rfl rfl <| .given (fun _ => rfl) <| .same (fun p _ => p.sent) <|
    .same (fun m _ => m.sent) <| .same (fun g _ => g.sent) <| .value rfl rfl <| .value rfl rfl <|
    .value rfl rfl <| .value rfl rfl <| .sameMessages (fun s _ => s.sent) <|
    .message (fun f _ => f.sent) <| .message hybrid <| .same (fun b _ => b.sent) <|
    .message (fun n chosen => vectors n ?_) <|
    .message (fun n chosen => n.sent (ordered.nearObject n chosen)) <|
    .message (fun n chosen => texts n ?_) <| .message (fun n chosen => media rfl n ?_) <|
    .message (fun n chosen => media rfl n ?_) <| .message (fun n chosen => media rfl n ?_) <|
    .message (fun n chosen => media rfl n ?_) <| .message (fun n chosen => media rfl n ?_) <|
    .message (fun n chosen => media rfl n ?_) <| .same (fun g _ => g.sent) <|
    .same (fun r _ => r.sent) <| .value rfl rfl <| .value rfl rfl <| .value rfl rfl .done
  all_goals
    simp [Search.nearVectors, Search.nearTexts, Search.mediaMessages, Option.mem_def.mp chosen]

end OrderedMaps

@[simp] theorem ofFields_toFields (r : SearchRequest) : ofFields r.toFields = r := by
  unfold toFields
  simp [ofFields, Option.bind_map, Function.comp_def]

end SearchRequest

end VectorClient.Wire
