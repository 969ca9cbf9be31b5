import VectorClient.Proofs.KeyMap
import VectorClient.Proofs.Wire.Pieces

/-!
# Vector messages that arrive

What arrives of a message with vectors or targets, and that its contents are read as that message.
Weights lose the signs of zeros.
-/

namespace VectorClient.Wire

open Number

def WeightForTarget.received (w : WeightForTarget) : WeightForTarget :=
  { w with weight := w.weight.received }

def Targets.received (t : Targets) : Targets :=
  { t with
    weights := t.weights.map fun e => (e.1, e.2.received)
    weightsForTargets := t.weightsForTargets.map .received }

namespace Vectors

theorem sent (v : Vectors) : Sent .vectors v.toFields v.toFields := by
  refine .of_pieces ?_
  simp only [toFields, List.append_assoc]
  exact .value rfl rfl <| .value rfl rfl <| .value rfl rfl <| .value rfl rfl .done

@[simp] theorem ofFields_toFields (v : Vectors) : ofFields v.toFields = v := by
  simp [ofFields, toFields]

end Vectors

namespace WeightForTarget

theorem sent (w : WeightForTarget) : Sent .weightsForTarget w.toFields w.received.toFields := by
  refine .of_pieces ?_
  simp only [toFields, received, List.append_assoc]
  exact .value rfl rfl <| .single .done

@[simp] theorem ofFields_toFields (w : WeightForTarget) : ofFields w.toFields = w := by
  simp [ofFields, toFields]

end WeightForTarget

namespace Targets

theorem sent (t : Targets) (ordered : t.weights.Ordered) :
    Sent .targets t.toFields t.received.toFields := by
  refine .of_pieces ?_
  simp only [toFields, received, List.append_assoc]
  have weights : List.Forall₂
      (fun e e' => e'.1 = e.1 ∧ ArrivesInEntry Sent .float (.float e.2) (.float e'.2)) t.weights
      (t.weights.map fun e => (e.1, e.2.received)) := by
    rw [List.forall₂_map_right_iff, List.forall₂_same]
    exact fun e _ => ⟨rfl, .single e.2⟩
  exact .texts <| .value rfl rfl <| .scalarEntries .float ordered weights <|
    .messages (fun w _ => w.sent) .done

@[simp] theorem ofFields_toFields (t : Targets) : ofFields t.toFields = t := by
  simp [ofFields, toFields, Function.comp_def, Fields.floatEntries]

end Targets

namespace VectorForTarget

theorem sent (v : VectorForTarget) : Sent .vectorForTarget v.toFields v.toFields := by
  refine .of_pieces ?_
  simp only [toFields, List.append_assoc]
  exact .value rfl rfl <| .value rfl rfl <| .sameMessages (fun x _ => x.sent) .done

@[simp] theorem ofFields_toFields (v : VectorForTarget) : ofFields v.toFields = v := by
  simp [ofFields, toFields, Function.comp_def]

end VectorForTarget

end VectorClient.Wire
