import VectorClient.Proofs.Filter.Serialization

/-!
# Joined filters

Two filters that are joined by `and` or `or` are sent iff both can be sent, and else refused with
the fault of the first that cannot. There is one exception: a combination without operands is
refused alone, but on the left of its own connective it is extended by the other filter, so that its
fault is gone.
-/

namespace VectorClient.Filter

/-! ### Connectives -/

namespace Connective

def combination : Connective → List Filter → Filter
  | .and, operands => .allOf operands
  | .or, operands => .anyOf operands

def join : Connective → Filter → Filter → Filter
  | .and, f, g => f &&& g
  | .or, f, g => f ||| g

/-- The operands of a combination of this kind. -/
def operands? : Connective → Filter → Option (List Filter)
  | .and, .allOf operands => some operands
  | .or, .anyOf operands => some operands
  | _, _ => none

variable {c : Connective} {f : Filter} {operands : List Filter}

theorem operands?_eq_some : c.operands? f = some operands ↔ f = c.combination operands := by
  cases c <;> cases f <;> simp [operands?, combination]

theorem join_combination (g : Filter) :
    c.join (c.combination operands) g = c.combination (operands ++ [g]) := by
  cases c <;> rfl

theorem join_of_operands?_eq_none (g : Filter) (other : c.operands? f = none) :
    c.join f g = c.combination [f, g] := by
  cases c with
  | and =>
    cases f with
    | allOf => cases other
    | anyOf | compare => rfl
  | or =>
    cases f with
    | anyOf => cases other
    | allOf | compare => rfl

end Connective

/-! ### Faults -/

theorem fault?_serialize_operands (operands : List Filter) :
    fault? (serializeAll operands) = operands.findSome? fun f => fault? f.serialize := by
  induction operands with
  | nil => rfl
  | cons f rest ih =>
    rw [serializeAll, fault?_bind fun _ _ => fault?_bind_pure, ih, List.findSome?_cons]
    cases fault? f.serialize <;> rfl

theorem fault?_combination {c : Connective} {operands : List Filter} (nonempty : operands ≠ []) :
    fault? (c.combination operands).serialize =
      operands.findSome? fun f => fault? f.serialize := by
  rw [← fault?_serialize_operands]
  cases c with
  | and => rw [Connective.combination, serialize, fault?_combine, if_neg nonempty, Option.none_or]
  | or => rw [Connective.combination, serialize, fault?_combine, if_neg nonempty, Option.none_or]

theorem fault?_join_empty (c : Connective) (g : Filter) :
    fault? (c.join (c.combination []) g).serialize = fault? g.serialize := by
  rw [c.join_combination, List.nil_append, fault?_combination (List.cons_ne_nil _ _),
    List.findSome?_singleton]

/-- The left filter counts first. -/
theorem fault?_join {c : Connective} {f : Filter} (g : Filter) (filled : f ≠ c.combination []) :
    fault? (c.join f g).serialize = (fault? f.serialize).or (fault? g.serialize) := by
  cases own : c.operands? f with
  | none =>
    rw [c.join_of_operands?_eq_none g own, fault?_combination (List.cons_ne_nil _ _),
      List.findSome?_cons, List.findSome?_singleton]
    cases fault? f.serialize <;> rfl
  | some operands =>
    obtain rfl := Connective.operands?_eq_some.mp own
    have nonempty : operands ≠ [] := fun empty => filled (empty ▸ rfl)
    rw [c.join_combination, fault?_combination (List.append_ne_nil_of_left_ne_nil nonempty _),
      fault?_combination nonempty, List.findSome?_append, List.findSome?_singleton]

theorem join_accepted_iff (c : Connective) (f g : Filter) :
    (∃ w, (c.join f g).serialize = .ok w) ↔
      (f = c.combination [] ∨ ∃ w, f.serialize = .ok w) ∧ ∃ w, g.serialize = .ok w := by
  simp only [← fault?_eq_none]
  by_cases empty : f = c.combination []
  · rw [empty, fault?_join_empty]
    exact ⟨fun sent => ⟨.inl rfl, sent⟩, And.right⟩
  · rw [fault?_join g empty, Option.or_eq_none_iff, or_iff_right empty]

/-! ### What is sent -/

/-- Joined filters are sent iff both can be sent, where a combination without operands passes on the
left of its own connective. -/
theorem joined_accepted_iff (f g : Filter) :
    ((∃ w, (f &&& g).serialize = .ok w) ↔
      (f = .allOf [] ∨ ∃ w, f.serialize = .ok w) ∧ ∃ w, g.serialize = .ok w) ∧
    ((∃ w, (f ||| g).serialize = .ok w) ↔
      (f = .anyOf [] ∨ ∃ w, f.serialize = .ok w) ∧ ∃ w, g.serialize = .ok w) :=
  ⟨join_accepted_iff .and f g, join_accepted_iff .or f g⟩

/-- A combination without operands is refused alone, on the right and under the other connective,
but not on the left under its own. -/
theorem empty_operand_hidden :
    let f : Filter := .compare .isNull (.property "a") (.boolean true)
    (Filter.allOf []).serialize = .error (.invalidInput (.emptyCombination .and)) ∧
      (f &&& Filter.allOf []).serialize = .error (.invalidInput (.emptyCombination .and)) ∧
      (Filter.allOf [] ||| f).serialize = .error (.invalidInput (.emptyCombination .and)) ∧
      (∃ w, (Filter.allOf [] &&& f).serialize = .ok w) ∧
      (Filter.anyOf []).serialize = .error (.invalidInput (.emptyCombination .or)) ∧
      ∃ w, (Filter.anyOf [] ||| f).serialize = .ok w := by
  intro f
  exact ⟨rfl, rfl, rfl, ⟨_, rfl⟩, rfl, _, rfl⟩

end VectorClient.Filter
