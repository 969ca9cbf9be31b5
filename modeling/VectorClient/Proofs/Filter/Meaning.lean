import VectorClient.Proofs.Filter.Serialization

/-!
# The meaning of filters

Filters are built by conjunction and disjunction, of two operands or of a whole list, and an operand
joins a combination of its own kind on the left instead of nesting it. Whatever the nesting, the
message that is sent has the truth value of the expression that the filter was built by.
-/

namespace VectorClient

/-- Which comparisons hold, by operator, target and value as they are sent. -/
abbrev Wire.Assignment := Int32 → Wire.FilterTarget → Wire.TestValue → Bool

namespace Filter

open Wire (Assignment)

/-! ### Truth values -/

/-- Whether a comparison holds. One whose target has no sent form counts as false. -/
def comparisonHolds (truth : Assignment) (operator : Operator) (target : Target)
    (value : Literal) : Bool :=
  match target.resolve with
  | .ok sent => truth operator.number sent value.toWire
  | .error _ => false

mutual

def holds (truth : Assignment) : Filter → Bool
  | .allOf operands => (holdsEach truth operands).all id
  | .anyOf operands => (holdsEach truth operands).any id
  | .compare operator target value => comparisonHolds truth operator target value

def holdsEach (truth : Assignment) : List Filter → List Bool
  | [] => []
  | f :: rest => f.holds truth :: holdsEach truth rest

end

inductive Formula
  | compare (operator : Operator) (target : Target) (value : Literal)
  | and (left right : Formula)
  | or (left right : Formula)
  | allOf (operands : List Formula)
  | anyOf (operands : List Formula)

namespace Formula

mutual

def build : Formula → Filter
  | .compare operator target value => .compare operator target value
  | .and left right => left.build &&& right.build
  | .or left right => left.build ||| right.build
  | .allOf operands => .allOf (buildEach operands)
  | .anyOf operands => .anyOf (buildEach operands)

def buildEach : List Formula → List Filter
  | [] => []
  | f :: rest => f.build :: buildEach rest

end

mutual

def holds (truth : Assignment) : Formula → Bool
  | .compare operator target value => comparisonHolds truth operator target value
  | .and left right => left.holds truth && right.holds truth
  | .or left right => left.holds truth || right.holds truth
  | .allOf operands => (holdsEach truth operands).all id
  | .anyOf operands => (holdsEach truth operands).any id

def holdsEach (truth : Assignment) : List Formula → List Bool
  | [] => []
  | f :: rest => f.holds truth :: holdsEach truth rest

end

end Formula

end Filter

namespace Wire.Filters

open VectorClient.Filter (Connective)

mutual

/-- The truth value of a message: its operator joins its filters or compares its target with its
value. -/
def holds? (truth : Assignment) : Wire.Filters → Option Bool
  | ⟨number, operands, value, target⟩ =>
    if number = Connective.and.number then (holdsEach? truth operands).map (·.all id)
    else if number = Connective.or.number then (holdsEach? truth operands).map (·.any id)
    else target.bind fun t => value.map fun v => truth number t v

def holdsEach? (truth : Assignment) : List Wire.Filters → Option (List Bool)
  | [] => some []
  | w :: rest => (w.holds? truth).bind fun first => (holdsEach? truth rest).map (first :: ·)

end

end Wire.Filters

namespace Filter

open Wire (Assignment)

variable {truth : Assignment}

/-! ### Building -/

theorem holdsEach_append (operands others : List Filter) :
    holdsEach truth (operands ++ others) = holdsEach truth operands ++ holdsEach truth others := by
  induction operands with
  | nil => rfl
  | cons f rest ih => rw [List.cons_append, holdsEach, holdsEach, ih, List.cons_append]

theorem holds_allOf_pair (f g : Filter) :
    (Filter.allOf [f, g]).holds truth = (f.holds truth && g.holds truth) := by
  simp [holds, holdsEach]

theorem holds_anyOf_pair (f g : Filter) :
    (Filter.anyOf [f, g]).holds truth = (f.holds truth || g.holds truth) := by
  simp [holds, holdsEach]

theorem holds_and (f g : Filter) : (f &&& g).holds truth = (f.holds truth && g.holds truth) := by
  cases f with
  | allOf operands =>
    -- A conjunction takes the other filter as its last operand.
    change (Filter.allOf (operands ++ [g])).holds truth = _
    rw [holds, holds, holdsEach_append, List.all_append]
    simp [holdsEach]
  | anyOf operands => exact holds_allOf_pair (.anyOf operands) g
  | compare operator target value => exact holds_allOf_pair (.compare operator target value) g

theorem holds_or (f g : Filter) : (f ||| g).holds truth = (f.holds truth || g.holds truth) := by
  cases f with
  | anyOf operands =>
    -- A disjunction takes the other filter as its last operand.
    change (Filter.anyOf (operands ++ [g])).holds truth = _
    rw [holds, holds, holdsEach_append, List.any_append]
    simp [holdsEach]
  | allOf operands => exact holds_anyOf_pair (.allOf operands) g
  | compare operator target value => exact holds_anyOf_pair (.compare operator target value) g

namespace Formula

mutual

theorem holds_build : ∀ f : Formula, f.build.holds truth = f.holds truth
  | .compare operator target value => by rw [build, Filter.holds, holds]
  | .and left right => by rw [build, holds_and, holds_build left, holds_build right, holds]
  | .or left right => by rw [build, holds_or, holds_build left, holds_build right, holds]
  | .allOf operands => by rw [build, Filter.holds, holdsEach_buildEach operands, holds]
  | .anyOf operands => by rw [build, Filter.holds, holdsEach_buildEach operands, holds]

theorem holdsEach_buildEach : ∀ operands : List Formula,
    Filter.holdsEach truth (buildEach operands) = holdsEach truth operands
  | [] => rfl
  | f :: rest => by
    rw [buildEach, Filter.holdsEach, holds_build f, holdsEach_buildEach rest, holdsEach]

end

end Formula

/-! ### Sending -/

theorem Operator.number_ne_connective (operator : Operator) (connective : Connective) :
    operator.number ≠ connective.number := by
  cases operator <;> cases connective <;> decide

theorem holds?_comparison {operator : Operator} {target : Target} {value : Literal}
    {w : Wire.Filters} (sent : (Filter.compare operator target value).serialize = .ok w) :
    w.holds? truth = some (comparisonHolds truth operator target value) := by
  rw [serialize] at sent
  split at sent
  · obtain ⟨resolved, target_resolved, done⟩ := bind_ok.mp sent
    obtain rfl := pure_ok done
    rw [Wire.Filters.holds?, if_neg (operator.number_ne_connective .and),
      if_neg (operator.number_ne_connective .or), comparisonHolds, target_resolved]
    rfl
  · cases sent

mutual

theorem holds?_of_serialize : ∀ {f : Filter} {w : Wire.Filters},
    f.serialize = .ok w → w.holds? truth = some (f.holds truth)
  | .allOf operands, w, sent => by
    obtain ⟨ws, operands_sent, combined⟩ := bind_ok.mp sent
    rw [combine_ok combined, Wire.Filters.holds?, if_pos rfl,
      holdsEach?_of_serializeAll operands_sent, holds]
    rfl
  | .anyOf operands, w, sent => by
    obtain ⟨ws, operands_sent, combined⟩ := bind_ok.mp sent
    rw [combine_ok combined, Wire.Filters.holds?, if_neg (by decide), if_pos rfl,
      holdsEach?_of_serializeAll operands_sent, holds]
    rfl
  | .compare operator target value, w, sent => by rw [holds?_comparison sent, holds]

theorem holdsEach?_of_serializeAll : ∀ {operands : List Filter} {ws : List Wire.Filters},
    serializeAll operands = .ok ws →
      Wire.Filters.holdsEach? truth ws = some (holdsEach truth operands)
  | [], ws, sent => by
    obtain rfl := Except.ok.inj sent
    rfl
  | f :: rest, ws, sent => by
    obtain ⟨w, others, first, done, rfl⟩ := serializeAll_cons_ok.mp sent
    rw [Wire.Filters.holdsEach?, holds?_of_serialize first, holdsEach?_of_serializeAll done,
      holdsEach]
    rfl

end

/-- Under every assignment, a message that is sent has the truth value of the formula that its
filter was built by. -/
theorem Formula.holds?_of_sent (truth : Assignment) {f : Formula} {w : Wire.Filters}
    (sent : f.build.serialize = .ok w) : w.holds? truth = some (f.holds truth) := by
  have kept : f.build.holds truth = f.holds truth := holds_build f
  rw [holds?_of_serialize sent, kept]

/-- A disjunction inside of a conjunction, and one that starts without operands. -/
theorem Formula.holds?_of_sent_mixed :
    let isNull (name : String) : Formula := .compare .isNull (.property name) (.boolean true)
    let f : Formula :=
      .and (.and (.or (isNull "a") (isNull "b")) (.allOf [isNull "c"]))
        (.or (.anyOf []) (isNull "d"))
    let only (names : List String) : Assignment := fun _ target _ =>
      names.any fun name => target = .property name
    ∃ w, f.build.serialize = .ok w ∧ w.filters.length = 3 ∧
      w.holds? (only ["b", "c", "d"]) = some true ∧
      w.holds? (only ["a", "b", "c"]) = some false := by
  intro isNull f only
  have sent : ∃ w, f.build.serialize = .ok w ∧ w.filters.length = 3 := ⟨_, rfl, rfl⟩
  obtain ⟨w, sent, three⟩ := sent
  exact ⟨w, sent, three, Formula.holds?_of_sent _ sent, Formula.holds?_of_sent _ sent⟩

end Filter

end VectorClient
