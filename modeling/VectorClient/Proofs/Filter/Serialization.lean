import VectorClient.Filter.Wire
import VectorClient.Proofs.Date.Text
import VectorClient.Proofs.Steps
import VectorClient.Proofs.Uuid

/-!
# Filters as they are sent

A filter is sent iff each node of its tree is well formed, and otherwise refused for the first node
that is not. What is sent is read back as the filter with its dates and ids as text, so that
nothing of it is lost.
-/

namespace VectorClient.Filter

/-! ### Well-formed nodes -/

inductive Operator.Takes : Operator → Literal → Prop
  | pattern (s : String) : Takes .like (.text s)
  | nullness (b : Bool) : Takes .isNull (.boolean b)
  | anyOf {value : Literal} (array : value.isArray = true) : Takes .containsAny value
  | allOf {value : Literal} (array : value.isArray = true) : Takes .containsAll value
  | range (g : GeoRange) : Takes .withinGeoRange (.geoRange g)
  | value {operator : Operator} {value : Literal}
      (comparison : operator ∈ [.equal, .notEqual, .lessThan, .lessThanEqual, .greaterThan,
        .greaterThanEqual])
      (noRange : ∀ g, value ≠ .geoRange g) : Takes operator value

theorem Operator.accepts_iff {operator : Operator} {value : Literal} :
    operator.accepts value = true ↔ operator.Takes value := by
  constructor
  · intro accepted
    cases operator with
    | like => cases value <;> first | exact .pattern _ | cases accepted
    | isNull => cases value <;> first | exact .nullness _ | cases accepted
    | containsAny => exact .anyOf accepted
    | containsAll => exact .allOf accepted
    | withinGeoRange => cases value <;> first | exact .range _ | cases accepted
    | equal | notEqual | lessThan | lessThanEqual | greaterThan | greaterThanEqual =>
      refine .value (by decide) fun g isRange => ?_
      subst isRange
      cases accepted
  · intro takes
    cases takes with
    | pattern => rfl
    | nullness => rfl
    | anyOf array => exact array
    | allOf array => exact array
    | range => rfl
    | value comparison noRange =>
      cases value with
      | geoRange g => exact absurd rfl (noRange g)
      | _ => cases operator <;> first | rfl | exact absurd comparison (by decide)

def Target.names : Target → List String
  | .property name => [name]
  | .count link => [link]
  | .dangling link => link.name :: link.collection.toList
  | .via link next => link.name :: link.collection.toList ++ next.names

structure Target.Complete (t : Target) : Prop where
  terminal : t.isTerminal = true
  named : ∀ name ∈ t.names, Text.isBlank name = false

mutual

/-- The filter and all filters inside of it, each before its operands. -/
def nodes : Filter → List Filter
  | .allOf operands => .allOf operands :: nodesOfAll operands
  | .anyOf operands => .anyOf operands :: nodesOfAll operands
  | .compare operator target value => [.compare operator target value]

def nodesOfAll : List Filter → List Filter
  | [] => []
  | f :: rest => f.nodes ++ nodesOfAll rest

end

/-- Whether the node itself, without the nodes inside of it, can be sent. -/
def IsWellFormed : Filter → Prop
  | .allOf operands => operands ≠ []
  | .anyOf operands => operands ≠ []
  | .compare operator target value => operator.Takes value ∧ target.Complete

/-! ### Faults -/

namespace Target

def nameFault? (fault : TargetFault) (name : String) : Option TargetFault :=
  if Text.isBlank name then some fault else none

/-- The first fault of a chain: a link counts before what it leads to, and that before the
collection that the link is limited to. -/
def fault? : Target → Option TargetFault
  | .property name => nameFault? .blankProperty name
  | .count link => nameFault? .blankReference link
  | .dangling link => some (.dangling link.name)
  | .via link next =>
    (nameFault? .blankReference link.name).or
      (next.fault?.or (link.collection.bind (nameFault? .blankCollection)))

theorem nameFault?_eq_none {fault : TargetFault} {name : String} :
    nameFault? fault name = none ↔ Text.isBlank name = false := by
  unfold nameFault?
  cases Text.isBlank name <;> simp

theorem fault?_checkName (fault : TargetFault) (name : String) :
    VectorClient.fault? (checkName fault name) =
      (nameFault? fault name).map .invalidFilterTarget := by
  unfold checkName nameFault?
  split <;> rfl

theorem fault?_eq_none {t : Target} : t.fault? = none ↔ t.Complete := by
  induction t with
  | property name =>
    rw [fault?, nameFault?_eq_none]
    exact ⟨fun named => ⟨rfl, by simpa [names] using named⟩,
      fun complete => complete.named name (List.mem_singleton_self name)⟩
  | count link =>
    rw [fault?, nameFault?_eq_none]
    exact ⟨fun named => ⟨rfl, by simpa [names] using named⟩,
      fun complete => complete.named link (List.mem_singleton_self link)⟩
  | dangling link =>
    constructor
    · intro faultless
      cases faultless
    · intro complete
      cases complete.terminal
  | via link next ih =>
    have limited : link.collection.bind (nameFault? .blankCollection) = none ↔
        ∀ name ∈ link.collection.toList, Text.isBlank name = false := by
      cases link.collection with
      | none => simp
      | some collection => simp [nameFault?_eq_none]
    rw [fault?, Option.or_eq_none_iff, Option.or_eq_none_iff, nameFault?_eq_none, ih, limited]
    constructor
    · rintro ⟨outer, inner, collection⟩
      refine ⟨inner.terminal, ?_⟩
      simp only [names, List.cons_append, List.forall_mem_cons, List.forall_mem_append]
      exact ⟨outer, collection, inner.named⟩
    · rintro ⟨terminal, named⟩
      simp only [names, List.cons_append, List.forall_mem_cons, List.forall_mem_append] at named
      exact ⟨named.1, ⟨terminal, named.2.2⟩, named.2.1⟩

theorem fault?_resolve (t : Target) :
    VectorClient.fault? t.resolve = t.fault?.map .invalidFilterTarget := by
  induction t with
  | property name =>
    rw [resolve, fault?_bind_pure, fault?_checkName]
    rfl
  | count link =>
    rw [resolve, fault?_bind_pure, fault?_checkName]
    rfl
  | dangling link => rfl
  | via link next ih =>
    obtain ⟨name, collection⟩ := link
    rw [resolve, fault?_bind fun _ _ => fault?_bind fun inner _ => ?limited, fault?_checkName, ih,
      fault?, Option.map_or, Option.map_or]
    case limited =>
      cases collection with
      | none => rfl
      | some collection =>
        exact fault?_bind_pure.trans (fault?_checkName _ _)

end Target

/-- The fault of the node itself; that of the literal counts before that of the target. -/
def ownFault? : Filter → Option Error
  | .allOf operands =>
    if operands = [] then some (.invalidInput (.emptyCombination .and)) else none
  | .anyOf operands =>
    if operands = [] then some (.invalidInput (.emptyCombination .or)) else none
  | .compare operator target value =>
    if operator.accepts value then target.fault?.map .invalidFilterTarget
    else some (.invalidInput (.rejectedLiteral operator value))

theorem ownFault?_eq_none {f : Filter} : ownFault? f = none ↔ f.IsWellFormed := by
  cases f with
  | allOf operands => simp [ownFault?, IsWellFormed]
  | anyOf operands => simp [ownFault?, IsWellFormed]
  | compare operator target value =>
    rw [IsWellFormed, ← Operator.accepts_iff, ← Target.fault?_eq_none, ownFault?]
    cases operator.accepts value <;> simp

theorem serializeAll_cons_ok {f : Filter} {rest : List Filter} {ws : List Wire.Filters} :
    serializeAll (f :: rest) = .ok ws ↔
      ∃ w others, f.serialize = .ok w ∧ serializeAll rest = .ok others ∧ ws = w :: others := by
  rw [serializeAll, bind_ok]
  constructor
  · rintro ⟨w, first, others_done⟩
    obtain ⟨others, done, same⟩ := bind_ok.mp others_done
    exact ⟨w, others, first, done, (pure_ok same).symm⟩
  · rintro ⟨w, others, first, done, rfl⟩
    exact ⟨w, first, bind_ok.mpr ⟨others, done, rfl⟩⟩

theorem fault?_combine (connective : Connective) (operands : List Filter) :
    fault? (serializeAll operands >>= combine connective) =
      (if operands = [] then some (.invalidInput (.emptyCombination connective)) else none).or
        (fault? (serializeAll operands)) := by
  cases operands with
  | nil => rfl
  | cons f rest =>
    refine (fault?_bind fun ws done => ?_).trans Option.or_none
    obtain ⟨w, others, _, _, rfl⟩ := serializeAll_cons_ok.mp done
    rfl

mutual

theorem fault?_serialize : ∀ f : Filter, fault? f.serialize = f.nodes.findSome? ownFault?
  | .allOf operands => by
    rw [serialize, fault?_combine, fault?_serializeAll operands, nodes, List.findSome?_cons]
    cases operands <;> rfl
  | .anyOf operands => by
    rw [serialize, fault?_combine, fault?_serializeAll operands, nodes, List.findSome?_cons]
    cases operands <;> rfl
  | .compare operator target value => by
    rw [serialize, nodes, List.findSome?_singleton, ownFault?]
    split
    · rw [fault?_bind_pure, target.fault?_resolve]
    · rfl

theorem fault?_serializeAll : ∀ operands : List Filter,
    fault? (serializeAll operands) = (nodesOfAll operands).findSome? ownFault?
  | [] => rfl
  | f :: rest => by
    rw [serializeAll, fault?_bind fun _ _ => fault?_bind_pure, fault?_serialize f,
      fault?_serializeAll rest, nodesOfAll, List.findSome?_append]

end

/-! ### Reading back -/

/-- Dates and ids as the texts that they are sent as. -/
def Literal.textual : Literal → Literal
  | .date d => .text d.text
  | .uuid id => .text id.text
  | .dateArray values => .textArray (values.map Date.text)
  | .uuidArray values => .textArray (values.map Uuid.text)
  | value => value

mutual

/-- The filter with all its literals textual. -/
def textual : Filter → Filter
  | .allOf operands => .allOf (textualAll operands)
  | .anyOf operands => .anyOf (textualAll operands)
  | .compare operator target value => .compare operator target value.textual

def textualAll : List Filter → List Filter
  | [] => []
  | f :: rest => f.textual :: textualAll rest

end

def Operator.all : List Operator :=
  [.equal, .notEqual, .lessThan, .lessThanEqual, .greaterThan, .greaterThanEqual, .like, .isNull,
    .containsAny, .containsAll, .withinGeoRange]

def Operator.ofNumber? (number : Int32) : Option Operator :=
  Operator.all.find? (·.number = number)

def Target.ofWire : Wire.FilterTarget → Target
  | .property name => .property name
  | .count on => .count on
  | .singleTarget on target => .via ⟨on, none⟩ (ofWire target)
  | .multiTarget on target collection => .via ⟨on, some collection⟩ (ofWire target)

def Literal.ofWire : Wire.TestValue → Literal
  | .text s => .text s
  | .int n => .int n
  | .boolean b => .boolean b
  | .number x => .number x
  | .textArray values => .textArray values
  | .intArray values => .intArray values
  | .booleanArray values => .booleanArray values
  | .numberArray values => .numberArray values
  | .geo g => .geoRange ⟨g.latitude, g.longitude, g.distance⟩

mutual

/-- The filter that a message was made of, up to dates and ids. -/
def ofWire? : Wire.Filters → Option Filter
  | ⟨number, _, some value, some target⟩ =>
    (Operator.ofNumber? number).map (.compare · (.ofWire target) (.ofWire value))
  | ⟨number, operands, none, none⟩ =>
    if number = Connective.and.number then (ofWireAll? operands).map .allOf
    else if number = Connective.or.number then (ofWireAll? operands).map .anyOf
    else none
  | _ => none

def ofWireAll? : List Wire.Filters → Option (List Filter)
  | [] => some []
  | w :: rest => (ofWire? w).bind fun f => (ofWireAll? rest).map (f :: ·)

end

theorem Operator.ofNumber?_number (operator : Operator) :
    Operator.ofNumber? operator.number = some operator := by
  cases operator <;> rfl

theorem Literal.ofWire_toWire (value : Literal) : Literal.ofWire value.toWire = value.textual := by
  cases value <;> rfl

theorem Target.ofWire_of_resolve {t : Target} {w : Wire.FilterTarget}
    (resolved : t.resolve = .ok w) :
    Target.ofWire w = t := by
  induction t generalizing w with
  | property name =>
    obtain ⟨_, _, done⟩ := bind_ok.mp resolved
    obtain rfl := pure_ok done
    rfl
  | count link =>
    obtain ⟨_, _, done⟩ := bind_ok.mp resolved
    obtain rfl := pure_ok done
    rfl
  | dangling link => cases resolved
  | via link next ih =>
    obtain ⟨_, _, later⟩ := bind_ok.mp resolved
    obtain ⟨inner, inner_resolved, last⟩ := bind_ok.mp later
    obtain ⟨name, collection⟩ := link
    cases collection with
    | none =>
      obtain rfl := pure_ok last
      rw [Target.ofWire, ih inner_resolved]
    | some collection =>
      obtain ⟨_, _, done⟩ := bind_ok.mp last
      obtain rfl := pure_ok done
      rw [Target.ofWire, ih inner_resolved]

theorem combine_ok {connective : Connective} {operands : List Wire.Filters} {w : Wire.Filters}
    (combined : combine connective operands = .ok w) :
    w = { operator := connective.number, filters := operands } := by
  cases operands with
  | nil => cases combined
  | cons => exact (Except.ok.inj combined).symm

mutual

theorem ofWire?_of_serialize : ∀ {f : Filter} {w : Wire.Filters},
    f.serialize = .ok w → ofWire? w = some f.textual
  | .allOf operands, w, sent => by
    obtain ⟨ws, operands_sent, combined⟩ := bind_ok.mp sent
    rw [combine_ok combined, ofWire?, if_pos rfl, ofWireAll?_of_serializeAll operands_sent]
    rfl
  | .anyOf operands, w, sent => by
    obtain ⟨ws, operands_sent, combined⟩ := bind_ok.mp sent
    rw [combine_ok combined, ofWire?, if_neg (by decide), if_pos rfl,
      ofWireAll?_of_serializeAll operands_sent]
    rfl
  | .compare operator target value, w, sent => by
    have accepted : operator.accepts value = true := by
      rw [serialize] at sent
      split at sent
      · assumption
      · cases sent
    rw [serialize, if_pos accepted] at sent
    obtain ⟨resolved, target_resolved, done⟩ := bind_ok.mp sent
    obtain rfl := pure_ok done
    rw [ofWire?, Operator.ofNumber?_number, Target.ofWire_of_resolve target_resolved,
      Literal.ofWire_toWire]
    rfl

theorem ofWireAll?_of_serializeAll : ∀ {operands : List Filter} {ws : List Wire.Filters},
    serializeAll operands = .ok ws → ofWireAll? ws = some (textualAll operands)
  | [], ws, sent => by
    obtain rfl := Except.ok.inj sent
    rfl
  | f :: rest, ws, sent => by
    obtain ⟨w, others, first, done, rfl⟩ := serializeAll_cons_ok.mp sent
    rw [ofWireAll?, ofWire?_of_serialize first, ofWireAll?_of_serializeAll done]
    rfl

end

/-! ### What is sent and what is refused -/

/-- Exactly the filters whose nodes are all well formed are sent, any other one is refused for its
first node that is not, and two filters that are sent as one message differ only in how they hold
the texts of dates and ids. -/
theorem serialize_exact (f : Filter) :
    ((∃ w, f.serialize = .ok w) ↔ ∀ node ∈ f.nodes, node.IsWellFormed) ∧
      (∀ e, f.serialize = .error e ↔ ∃ before node after, f.nodes = before ++ node :: after ∧
        (∀ earlier ∈ before, earlier.IsWellFormed) ∧ ownFault? node = some e) ∧
      ∀ (g : Filter) w, f.serialize = .ok w → g.serialize = .ok w → f.textual = g.textual := by
  refine ⟨?_, fun e => ?_, fun g w sent same => ?_⟩
  · rw [← fault?_eq_none, fault?_serialize, List.findSome?_eq_none_iff]
    exact forall₂_congr fun node _ => ownFault?_eq_none
  · rw [← fault?_eq_some, fault?_serialize, List.findSome?_eq_some_iff]
    constructor
    · rintro ⟨before, node, after, split, faulty, faultless⟩
      exact ⟨before, node, after, split,
        fun earlier member => ownFault?_eq_none.mp (faultless earlier member), faulty⟩
    · rintro ⟨before, node, after, split, wellFormed, faulty⟩
      exact ⟨before, node, after, split, faulty,
        fun earlier member => ownFault?_eq_none.mpr (wellFormed earlier member)⟩
  · exact Option.some.inj ((ofWire?_of_serialize sent).symm.trans (ofWire?_of_serialize same))

/-- An empty conjunction inside of a disjunction, which follows a well-formed comparison; and a date
that is sent as its text. -/
theorem serialize_exact_nested :
    let isNull : Filter := .compare .isNull (.property "a") (.boolean true)
    let after (value : Literal) : Filter :=
      .compare .greaterThan (.via ⟨"b", some "C"⟩ (.count "d")) value
    let inner : Filter := .anyOf [.allOf [], after (.int 0)]
    (Filter.allOf [isNull, inner]).serialize = .error (.invalidInput (.emptyCombination .and)) ∧
      (∃ w, (after (.date .epoch)).serialize = .ok w ∧
        (after (.text Date.epoch.text)).serialize = .ok w) ∧
      (after (.date .epoch)).textual = (after (.text Date.epoch.text)).textual := by
  intro isNull after inner
  have isNull_wellFormed : isNull.IsWellFormed := ⟨.nullness _, rfl, by decide⟩
  have inner_wellFormed : inner.IsWellFormed := List.cons_ne_nil _ _
  have outer_wellFormed : IsWellFormed (.allOf [isNull, inner]) := List.cons_ne_nil _ _
  have sent : ∃ w, (after (.date .epoch)).serialize = .ok w ∧
      (after (.text Date.epoch.text)).serialize = .ok w := ⟨_, rfl, rfl⟩
  obtain ⟨w, as_date, as_text⟩ := sent
  refine ⟨((serialize_exact (.allOf [isNull, inner])).2.1 _).mpr
    ⟨[.allOf [isNull, inner], isNull, inner], .allOf [], [after (.int 0)], rfl, ?_, rfl⟩,
    ⟨w, as_date, as_text⟩, (serialize_exact _).2.2 _ w as_date as_text⟩
  simp only [List.forall_mem_cons, List.not_mem_nil, false_implies, implies_true, and_true]
  exact ⟨outer_wellFormed, isNull_wellFormed, inner_wellFormed⟩

end VectorClient.Filter
