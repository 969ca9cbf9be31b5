import VectorClient.Proofs.Date.Range
import VectorClient.Proofs.Uuid
import VectorClient.Proofs.Vector.Lanes
import VectorClient.Property.Wire

/-!
# Properties read back

A property tree that is written in either form of lists is read as its normal form: phone numbers
keep what was given, and an untyped list without elements loses its type. The proof follows the
recursion of both directions, over properties, their maps, and lists of maps.
-/

namespace VectorClient

open Number

/-! ### What survives -/

mutual

/-- The property and all properties inside of it, at any depth. -/
def Property.nodes : Property → List Property
  | .object fields => .object fields :: nodesOfFields fields
  | .objectArray values => .objectArray values :: nodesOfObjects values
  | p => [p]

def nodesOfFields : List (String × Property) → List Property
  | [] => []
  | (_, p) :: rest => p.nodes ++ nodesOfFields rest

def nodesOfObjects : List (List (String × Property)) → List Property
  | [] => []
  | fields :: rest => nodesOfFields fields ++ nodesOfObjects rest

end

def Properties.nodes (p : Properties) : List Property := nodesOfFields p

def Property.dates : Property → List Date
  | .date d => [d]
  | .dateArray values => values
  | _ => []

def Property.intElements : Property → List Int64
  | .intArray values => values
  | _ => []

structure Property.Survives (typed : Bool) (p : Property) : Prop where
  dates : ∀ d ∈ p.dates, d.HasPlainYear
  ints : typed = true → ∀ n ∈ p.intElements, n.toInt.natAbs ≤ pow2 53

instance (typed : Bool) (p : Property) : Decidable (p.Survives typed) :=
  have : Decidable (∀ d ∈ p.dates, d.HasPlainYear) := List.decidableBAll _ p.dates
  have : Decidable (∀ n ∈ p.intElements, n.toInt.natAbs ≤ pow2 53) :=
    List.decidableBAll _ p.intElements
  decidable_of_iff
    ((∀ d ∈ p.dates, d.HasPlainYear) ∧
      (typed = true → ∀ n ∈ p.intElements, n.toInt.natAbs ≤ pow2 53))
    ⟨fun both => ⟨both.1, both.2⟩, fun survives => ⟨survives.dates, survives.ints⟩⟩

structure Property.IsHeld (typed : Bool) (p : Property) : Prop where
  dates : ∀ d ∈ p.dates, d.HasPlainYear
  ints : typed = true → ∀ n ∈ p.intElements, (Double.ofInt n.toInt).round? = some n.toInt

theorem Property.Survives.isHeld {typed : Bool} {p : Property} (survives : p.Survives typed) :
    p.IsHeld typed :=
  ⟨survives.dates, fun whole n member => Double.round?_ofInt (survives.ints whole n member)⟩

/-! ### Normal forms -/

def PhoneNumber.normal (p : PhoneNumber) : PhoneNumber :=
  { input := p.input, defaultCountry := p.defaultCountry.filter (· ≠ "") }

/-- A list of elements of one type, which it shows by an element unless it is typed as a whole. -/
def listNormal {α : Type} (typed : Bool) (make : List α → Property) (values : List α) : Property :=
  if typed = false ∧ values.isEmpty then .textArray [] else make values

mutual

/-- What is read of a property that was written. -/
def Property.normal (typed : Bool) : Property → Property
  | .text s => .text s
  | .int n => .int n
  | .number x => .number x
  | .boolean b => .boolean b
  | .date d => .date d
  | .uuid id => .uuid id
  | .blob s => .blob s
  | .geo g => .geo g
  | .phone p => .phone p.normal
  | .object fields => .object (normalFields typed fields)
  | .textArray values => listNormal typed .textArray values
  | .intArray values => listNormal typed .intArray values
  | .numberArray values => listNormal typed .numberArray values
  | .booleanArray values => listNormal typed .booleanArray values
  | .dateArray values => listNormal typed .dateArray values
  | .uuidArray values => listNormal typed .uuidArray values
  | .objectArray values => listNormal typed .objectArray (normalObjects typed values)

def normalFields (typed : Bool) : List (String × Property) → List (String × Property)
  | [] => []
  | (name, p) :: rest => (name, p.normal typed) :: normalFields typed rest

def normalObjects (typed : Bool) :
    List (List (String × Property)) → List (List (String × Property))
  | [] => []
  | fields :: rest => normalFields typed fields :: normalObjects typed rest

end

def Properties.normal (caps : Capabilities) (p : Properties) : Properties :=
  normalFields (caps.supports .typedListValues) p

/-! ### Values without parts -/

theorem PhoneNumber.ofWire_toWire (p : PhoneNumber) : PhoneNumber.ofWire p.toWire = p.normal := by
  have country : nonEmpty? (p.defaultCountry.getD "") = p.defaultCountry.filter (· ≠ "") := by
    cases p.defaultCountry with
    | none => rfl
    | some country =>
      by_cases empty : country = ""
      · simp [nonEmpty?, Option.filter, empty]
      · simp [nonEmpty?, Option.filter, empty]
  simp only [ofWire, toWire, country, normal]
  rfl

theorem readUuid_text (id : Uuid) : readUuid id.text = .ok id := by
  rw [readUuid, Uuid.read?_text]

/-! ### Lists -/

variable {α : Type}

theorem collectAs_map {get? : Property → Option α} {mk : α → Property}
    (inverse : ∀ a, get? (mk a) = some a) (first : Property) (values : List α) :
    collectAs get? first (values.map mk) = .ok values := by
  refine mapM_map_of_inverse fun a _ => ?_
  simp only [inverse]

theorem gather_map {get? : Property → Option α} {mk : α → Property} {make : List α → Property}
    (gathered : ∀ a rest, gather (mk a :: rest) = make <$> collectAs get? (mk a) (mk a :: rest))
    (inverse : ∀ a, get? (mk a) = some a) (values : List α) :
    gather (values.map mk) = .ok (listNormal false make values) := by
  cases values with
  | nil => rfl
  | cons a rest =>
    have collected := collectAs_map inverse (mk a) (a :: rest)
    rw [List.map_cons] at collected ⊢
    rw [gathered, collected]
    rfl

theorem elementsOfWire_map {write : α → Wire.Value} {mk : α → Property} {values : List α}
    (each : ∀ a ∈ values, Property.ofWire (write a) = .ok (some (mk a))) (index : Nat) :
    elementsOfWire index (values.map write) = .ok (values.map mk) := by
  induction values generalizing index with
  | nil => rfl
  | cons a rest ih =>
    have others := ih (fun b member => each b (List.mem_cons_of_mem _ member)) (index + 1)
    rw [List.map_cons, elementsOfWire, each a List.mem_cons_self, others]
    rfl

theorem Property.ofWire_list {typed : Bool} {kind : Wire.ListKind} {elements : List Wire.Value}
    {get? : Property → Option α} {values : List α} (mk : α → Property) (make : List α → Property)
    (gathered : ∀ a rest, gather (mk a :: rest) = make <$> collectAs get? (mk a) (mk a :: rest))
    (inverse : ∀ a, get? (mk a) = some a)
    (whole : typed = true → Property.ofWire (.list [] kind) = .ok (some (make values)))
    (single : elementsOfWire 0 elements = .ok (values.map mk)) :
    Property.ofWire (listToWire typed kind elements) =
      .ok (some (listNormal typed make values)) := by
  cases typed with
  | true => exact whole rfl
  | false =>
    have items := gather_map gathered inverse values
    rw [listToWire, if_neg Bool.false_ne_true, Property.ofWire]
    simp only [single, items, bind, Except.bind, Functor.map, Except.map]

/-! ### Trees -/

theorem Property.mem_nodes (p : Property) : p ∈ p.nodes := by
  cases p <;> simp [Property.nodes]

mutual

theorem Property.ofWire_toWire_of_held (typed : Bool) : ∀ p : Property,
    (∀ q ∈ p.nodes, q.IsHeld typed) →
      Property.ofWire (p.toWire typed) = .ok (some (p.normal typed))
  | .text _, _ => rfl
  | .int _, _ => rfl
  | .number _, _ => rfl
  | .boolean _, _ => rfl
  | .date d, held => by
    have plain := (held _ (Property.mem_nodes _)).dates d (List.mem_singleton_self d)
    rw [Property.toWire, Property.ofWire, readDate_text plain]
    rfl
  | .uuid id, _ => by
    rw [Property.toWire, Property.ofWire, readUuid_text]
    rfl
  | .blob _, _ => rfl
  | .geo _, _ => rfl
  | .phone p, _ => congrArg (fun q => Except.ok (some (Property.phone q))) p.ofWire_toWire
  | .object fields, held => by
    have read := propertiesOfWire_toWire_of_held typed fields fun q member =>
      held q (List.mem_cons_of_mem _ member)
    rw [Property.toWire, Property.ofWire, read]
    rfl
  | .textArray values, _ =>
    Property.ofWire_list .text .textArray (fun _ _ => rfl) (fun _ => rfl) (fun _ => rfl)
      (elementsOfWire_map (fun _ _ => rfl) 0)
  | .intArray values, held => by
    refine Property.ofWire_list .int .intArray (fun _ _ => rfl) (fun _ => rfl) (fun whole => ?_)
      (elementsOfWire_map (fun _ _ => rfl) 0)
    have each : ∀ n ∈ values, (Double.ofInt n.toInt).round? = some n.toInt :=
      (held _ (Property.mem_nodes _)).ints whole
    rw [Property.ofWire, Vector.decodeInts_encodeInts each]
    rfl
  | .numberArray values, _ => by
    refine Property.ofWire_list .number .numberArray (fun _ _ => rfl) (fun _ => rfl) (fun _ => ?_)
      (elementsOfWire_map (fun _ _ => rfl) 0)
    rw [Property.ofWire, Vector.decodeDoubles_encodeDoubles]
    rfl
  | .booleanArray values, _ =>
    Property.ofWire_list .boolean .booleanArray (fun _ _ => rfl) (fun _ => rfl) (fun _ => rfl)
      (elementsOfWire_map (fun _ _ => rfl) 0)
  | .dateArray values, held => by
    have plain : ∀ d ∈ values, readDate d.text = .ok d := fun d member =>
      readDate_text ((held _ (Property.mem_nodes _)).dates d member)
    refine Property.ofWire_list .date .dateArray (fun _ _ => rfl) (fun _ => rfl) (fun _ => ?_)
      (elementsOfWire_map (fun d member => ?_) 0)
    · rw [Property.ofWire, mapM_map_of_inverse plain]
      rfl
    · rw [Property.ofWire, plain d member]
      rfl
  | .uuidArray values, _ => by
    refine Property.ofWire_list .uuid .uuidArray (fun _ _ => rfl) (fun _ => rfl) (fun _ => ?_)
      (elementsOfWire_map (fun id _ => ?_) 0)
    · rw [Property.ofWire, mapM_map_of_inverse fun id _ => readUuid_text id]
      rfl
    · rw [Property.ofWire, readUuid_text]
      rfl
  | .objectArray values, held => by
    have inside : ∀ q ∈ nodesOfObjects values, q.IsHeld typed := fun q member =>
      held q (List.mem_cons_of_mem _ member)
    refine Property.ofWire_list .object .objectArray (fun _ _ => rfl) (fun _ => rfl) (fun _ => ?_)
      (elementsOfWire_toWire_of_held typed values inside 0)
    rw [Property.ofWire, objectsOfWire_toWire_of_held typed values inside]
    rfl

theorem propertiesOfWire_toWire_of_held (typed : Bool) : ∀ fields : List (String × Property),
    (∀ q ∈ nodesOfFields fields, q.IsHeld typed) →
      propertiesOfWire (propertiesToWire typed fields) = .ok (normalFields typed fields)
  | [], _ => rfl
  | (name, p) :: rest, held => by
    obtain ⟨held_p, held_rest⟩ := List.forall_mem_append.mp held
    rw [propertiesToWire, propertiesOfWire, Property.ofWire_toWire_of_held typed p held_p,
      propertiesOfWire_toWire_of_held typed rest held_rest]
    rfl

theorem objectsOfWire_toWire_of_held (typed : Bool) : ∀ values : List (List (String × Property)),
    (∀ q ∈ nodesOfObjects values, q.IsHeld typed) →
      objectsOfWire (objectsToWire typed values) = .ok (normalObjects typed values)
  | [], _ => rfl
  | fields :: rest, held => by
    obtain ⟨held_fields, held_rest⟩ := List.forall_mem_append.mp held
    rw [objectsToWire, objectsOfWire, propertiesOfWire_toWire_of_held typed fields held_fields,
      objectsOfWire_toWire_of_held typed rest held_rest]
    rfl

theorem elementsOfWire_toWire_of_held (typed : Bool) : ∀ values : List (List (String × Property)),
    (∀ q ∈ nodesOfObjects values, q.IsHeld typed) → ∀ index : Nat,
      elementsOfWire index (elementsToWire typed values) =
        .ok ((normalObjects typed values).map .object)
  | [], _, _ => rfl
  | fields :: rest, held, index => by
    obtain ⟨held_fields, held_rest⟩ := List.forall_mem_append.mp held
    rw [elementsToWire, elementsOfWire, Property.ofWire,
      propertiesOfWire_toWire_of_held typed fields held_fields,
      elementsOfWire_toWire_of_held typed rest held_rest (index + 1)]
    rfl

end

theorem propertiesOfWire_toWire (typed : Bool) (fields : List (String × Property))
    (survive : ∀ q ∈ nodesOfFields fields, q.Survives typed) :
    propertiesOfWire (propertiesToWire typed fields) = .ok (normalFields typed fields) :=
  propertiesOfWire_toWire_of_held typed fields fun q member => (survive q member).isHeld

/-- Properties that are sent to a server of any version are read back in their normal form. -/
theorem Properties.ofWire_toWire_eq_normal (caps : Capabilities) (p : Properties)
    (survive : ∀ q ∈ p.nodes, q.Survives (caps.supports .typedListValues)) :
    Properties.ofWire (p.toWire caps) = .ok (p.normal caps) :=
  propertiesOfWire_toWire _ p survive

/-- Only the older server loses the type of the list without elements. -/
theorem Properties.ofWire_toWire_eq_normal_nested :
    let counts : Property := .object [("counts", .intArray [9007199254740992, -1])]
    let p : Properties :=
      [("born", .date Date.epoch),
        ("contact", .phone { input := "030", defaultCountry := some "", valid := some true }),
        ("parts", .objectArray [[("empty", .uuidArray []), ("inner", counts)], []])]
    let read (empty : Property) : Properties :=
      [("born", .date Date.epoch), ("contact", .phone { input := "030" }),
        ("parts", .objectArray [[("empty", empty), ("inner", counts)], []])]
    (∀ q ∈ p.nodes, q.Survives true) ∧
      Properties.ofWire (p.toWire ⟨⟨1, 25, 0⟩⟩) = .ok (read (.uuidArray [])) ∧
      Properties.ofWire (p.toWire ⟨⟨1, 24, 9⟩⟩) = .ok (read (.textArray [])) := by
  intro counts p read
  have survive : ∀ q ∈ p.nodes, q.Survives true := by decide +kernel
  have survive_untyped : ∀ q ∈ p.nodes, q.Survives false := by decide +kernel
  exact ⟨survive, p.ofWire_toWire_eq_normal ⟨⟨1, 25, 0⟩⟩ survive,
    p.ofWire_toWire_eq_normal ⟨⟨1, 24, 9⟩⟩ survive_untyped⟩

end VectorClient
