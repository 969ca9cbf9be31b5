import VectorClient.Proofs.Property.Elements
import VectorClient.Proofs.Vector.Lanes

/-!
# What is read of a value

A value is read iff it and all values inside of it are well formed. An explicit null is read as
nothing, a list as a list of as many elements, each read of its own, and an object as an object
with exactly the fields that are not null.
-/

namespace VectorClient

open Number

/-! ### Well-formed values -/

namespace Wire

def Value.isNull : Value → Bool
  | .null _ => true
  | _ => false

/-- Values that hold nothing that can be malformed. -/
def Value.isPlain : Value → Bool
  | .null _ | .number _ | .int _ | .string _ | .text _ | .bool _ | .blob _ | .geo _ | .phone _ =>
    true
  | _ => false

def Value.elementType? : Value → Option ElementType
  | .text _ | .string _ => some .text
  | .int _ => some .int
  | .number _ => some .number
  | .bool _ => some .boolean
  | .date _ => some .date
  | .uuid _ => some .uuid
  | .object _ => some .object
  | _ => none

inductive Value.Readable : Value → Prop
  | plain {v : Value} (isPlain : v.isPlain = true) : Readable v
  | date {raw : String} {d : Date} (read : Date.read? raw = some d) : Readable (.date raw)
  | uuid {raw : String} {id : Uuid} (read : Uuid.read? raw = some id) : Readable (.uuid raw)
  | object {fields : List (String × Value)} (each : ∀ f ∈ fields, Readable f.2) :
      Readable (.object fields)
  | untyped {elements : List Value} (each : ∀ v ∈ elements, Readable v) (type : ElementType)
      (alike : ∀ v ∈ elements, v.elementType? = some type) : Readable (.list elements .untyped)
  | numbers {elements : List Value} {lanes : Bytes} (whole : lanes.length % 8 = 0) :
      Readable (.list elements (.numbers lanes))
  | ints {elements : List Value} {lanes : Bytes} (whole : lanes.length % 8 = 0)
      (each : ∀ lane ∈ chunks 8 lanes,
        ∃ n : Int64, (Vector.doubleLane lane).round? = some n.toInt) :
      Readable (.list elements (.ints lanes))
  | bools {elements : List Value} {values : List Bool} : Readable (.list elements (.bools values))
  | texts {elements : List Value} {values : List String} :
      Readable (.list elements (.texts values))
  | dates {elements : List Value} {values : List String}
      (each : ∀ raw ∈ values, ∃ d, Date.read? raw = some d) :
      Readable (.list elements (.dates values))
  | uuids {elements : List Value} {values : List String}
      (each : ∀ raw ∈ values, ∃ id, Uuid.read? raw = some id) :
      Readable (.list elements (.uuids values))
  | objects {elements : List Value} {values : List (List (String × Value))}
      (each : ∀ fields ∈ values, ∀ f ∈ fields, Readable f.2) :
      Readable (.list elements (.objects values))

/-! ### Values inside of values -/

def Value.parts : Value → List Value
  | .object fields => fields.map (·.2)
  | .list elements .untyped => elements
  | .list _ (.objects values) => values.flatten.map (·.2)
  | _ => []

theorem Value.sizeOf_field {f : String × Value} {fields : List (String × Value)}
    (member : f ∈ fields) : sizeOf f.2 < sizeOf fields := by
  have inside := List.sizeOf_lt_of_mem member
  have whole : sizeOf f = 1 + sizeOf f.1 + sizeOf f.2 := rfl
  omega

theorem Value.sizeOf_part {v w : Value} (part : w ∈ v.parts) : sizeOf w < sizeOf v := by
  unfold parts at part
  split at part
  · obtain ⟨f, member, rfl⟩ := List.mem_map.mp part
    have inside := sizeOf_field member
    simp only [object.sizeOf_spec]
    omega
  · have inside := List.sizeOf_lt_of_mem part
    simp only [list.sizeOf_spec]
    omega
  · obtain ⟨f, nested, rfl⟩ := List.mem_map.mp part
    obtain ⟨fields, listed, member⟩ := List.mem_flatten.mp nested
    have inside := sizeOf_field member
    have outside := List.sizeOf_lt_of_mem listed
    simp only [list.sizeOf_spec, ListKind.objects.sizeOf_spec]
    omega
  · cases part

theorem Value.inductionOnParts {P : Value → Prop}
    (step : ∀ v : Value, (∀ w ∈ v.parts, P w) → P v) (v : Value) : P v := by
  refine step v fun w part => ?_
  have smaller := sizeOf_part part
  exact inductionOnParts step w
termination_by sizeOf v

end Wire

open Wire

/-! ### What lists and objects are read as -/

/-- Each element of a value is read of the same value. -/
def ReadEach (elements : List Value) (items : List Property) : Prop :=
  List.Forall₂ (fun v item => Property.ofWire v = .ok (some item)) elements items

/-- The fields of an object are those that are not null, each read of its own value. -/
def ReadFields (fields : List (String × Value)) (properties : List (String × Property)) : Prop :=
  List.Forall₂ (fun f p => p.1 = f.1 ∧ Property.ofWire f.2 = .ok (some p.2))
    (fields.filter fun f => !f.2.isNull) properties

inductive ReadList : List Value → ListKind → Property → Prop
  | untyped {elements : List Value} {items : List Property} {p : Property}
      (each : ReadEach elements items) (listed : p.elements? = some items) :
      ReadList elements .untyped p
  | numbers {elements : List Value} {lanes : Bytes} :
      ReadList elements (.numbers lanes)
        (.numberArray ((chunks 8 lanes).map Vector.doubleLane))
  | ints {elements : List Value} {lanes : Bytes} {ns : List Int64}
      (each : List.Forall₂ (fun lane n => (Vector.doubleLane lane).round? = some n.toInt)
        (chunks 8 lanes) ns) :
      ReadList elements (.ints lanes) (.intArray ns)
  | bools {elements : List Value} {values : List Bool} :
      ReadList elements (.bools values) (.booleanArray values)
  | texts {elements : List Value} {values : List String} :
      ReadList elements (.texts values) (.textArray values)
  | dates {elements : List Value} {values : List String} {ds : List Date}
      (each : List.Forall₂ (fun raw d => Date.read? raw = some d) values ds) :
      ReadList elements (.dates values) (.dateArray ds)
  | uuids {elements : List Value} {values : List String} {ids : List Uuid}
      (each : List.Forall₂ (fun raw id => Uuid.read? raw = some id) values ids) :
      ReadList elements (.uuids values) (.uuidArray ids)
  | objects {elements : List Value} {values : List (List (String × Value))}
      {objects : List (List (String × Property))} (each : List.Forall₂ ReadFields values objects) :
      ReadList elements (.objects values) (.objectArray objects)

/-! ### Values without parts -/

theorem readDate_ok {raw : String} {d : Date} :
    readDate raw = .ok d ↔ Date.read? raw = some d := by
  unfold readDate
  cases Date.read? raw <;> simp

theorem readUuid_ok {raw : String} {id : Uuid} :
    readUuid raw = .ok id ↔ Uuid.read? raw = some id := by
  unfold readUuid
  cases Uuid.read? raw <;> simp

/-! ### Lists and objects -/

theorem Property.ofWire_none {v : Value} : Property.ofWire v = .ok none ↔ v.isNull = true := by
  cases v with
  | list elements kind =>
    cases kind <;> simp [Property.ofWire, Value.isNull, map_ok, bind_ok, Functor.map]
  | _ => simp [Property.ofWire, Value.isNull, map_ok]

theorem elementsOfWire_ok {elements : List Value} {index : Nat} {items : List Property} :
    elementsOfWire index elements = .ok items ↔ ReadEach elements items := by
  induction elements generalizing index items with
  | nil =>
    rw [ReadEach, List.forall₂_nil_left_iff]
    exact ⟨fun done => (Except.ok.inj done).symm, fun none => none ▸ rfl⟩
  | cons v rest ih =>
    rw [ReadEach, List.forall₂_cons_left_iff, elementsOfWire, bind_ok]
    constructor
    · rintro ⟨p, read, others⟩
      cases p with
      | none => cases others
      | some p =>
        obtain ⟨ps, mapped, same⟩ := bind_ok.mp others
        exact ⟨p, ps, read, ih.mp mapped, (pure_ok same).symm⟩
    · rintro ⟨p, ps, read, others, rfl⟩
      exact ⟨some p, read, bind_ok.mpr ⟨ps, ih.mpr others, rfl⟩⟩

theorem readFields_of_null {name : String} {v : Value} {rest : List (String × Value)}
    {properties : List (String × Property)} (null : v.isNull = true) :
    ReadFields ((name, v) :: rest) properties ↔ ReadFields rest properties := by
  rw [ReadFields, List.filter_cons_of_neg (by simp [null]), ← ReadFields]

theorem readFields_of_not_null {name : String} {v : Value} {rest : List (String × Value)}
    {properties : List (String × Property)} (present : v.isNull = false) :
    ReadFields ((name, v) :: rest) properties ↔
      ∃ p ps, Property.ofWire v = .ok (some p) ∧ ReadFields rest ps ∧
        properties = (name, p) :: ps := by
  rw [ReadFields, List.filter_cons_of_pos (by simp [present]), List.forall₂_cons_left_iff]
  constructor
  · rintro ⟨⟨_, p⟩, ps, ⟨rfl, read⟩, others, rfl⟩
    exact ⟨p, ps, read, others, rfl⟩
  · rintro ⟨p, ps, read, others, rfl⟩
    exact ⟨(name, p), ps, ⟨rfl, read⟩, others, rfl⟩

theorem propertiesOfWire_ok {fields : List (String × Value)}
    {properties : List (String × Property)} :
    propertiesOfWire fields = .ok properties ↔ ReadFields fields properties := by
  induction fields generalizing properties with
  | nil =>
    rw [ReadFields, List.filter_nil, List.forall₂_nil_left_iff]
    exact ⟨fun done => (Except.ok.inj done).symm, fun none => none ▸ rfl⟩
  | cons f rest ih =>
    obtain ⟨name, v⟩ := f
    rw [propertiesOfWire, bind_ok]
    -- A null is read as nothing, and the filter drops it as well.
    by_cases null : v.isNull = true
    · have read := Property.ofWire_none.mpr null
      rw [readFields_of_null null, ← ih]
      constructor
      · rintro ⟨p, same, others⟩
        obtain rfl := Except.ok.inj (read.symm.trans same)
        obtain ⟨ps, mapped, kept⟩ := bind_ok.mp others
        obtain rfl : ps = properties := pure_ok kept
        exact mapped
      · intro mapped
        exact ⟨none, read, bind_ok.mpr ⟨properties, mapped, rfl⟩⟩
    · have present : v.isNull = false := by simpa using null
      rw [readFields_of_not_null present]
      constructor
      · rintro ⟨p, read, others⟩
        obtain ⟨ps, mapped, kept⟩ := bind_ok.mp others
        cases p with
        | none => exact absurd (Property.ofWire_none.mp read) null
        | some p => exact ⟨p, ps, read, ih.mp mapped, (pure_ok kept).symm⟩
      · rintro ⟨p, ps, read, others, rfl⟩
        exact ⟨some p, read, bind_ok.mpr ⟨ps, ih.mpr others, rfl⟩⟩

theorem objectsOfWire_eq_mapM (values : List (List (String × Value))) :
    objectsOfWire values = values.mapM propertiesOfWire := by
  induction values with
  | nil => rfl
  | cons fields rest ih => rw [objectsOfWire, ih, List.mapM_cons]

theorem Property.ofWire_list_ok {elements : List Value} {kind : ListKind} {p : Property} :
    Property.ofWire (.list elements kind) = .ok (some p) → ReadList elements kind p := by
  intro read
  cases kind with
  | untyped =>
    obtain ⟨items, each, gathered⟩ := bind_ok.mp read
    obtain ⟨q, made, same⟩ := map_ok.mp gathered
    obtain rfl := Option.some.inj same
    exact .untyped (elementsOfWire_ok.mp each) (gather_elements made)
  | numbers lanes =>
    obtain ⟨xs, decoded, same⟩ := map_ok.mp read
    obtain rfl := Option.some.inj same
    obtain ⟨_, rfl⟩ := Vector.decodeDoubles_ok.mp decoded
    exact .numbers
  | bools values =>
    obtain rfl := Option.some.inj (Except.ok.inj read)
    exact .bools
  | objects values =>
    obtain ⟨objects, mapped, same⟩ := map_ok.mp read
    obtain rfl := Option.some.inj same
    rw [objectsOfWire_eq_mapM] at mapped
    exact .objects ((mapM_ok_iff.mp mapped).imp fun _ _ => propertiesOfWire_ok.mp)
  | dates values =>
    obtain ⟨ds, mapped, same⟩ := map_ok.mp read
    obtain rfl := Option.some.inj same
    exact .dates ((mapM_ok_iff.mp mapped).imp fun _ _ => readDate_ok.mp)
  | uuids values =>
    obtain ⟨ids, mapped, same⟩ := map_ok.mp read
    obtain rfl := Option.some.inj same
    exact .uuids ((mapM_ok_iff.mp mapped).imp fun _ _ => readUuid_ok.mp)
  | ints lanes =>
    obtain ⟨ns, decoded, same⟩ := map_ok.mp read
    obtain rfl := Option.some.inj same
    exact .ints (Vector.decodeInts_ok.mp decoded).2
  | texts values =>
    obtain rfl := Option.some.inj (Except.ok.inj read)
    exact .texts

theorem Property.elementType?_ofWire {v : Value} {p : Property}
    (read : Property.ofWire v = .ok (some p)) : p.elementType? = v.elementType? := by
  cases v with
  | unset => cases read
  | null n => cases read
  | list elements kind =>
    cases Property.ofWire_list_ok read with
    | untyped each listed => exact Property.elementType?_of_elements listed
    | _ => rfl
  | date raw | uuid raw | object fields =>
    obtain ⟨_, _, same⟩ := map_ok.mp read
    obtain rfl := Option.some.inj same
    rfl
  | _ =>
    obtain rfl := Option.some.inj (Except.ok.inj read)
    rfl

/-! ### Which values are read -/

theorem ReadEach.elementTypes {elements : List Value} {items : List Property} {type : ElementType}
    (each : ReadEach elements items) :
    (∀ item ∈ items, item.elementType? = some type) ↔
      ∀ v ∈ elements, v.elementType? = some type := by
  have types : elements.map Value.elementType? = items.map Property.elementType? := by
    refine List.forall₂_eq_eq_eq ▸ ?_
    rw [List.forall₂_map_left_iff, List.forall₂_map_right_iff]
    exact each.imp fun _ _ read => (Property.elementType?_ofWire read).symm
  rw [← List.forall_mem_map (f := Property.elementType?) (P := (· = some type)), ← types]
  exact List.forall_mem_map

theorem Wire.Value.isNull_of_elementType {v : Value} {type : ElementType}
    (typed : v.elementType? = some type) : v.isNull = false := by
  cases v <;> first | rfl | cases typed

theorem Property.ofWire_present {v : Value} :
    (∃ p, Property.ofWire v = .ok (some p)) ↔
      v.isNull = false ∧ ∃ p, Property.ofWire v = .ok p := by
  rw [← Bool.not_eq_true, ← Property.ofWire_none]
  constructor
  · rintro ⟨p, read⟩
    refine ⟨fun null => ?_, some p, read⟩
    cases read.symm.trans null
  · rintro ⟨present, p, read⟩
    cases p with
    | none => exact absurd read present
    | some p => exact ⟨p, read⟩

theorem propertiesOfWire_accepts {fields : List (String × Value)} :
    (∃ properties, propertiesOfWire fields = .ok properties) ↔
      ∀ f ∈ fields, ∃ p, Property.ofWire f.2 = .ok p := by
  simp only [propertiesOfWire_ok, ReadFields, exists_forall₂]
  constructor
  · intro each f member
    by_cases null : f.2.isNull = true
    · exact ⟨none, Property.ofWire_none.mpr null⟩
    · obtain ⟨p, _, read⟩ := each f (List.mem_filter.mpr ⟨member, by simp [null]⟩)
      exact ⟨some p.2, read⟩
  · intro each f kept
    obtain ⟨member, present⟩ := List.mem_filter.mp kept
    obtain ⟨p, read⟩ := Property.ofWire_present.mpr ⟨by simpa using present, each f member⟩
    exact ⟨(f.1, p), rfl, read⟩

theorem Property.ofWire_untyped_accepts {elements : List Value} :
    (∃ p, Property.ofWire (.list elements .untyped) = .ok p) ↔
      (∀ v ∈ elements, ∃ p, Property.ofWire v = .ok p) ∧
        ∃ type, ∀ v ∈ elements, v.elementType? = some type := by
  constructor
  · rintro ⟨p, read⟩
    obtain ⟨items, listed, gathered⟩ := bind_ok.mp read
    have each := elementsOfWire_ok.mp listed
    obtain ⟨q, made, _⟩ := map_ok.mp gathered
    obtain ⟨type, alike⟩ := gather_accepts.mp ⟨q, made⟩
    refine ⟨fun v member => ?_, type, each.elementTypes.mp alike⟩
    obtain ⟨item, present⟩ := exists_forall₂.mp ⟨items, each⟩ v member
    exact ⟨some item, present⟩
  · rintro ⟨accepted, type, alike⟩
    obtain ⟨items, each⟩ : ∃ items, ReadEach elements items :=
      exists_forall₂.mpr fun v member => Property.ofWire_present.mpr
        ⟨Wire.Value.isNull_of_elementType (alike v member), accepted v member⟩
    obtain ⟨q, made⟩ := gather_accepts.mpr ⟨type, each.elementTypes.mpr alike⟩
    exact ⟨some q, bind_ok.mpr ⟨items, elementsOfWire_ok.mpr each, map_ok.mpr ⟨q, made, rfl⟩⟩⟩

theorem objectsOfWire_accepts {values : List (List (String × Value))} :
    (∃ objects, objectsOfWire values = .ok objects) ↔
      ∀ fields ∈ values, ∀ f ∈ fields, ∃ p, Property.ofWire f.2 = .ok p := by
  simp only [objectsOfWire_eq_mapM, mapM_accepts, propertiesOfWire_accepts]

theorem Property.ofWire_list_accepts {elements : List Value} {kind : ListKind}
    (inside : ∀ w ∈ (Value.list elements kind).parts,
      (∃ p, Property.ofWire w = .ok p) ↔ w.Readable) :
    (∃ p, Property.ofWire (.list elements kind) = .ok p) ↔ (Value.list elements kind).Readable := by
  cases kind with
  | untyped =>
    have each_inside : ∀ v ∈ elements, (∃ p, Property.ofWire v = .ok p) ↔ v.Readable := inside
    rw [Property.ofWire_untyped_accepts, forall₂_congr each_inside]
    constructor
    · rintro ⟨each, type, alike⟩
      exact .untyped each type alike
    · intro readable
      cases readable with
      | plain isPlain => cases isPlain
      | untyped each type alike => exact ⟨each, type, alike⟩
  | numbers lanes =>
    simp only [Property.ofWire, map_accepts, Vector.decodeDoubles_ok, exists_and_left, exists_eq,
      and_true]
    constructor
    · exact .numbers
    · intro readable
      cases readable with
      | plain isPlain => cases isPlain
      | numbers whole => exact whole
  | ints lanes =>
    simp only [Property.ofWire, map_accepts, Vector.decodeInts_ok, exists_and_left, exists_forall₂]
    constructor
    · rintro ⟨whole, each⟩
      exact .ints whole each
    · intro readable
      cases readable with
      | plain isPlain => cases isPlain
      | ints whole each => exact ⟨whole, each⟩
  | bools values => exact ⟨fun _ => .bools, fun _ => ⟨_, rfl⟩⟩
  | texts values => exact ⟨fun _ => .texts, fun _ => ⟨_, rfl⟩⟩
  | dates values =>
    simp only [Property.ofWire, map_accepts, mapM_accepts, readDate_ok]
    constructor
    · exact .dates
    · intro readable
      cases readable with
      | plain isPlain => cases isPlain
      | dates each => exact each
  | uuids values =>
    simp only [Property.ofWire, map_accepts, mapM_accepts, readUuid_ok]
    constructor
    · exact .uuids
    · intro readable
      cases readable with
      | plain isPlain => cases isPlain
      | uuids each => exact each
  | objects values =>
    have fields_inside : ∀ fields ∈ values, ∀ f ∈ fields,
        ((∃ p, Property.ofWire f.2 = .ok p) ↔ f.2.Readable) := fun fields listed f member =>
      inside f.2 (List.mem_map_of_mem (List.mem_flatten.mpr ⟨fields, listed, member⟩))
    rw [Property.ofWire, map_accepts, objectsOfWire_accepts]
    constructor
    · intro each
      exact .objects fun fields listed f member =>
        (fields_inside fields listed f member).mp (each fields listed f member)
    · intro readable
      cases readable with
      | plain isPlain => cases isPlain
      | objects each =>
        exact fun fields listed f member =>
          (fields_inside fields listed f member).mpr (each fields listed f member)

theorem Property.ofWire_accepts (v : Value) : (∃ p, Property.ofWire v = .ok p) ↔ v.Readable := by
  induction v using Value.inductionOnParts with
  | step v ih =>
    cases v with
    | unset =>
      refine ⟨nofun, fun readable => ?_⟩
      cases readable with
      | plain isPlain => cases isPlain
    | date raw =>
      simp only [Property.ofWire, map_accepts, readDate_ok]
      constructor
      · rintro ⟨d, read⟩
        exact .date read
      · intro readable
        cases readable with
        | plain isPlain => cases isPlain
        | date read => exact ⟨_, read⟩
    | uuid raw =>
      simp only [Property.ofWire, map_accepts, readUuid_ok]
      constructor
      · rintro ⟨id, read⟩
        exact .uuid read
      · intro readable
        cases readable with
        | plain isPlain => cases isPlain
        | uuid read => exact ⟨_, read⟩
    | object fields =>
      have inside : ∀ f ∈ fields, (∃ p, Property.ofWire f.2 = .ok p) ↔ f.2.Readable :=
        fun f member => ih f.2 (List.mem_map_of_mem member)
      rw [Property.ofWire, map_accepts, propertiesOfWire_accepts, forall₂_congr inside]
      constructor
      · exact .object
      · intro readable
        cases readable with
        | plain isPlain => cases isPlain
        | object each => exact each
    | list elements kind => exact Property.ofWire_list_accepts ih
    | _ => exact ⟨fun _ => .plain rfl, fun _ => ⟨_, rfl⟩⟩

/-- Exactly the well-formed values are read, without losing an element or a field. -/
theorem Property.ofWire_exact (v : Value) :
    ((∃ p, Property.ofWire v = .ok p) ↔ v.Readable) ∧
      (Property.ofWire v = .ok none ↔ ∃ n, v = .null n) ∧
      (∀ elements kind p, v = .list elements kind → Property.ofWire v = .ok (some p) →
        ReadList elements kind p) ∧
      ∀ fields p, v = .object fields → Property.ofWire v = .ok (some p) →
        ∃ properties, p = .object properties ∧ ReadFields fields properties := by
  refine ⟨Property.ofWire_accepts v, ?_, ?_, ?_⟩
  · rw [Property.ofWire_none]
    cases v <;> simp [Value.isNull]
  · rintro elements kind p rfl read
    exact Property.ofWire_list_ok read
  · rintro fields p rfl read
    obtain ⟨properties, mapped, same⟩ := map_ok.mp read
    exact ⟨properties, (Option.some.inj same).symm, propertiesOfWire_ok.mp mapped⟩

/-- Texts of both forms share a list, the null of an object is left out, and one within a list is
refused. -/
theorem Property.ofWire_exact_nested :
    let elements : List Value := [.string "red", .text "blue"]
    let v : Value := .object [("gone", .null 0), ("tags", .list elements .untyped)]
    let tags : Property := .textArray ["red", "blue"]
    v.Readable ∧ Property.ofWire v = .ok (some (.object [("tags", tags)])) ∧
      ReadList elements .untyped tags ∧
      ReadFields [("gone", .null 0), ("tags", .list elements .untyped)] [("tags", tags)] ∧
      ¬ (Value.object [("tags", .list [.text "red", .null 0] .untyped)]).Readable := by
  intro elements v tags
  have read : Property.ofWire v = .ok (some (.object [("tags", tags)])) := rfl
  obtain ⟨accepts, _, _, fields⟩ := Property.ofWire_exact v
  obtain ⟨_, _, lists, _⟩ := Property.ofWire_exact (.list elements .untyped)
  obtain ⟨properties, same, kept⟩ := fields _ _ rfl read
  obtain rfl := Property.object.inj same
  refine ⟨accepts.mp ⟨_, read⟩, read, lists _ _ _ rfl rfl, kept, fun readable => ?_⟩
  obtain ⟨p, read_null⟩ := (Property.ofWire_exact _).1.mpr readable
  cases read_null

end VectorClient
