import VectorClient.Proofs.Property.Document
import VectorClient.Proofs.Vector.Lanes

/-!
# Documents kept as properties

A document is taken as properties iff each list in it is of one kind. Read back of them it is the
document without its nulls, as long as each whole number fits a word with a sign, and is a double
where it stands in a list with doubles.
-/

namespace VectorClient

open Number Json

/-! ### What is accepted -/

theorem ReadItems.exists_iff {items : List Json} :
    (∃ p, ReadItems items p) ↔ Homogeneous items ∧
      ∀ entries, .object entries ∈ items → ∃ fields, propertiesOfEntries entries = .ok fields := by
  constructor
  · rintro ⟨p, read⟩
    have alike := read.kind
    refine ⟨?_, fun entries member => ?_⟩
    · cases read <;> exact ⟨_, alike⟩
    · have kind := alike _ member
      cases read with
      | objects _ each =>
        obtain ⟨fields, _, same, read⟩ := exists_forall₂.mp ⟨_, each⟩ _ member
        obtain rfl := Json.object.inj same
        exact ⟨fields, read⟩
      | _ => cases kind
  · rintro ⟨⟨kind, alike⟩, inside⟩
    by_cases listed : items = []
    · subst listed
      exact ⟨_, .texts .nil⟩
    cases kind with
    | text =>
      obtain ⟨values, each⟩ := exists_forall₂.mpr fun item member =>
        itemKind?_text.mp (alike item member)
      exact ⟨_, .texts each⟩
    | boolean =>
      obtain ⟨values, each⟩ := exists_forall₂.mpr fun item member =>
        itemKind?_boolean.mp (alike item member)
      exact ⟨_, .booleans listed each⟩
    | number =>
      by_cases other : ∃ item ∈ items, signedWord? item = none
      · obtain ⟨values, each⟩ := exists_forall₂.mpr fun item member =>
          itemKind?_number.mp (alike item member)
        exact ⟨_, .numbers other each⟩
      · obtain ⟨values, words⟩ := Option.ne_none_iff_exists'.mp (mapM_none_iff.not.mpr other)
        exact ⟨_, .ints listed (mapM_some_iff.mp words)⟩
    | object =>
      have each : ∀ item ∈ items, ∃ fields, ∃ entries, item = .object entries ∧
          propertiesOfEntries entries = .ok fields := by
        intro item member
        obtain ⟨entries, rfl⟩ := itemKind?_object.mp (alike item member)
        obtain ⟨fields, read⟩ := inside entries member
        exact ⟨fields, entries, rfl, read⟩
      obtain ⟨values, each⟩ := exists_forall₂.mpr each
      exact ⟨_, .objects listed each⟩

theorem propertiesOfEntries_accepts {entries : List (String × Json)} :
    (∃ fields, propertiesOfEntries entries = .ok fields) ↔
      ∀ e ∈ entries, ∃ q, Property.ofJson e.1 e.2 = .ok q := by
  simp only [propertiesOfEntries_ok, ReadEntries, exists_forall₂, List.mem_filter]
  constructor
  · intro each e member
    by_cases null : e.2.isNull = true
    · exact ⟨none, Property.ofJson_none.mpr null⟩
    · obtain ⟨f, _, read⟩ := each e ⟨member, by simp [null]⟩
      exact ⟨some f.2, read⟩
  · rintro each e ⟨member, present⟩
    obtain ⟨q, read⟩ := each e member
    cases q with
    | none => simp [Property.ofJson_none.mp read] at present
    | some p => exact ⟨(e.1, p), rfl, read⟩

/-- If the value is a list, then it is of one kind. -/
def Json.ItemsAlike (v : Json) : Prop := ∀ items, v = .array items → Homogeneous items

theorem Json.itemsAlike_of_leaf {v : Json} (leaf : v.parts = []) (notList : v.ItemsAlike) :
    ∀ path w, v.at? path = some w → w.ItemsAlike :=
  everywhere_of_parts notList (leaf ▸ List.forall_mem_nil _)

section Parts

variable {P : Json → Prop} {entries : KeyMap Json} {items : List Json}

theorem Json.IsValue.accepts_object (value : (Json.object entries).IsValue)
    (parts : ∀ w ∈ (Json.object entries).parts, ∀ name,
      (∃ q, Property.ofJson name w = .ok q) ↔ ∀ path u, w.at? path = some u → u.ItemsAlike) :
    (∃ fields, propertiesOfEntries entries = .ok fields) ↔
      ∀ path u, (Json.object entries).at? path = some u → u.ItemsAlike := by
  rw [propertiesOfEntries_accepts, value.everywhere_iff]
  constructor
  · intro each
    refine ⟨nofun, fun w part => ?_⟩
    obtain ⟨e, member, rfl⟩ := List.mem_map.mp part
    exact (parts e.2 part e.1).mp (each e member)
  · rintro ⟨_, inside⟩ e member
    have part : e.2 ∈ (Json.object entries).parts := List.mem_map_of_mem member
    exact (parts e.2 part e.1).mpr (inside e.2 part)

theorem Json.IsValue.accepts_array (value : (Json.array items).IsValue)
    (parts : ∀ entries, .object entries ∈ items →
      ((∃ fields, propertiesOfEntries entries = .ok fields) ↔
        ∀ path u, (Json.object entries).at? path = some u → u.ItemsAlike)) :
    (∃ p, ReadItems items p) ↔
      ∀ path u, (Json.array items).at? path = some u → u.ItemsAlike := by
  rw [ReadItems.exists_iff, value.everywhere_iff]
  constructor
  · rintro ⟨alike, inside⟩
    refine ⟨fun _ same => Json.array.inj same ▸ alike, fun w part => ?_⟩
    obtain ⟨kind, alike⟩ := alike
    cases w with
    | object entries => exact (parts entries part).mp (inside entries part)
    | null | array =>
      have none := alike _ part
      cases none
    | _ => exact itemsAlike_of_leaf rfl nofun
  · rintro ⟨here, inside⟩
    exact ⟨here items rfl, fun entries member => (parts entries member).mpr (inside _ member)⟩

end Parts

theorem Property.ofJson_accepts (v : Json) : v.IsValue → ∀ name,
    ((∃ q, Property.ofJson name v = .ok q) ↔ ∀ path w, v.at? path = some w → w.ItemsAlike) := by
  induction v using inductionOnParts with
  | step v ih =>
    intro value name
    have parts := fun w part => ih w part (value.part part)
    cases v with
    | object entries =>
      rw [← value.accepts_object parts, Property.ofJson]
      exact map_accepts
    | array items =>
      have accepted : (∃ q, Property.ofJson name (.array items) = .ok q) ↔
          ∃ p, ReadItems items p := by
        simp only [Property.ofJson_array_ok]
        constructor
        · rintro ⟨_, p, _, read⟩
          exact ⟨p, read⟩
        · rintro ⟨p, read⟩
          exact ⟨_, p, rfl, read⟩
      rw [accepted]
      refine value.accepts_array fun entries member => ?_
      rw [← parts (.object entries) member name, Property.ofJson]
      exact map_accepts.symm
    | int n =>
      refine iff_of_true ?_ (itemsAlike_of_leaf rfl fun _ same => by cases same)
      rw [Property.ofJson]
      split <;> exact ⟨_, rfl⟩
    | _ => exact iff_of_true ⟨_, rfl⟩ (itemsAlike_of_leaf rfl fun _ same => by cases same)

/-! ### What is kept -/

structure Json.NumbersFit (v : Json) : Prop where
  words : ∀ path n, v.at? path = some (.int n) → fitsSigned 64 n = true
  mixed : ∀ path items n x, v.at? path = some (.array items) → .int n ∈ items →
    .double x ∈ items → Representable n

theorem Json.IsValue.numbersFit_part {v w : Json} (value : v.IsValue) (fit : v.NumbersFit)
    (part : w ∈ v.parts) : w.NumbersFit := by
  obtain ⟨place, here⟩ := value.exists_part? part
  have found {path : List Place} {u : Json} (inside : w.at? path = some u) :
      v.at? (place :: path) = some u := by
    rw [at?, here]
    exact inside
  exact ⟨fun path n inside => fit.words _ n (found inside),
    fun path items n x inside => fit.mixed _ items n x (found inside)⟩

theorem Json.entriesWithoutNulls_eq (entries : List (String × Json)) :
    entriesWithoutNulls entries =
      (entries.filter fun e => !e.2.isNull).map fun e => (e.1, e.2.withoutNulls) := by
  induction entries with
  | nil => rfl
  | cons e rest ih =>
    rw [entriesWithoutNulls, List.filter_cons]
    cases e.2.isNull <;> simp [ih]

theorem Json.itemsWithoutNulls_eq (items : List Json) :
    itemsWithoutNulls items = items.map withoutNulls := by
  induction items with
  | nil => rfl
  | cons item rest ih => rw [itemsWithoutNulls, ih, List.map_cons]

theorem propertyEntries_eq (fields : List (String × Property)) :
    propertyEntries fields = fields.map fun f => (f.1, f.2.toJson) := by
  induction fields with
  | nil => rfl
  | cons f rest ih => rw [propertyEntries, ih, List.map_cons]

theorem propertyObjects_eq (values : List (List (String × Property))) :
    propertyObjects values = values.map fun fields => .object (propertyEntries fields) := by
  induction values with
  | nil => rfl
  | cons fields rest ih => rw [propertyObjects, ih, List.map_cons]

structure Json.KeptAs (v back : Json) : Prop where
  value : back.IsValue
  same : back.Same v.withoutNulls

theorem Json.keptAs_items {α : Type} {f : α → Json} {items : List Json} {values : List α}
    (each : List.Forall₂ (fun item a => item.KeptAs (f a)) items values) :
    (Json.array items).KeptAs (.ofList f values) := by
  refine ⟨.array fun w member => ?_, ?_⟩
  · obtain ⟨a, listed, rfl⟩ := List.mem_map.mp member
    obtain ⟨_, _, kept⟩ := exists_of_forall₂ each a listed
    exact kept.value
  · rw [withoutNulls, itemsWithoutNulls_eq, Json.ofList]
    refine .array ?_
    rw [List.forall₂_map_left_iff, List.forall₂_map_right_iff]
    exact each.flip.imp fun _ _ kept => kept.same

theorem Json.keptAs_entries {entries : KeyMap Json} {fields : List (String × Property)}
    (ordered : entries.Ordered) (read : ReadEntries entries fields)
    (each : ∀ e ∈ entries, ∀ p, Property.ofJson e.1 e.2 = .ok (some p) → e.2.KeptAs p.toJson) :
    (Json.object entries).KeptAs (.object (propertyEntries fields)) := by
  have kept : List.Forall₂ (fun e f => f.1 = e.1 ∧ e.2.KeptAs f.2.toJson)
      (entries.filter fun e => !e.2.isNull) fields := by
    have listed := (List.forall₂_and_left _ _).mpr ⟨fun _ member => member, read⟩
    refine listed.imp fun e f both => ⟨both.2.1, ?_⟩
    exact each e (List.mem_of_mem_filter both.1) f.2 both.2.2
  have keys : KeyMap.keys (propertyEntries fields) = KeyMap.keys fields := by
    rw [KeyMap.keys, propertyEntries_eq, List.map_map]
    rfl
  refine ⟨.object ((read.ordered ordered).of_keys keys) fun w member => ?_, ?_⟩
  · rw [propertyEntries_eq] at member
    obtain ⟨f, listed, rfl⟩ := List.mem_map.mp member
    obtain ⟨_, _, _, kept⟩ := exists_of_forall₂ kept f listed
    exact kept.value
  · rw [withoutNulls, entriesWithoutNulls_eq]
    refine .object (keys.trans (read.keys.trans ?_)) ?_
    · rw [KeyMap.keys, KeyMap.keys, List.map_map]
      rfl
    · rw [KeyMap.values, KeyMap.values, propertyEntries_eq, List.map_map, List.map_map,
        List.forall₂_map_left_iff, List.forall₂_map_right_iff]
      exact kept.flip.imp fun _ _ both => both.2.same

theorem Json.keptAs_number {n : Int} {x : Double}
    (exact : x.value? = some (n * Format.double.one)) :
    (Json.int n).KeptAs (.double x) :=
  ⟨.double (Double.value?_eq_some.mp exact).1, .number exact rfl⟩

theorem Json.keptAs_word {n : Int} (fits : fitsSigned 64 n = true) :
    (Json.int n).KeptAs (.int (Int64.ofInt n).toInt) := by
  rw [Vector.toInt_ofInt_of_fits fits]
  refine ⟨.int ?_, .number rfl rfl⟩
  have wider : pow2 (64 - 1) < pow2 64 := by decide
  rw [fitsSigned, Bool.and_eq_true, decide_eq_true_eq, decide_eq_true_eq] at fits
  rw [fitsWord, Bool.and_eq_true, decide_eq_true_eq, decide_eq_true_eq]
  exact ⟨fits.1, by omega⟩

theorem Json.keptAs_double {x : Double} (finite : x.isFinite = true) :
    (Json.double x).KeptAs (.double x) :=
  have exact := Double.value?_eq_some.mpr ⟨finite, rfl⟩
  ⟨.double finite, .number exact exact⟩

/-- In a list of numbers that is not one of words each whole number is a double. -/
theorem Json.NumbersFit.representable {items : List Json} (fit : (Json.array items).NumbersFit)
    (value : (Json.array items).IsValue) (other : ∃ item ∈ items, signedWord? item = none)
    (numbers : ∀ item ∈ items, ∃ x, anyNumber? item = some x) {n : Int}
    (member : Json.int n ∈ items) : Representable n := by
  obtain ⟨item, listed, notWord⟩ := other
  obtain ⟨_, isNumber⟩ := numbers item listed
  have item_value := value.part listed
  cases item_value with
  | @double x => exact fit.mixed [] items n x rfl member listed
  | @int k =>
    obtain ⟨i, found⟩ := List.mem_iff_getElem?.mp listed
    have fits := fit.words [.index i] k (by rw [at?, part?, found]; rfl)
    rw [signedWord?_eq_some.mpr ⟨k, rfl, fits, rfl⟩] at notWord
    cases notWord
  | _ => cases isNumber

theorem ReadItems.kept {items : List Json} {p : Property} (read : ReadItems items p)
    (value : (Json.array items).IsValue) (fit : (Json.array items).NumbersFit)
    (objects : ∀ entries, .object entries ∈ items → ∀ fields,
      propertiesOfEntries entries = .ok fields →
        (Json.object entries).KeptAs (.object (propertyEntries fields))) :
    (Json.array items).KeptAs p.toJson := by
  cases read with
  | texts each =>
    refine keptAs_items (each.imp fun item s taken => ?_)
    cases item with
    | string => exact Option.some.inj taken ▸ ⟨.string _, .string _⟩
    | _ => cases taken
  | booleans _ each =>
    refine keptAs_items (each.imp fun item b taken => ?_)
    cases item with
    | bool => exact Option.some.inj taken ▸ ⟨.bool _, .bool _⟩
    | _ => cases taken
  | ints _ each =>
    refine keptAs_items (each.imp fun item n taken => ?_)
    obtain ⟨i, rfl, fits, rfl⟩ := signedWord?_eq_some.mp taken
    exact keptAs_word fits
  | numbers other each =>
    have listed := (List.forall₂_and_left _ _).mpr ⟨fun _ member => member, each⟩
    refine keptAs_items (listed.imp fun item x both => ?_)
    obtain ⟨member, taken⟩ := both
    have item_value := value.part member
    cases item_value with
    | double finite => exact Option.some.inj taken ▸ keptAs_double finite
    | int =>
      obtain rfl := Option.some.inj taken
      exact keptAs_number (Double.value?_ofInt_iff.mpr
        (fit.representable value other (exists_forall₂.mp ⟨_, each⟩) member))
    | _ => cases taken
  | objects _ each =>
    have listed := (List.forall₂_and_left _ _).mpr ⟨fun _ member => member, each⟩
    have kept := keptAs_items (listed.imp fun item fields both => by
      obtain ⟨member, entries, rfl, read⟩ := both
      exact objects entries member fields read)
    rw [Property.toJson, propertyObjects_eq]
    exact kept

theorem Property.kept (v : Json) : v.IsValue → v.NumbersFit → ∀ name p,
    Property.ofJson name v = .ok (some p) → v.KeptAs p.toJson := by
  induction v using inductionOnParts with
  | step v ih =>
    intro value fit name p read
    have parts := fun w part => ih w part (value.part part) (value.numbersFit_part fit part)
    cases value with
    | null => cases read
    | bool b =>
      obtain rfl := Option.some.inj (Except.ok.inj read)
      exact ⟨.bool b, .bool b⟩
    | string s =>
      obtain rfl := Option.some.inj (Except.ok.inj read)
      exact ⟨.string s, .string s⟩
    | double finite =>
      obtain rfl := Option.some.inj (Except.ok.inj read)
      exact keptAs_double finite
    | @int n =>
      have fits := fit.words [] n rfl
      rw [Property.ofJson, signedWord?_eq_some.mpr ⟨n, rfl, fits, rfl⟩] at read
      obtain rfl := Option.some.inj (Except.ok.inj read)
      exact keptAs_word fits
    | @object entries ordered each =>
      rw [Property.ofJson] at read
      obtain ⟨fields, mapped, same⟩ := map_ok.mp read
      obtain rfl := Option.some.inj same
      refine keptAs_entries ordered (propertiesOfEntries_ok.mp mapped) fun e member p read => ?_
      exact parts e.2 (List.mem_map_of_mem member) e.1 p read
    | @array items each =>
      obtain ⟨_, same, read⟩ := Property.ofJson_array_ok.mp read
      obtain rfl := Option.some.inj same
      refine read.kept (.array each) fit fun entries member fields read => ?_
      refine parts (.object entries) member name (.object fields) ?_
      rw [Property.ofJson, read]
      rfl

/-- A document is accepted iff each list anywhere in it holds only texts, only booleans, only
numbers or only objects; what it is kept as is then read back as the document without its nulls. -/
theorem Properties.document_kept {document : Json} {entries : KeyMap Json}
    (isObject : document.normal? = some (.object entries)) :
    ((∃ p, Properties.ofJson document = .ok p) ↔
      ∀ path items, (Json.object entries).at? path = some (.array items) → Homogeneous items) ∧
    ∀ p, Properties.ofJson document = .ok p → (Json.object entries).NumbersFit →
      ∃ back, p.readAs Source.json? = .ok back ∧ back.Same (Json.object entries).withoutNulls := by
  have value := isValue_of_normal? document isObject
  have taken : Properties.ofJson document = propertiesOfEntries entries := by
    rw [Properties.ofJson, isObject]
  rw [taken]
  constructor
  · have accepted := Property.ofJson_accepts (.object entries) value ""
    rw [Property.ofJson, map_accepts] at accepted
    rw [accepted]
    exact ⟨fun alike path items found => alike path _ found items rfl,
      fun alike path w found items same => alike path items (same ▸ found)⟩
  · intro p read fit
    have kept : (Json.object entries).KeptAs p.toJson := by
      refine Property.kept _ value fit "" (.object p) ?_
      rw [Property.ofJson, read]
      rfl
    refine ⟨p.toJson, ?_, kept.same⟩
    rw [Properties.readAs, kept.value.normal?_eq, Option.bind_some, kept.value.json?_ofJson]

theorem Json.numbersFit_of_parts {v : Json} (word : ∀ n, v = .int n → fitsSigned 64 n = true)
    (mixed : ∀ items n x, v = .array items → .int n ∈ items → .double x ∈ items → Representable n)
    (parts : ∀ w ∈ v.parts, w.NumbersFit) : v.NumbersFit where
  words path n := by
    have everywhere := everywhere_of_parts (P := fun w => ∀ n, w = .int n → fitsSigned 64 n = true)
      word fun w part path u found n same => (parts w part).words path n (same ▸ found)
    exact fun found => everywhere path _ found n rfl
  mixed path items n x := by
    have everywhere := everywhere_of_parts (P := fun w => ∀ items n x, w = .array items →
        .int n ∈ items → .double x ∈ items → Representable n)
      mixed fun w part path u found items n x same =>
        (parts w part).mixed path items n x (same ▸ found)
    exact fun found => everywhere path _ found items n x rfl

/-- A whole number and a double share a list inside of an object in a list; nulls stand at two
depths. -/
theorem Properties.document_kept_nested :
    let half : Json := .double ⟨0x3fe0000000000000⟩
    let entries : KeyMap Json :=
      [("a", .array [.object [("b", .null), ("c", .array [.int 1, half])]]), ("n", .null)]
    ∃ p back, Properties.ofJson (.object entries) = .ok p ∧
      p.readAs Source.json? = .ok back ∧
      back.Same (.object [("a", .array [.object [("c", .array [.int 1, half])]])]) := by
  intro half entries
  have fit : (Json.object entries).NumbersFit := by
    have numbers : (Json.array [.int 1, half]).NumbersFit := by
      refine numbersFit_of_parts nofun ?_ ?_
      · intro items n x same member _
        obtain rfl := Json.array.inj same
        obtain same | member := List.mem_cons.mp member
        · exact Json.int.inj same ▸ Double.representable_of_small (by decide)
        · have isDouble : Json.int n = .double _ := List.mem_singleton.mp member
          cases isDouble
      · refine List.forall_mem_cons.mpr ⟨?_, List.forall_mem_singleton.mpr ?_⟩
        · exact numbersFit_of_parts (fun n same => Json.int.inj same ▸ rfl) nofun nofun
        · exact numbersFit_of_parts nofun nofun nofun
    have null : Json.null.NumbersFit := numbersFit_of_parts nofun nofun nofun
    have inner := numbersFit_of_parts (v := .object [("b", .null), ("c", .array [.int 1, half])])
      nofun nofun (List.forall_mem_cons.mpr ⟨null, List.forall_mem_singleton.mpr numbers⟩)
    have list := numbersFit_of_parts (v := .array [_]) nofun
      (fun _ _ _ same member => by
        obtain rfl := Json.array.inj same
        cases List.mem_singleton.mp member)
      (List.forall_mem_singleton.mpr inner)
    exact numbersFit_of_parts nofun nofun
      (List.forall_mem_cons.mpr ⟨list, List.forall_mem_singleton.mpr null⟩)
  have accepted : Properties.ofJson (.object entries) =
      .ok [("a", .objectArray [[("c", .numberArray [.ofInt 1, ⟨0x3fe0000000000000⟩])]])] := rfl
  have isObject : (Json.object entries).normal? = some (.object entries) := rfl
  obtain ⟨_, kept⟩ := Properties.document_kept isObject
  obtain ⟨back, read, same⟩ := kept _ accepted fit
  exact ⟨_, back, accepted, read, same⟩

end VectorClient
