import VectorClient.Proofs.Json.Places
import VectorClient.Proofs.Steps
import VectorClient.Property.Json

/-!
# Documents as properties

A document is taken as properties iff each list in it is of one kind, and it is read back of them as
it was, without its nulls. Only whole numbers that no double holds can get lost: those that do not
fit a word with a sign, and those in a list with a double or with a number that does not fit one.
-/

namespace VectorClient

open Number Json

/-! ### What lists and objects are read as -/

inductive ReadItems : List Json → Property → Prop
  | texts {items : List Json} {values : List String}
      (each : List.Forall₂ (fun item s => textOf? item = some s) items values) :
      ReadItems items (.textArray values)
  | booleans {items : List Json} {values : List Bool} (listed : items ≠ [])
      (each : List.Forall₂ (fun item b => booleanOf? item = some b) items values) :
      ReadItems items (.booleanArray values)
  | ints {items : List Json} {values : List Int64} (listed : items ≠ [])
      (each : List.Forall₂ (fun item n => signedWord? item = some n) items values) :
      ReadItems items (.intArray values)
  | numbers {items : List Json} {values : List Double}
      (other : ∃ item ∈ items, signedWord? item = none)
      (each : List.Forall₂ (fun item x => anyNumber? item = some x) items values) :
      ReadItems items (.numberArray values)
  | objects {items : List Json} {values : List (List (String × Property))} (listed : items ≠ [])
      (each : List.Forall₂ (fun item fields =>
        ∃ entries, item = .object entries ∧ propertiesOfEntries entries = .ok fields)
        items values) :
      ReadItems items (.objectArray values)

/-- The fields are the entries that are not null, each read of its own value. -/
def ReadEntries (entries : List (String × Json)) (fields : List (String × Property)) : Prop :=
  List.Forall₂ (fun e f => f.1 = e.1 ∧ Property.ofJson e.1 e.2 = .ok (some f.2))
    (entries.filter fun e => !e.2.isNull) fields

theorem readList_ok {α : Type} {name : String} {read? : Json → Option α} {items : List Json}
    {values : List α} : readList name read? items = .ok values ↔
      List.Forall₂ (fun item a => read? item = some a) items values := by
  rw [readList, mapM_ok_iff]
  constructor
  · refine List.Forall₂.imp fun item a read => ?_
    cases taken : read? item with
    | none => simp [taken, invalidInput] at read
    | some b => simpa [taken] using read
  · refine List.Forall₂.imp fun item a taken => ?_
    simp only [taken]

theorem objectsOfItems_ok {name : String} {items : List Json}
    {values : List (List (String × Property))} : objectsOfItems name items = .ok values ↔
      List.Forall₂ (fun item fields =>
        ∃ entries, item = .object entries ∧ propertiesOfEntries entries = .ok fields)
        items values := by
  induction items generalizing values with
  | nil =>
    rw [List.forall₂_nil_left_iff, objectsOfItems]
    exact ⟨fun done => (Except.ok.inj done).symm, fun none => none ▸ rfl⟩
  | cons item rest ih =>
    rw [List.forall₂_cons_left_iff]
    cases item with
    | object entries =>
      rw [objectsOfItems, bind_ok]
      constructor
      · rintro ⟨fields, read, others⟩
        obtain ⟨later, mapped, same⟩ := bind_ok.mp others
        exact ⟨fields, later, ⟨entries, rfl, read⟩, ih.mp mapped, (pure_ok same).symm⟩
      · rintro ⟨fields, later, ⟨_, same, read⟩, others, rfl⟩
        obtain rfl := Json.object.inj same
        exact ⟨fields, read, bind_ok.mpr ⟨later, ih.mpr others, rfl⟩⟩
    | _ =>
      refine ⟨nofun, ?_⟩
      rintro ⟨_, _, ⟨_, same, _⟩, _⟩
      cases same

/-! ### Kinds of items -/

section Kinds

variable {item : Json}

theorem itemKind?_text : item.itemKind? = some .text ↔ ∃ s, textOf? item = some s := by
  cases item <;> simp [itemKind?, textOf?]

theorem itemKind?_boolean : item.itemKind? = some .boolean ↔ ∃ b, booleanOf? item = some b := by
  cases item <;> simp [itemKind?, booleanOf?]

theorem itemKind?_number : item.itemKind? = some .number ↔ ∃ x, anyNumber? item = some x := by
  cases item <;> simp [itemKind?, anyNumber?]

theorem itemKind?_object : item.itemKind? = some .object ↔ ∃ entries, item = .object entries := by
  cases item <;> simp [itemKind?]

theorem signedWord?_eq_some {n : Int64} :
    signedWord? item = some n ↔
      ∃ i, item = .int i ∧ fitsSigned 64 i = true ∧ n = .ofInt i := by
  cases item with
  | int i =>
    rw [signedWord?, Option.ite_none_right_eq_some]
    constructor
    · rintro ⟨fits, same⟩
      exact ⟨i, rfl, fits, (Option.some.inj same).symm⟩
    · rintro ⟨_, same, fits, rfl⟩
      obtain rfl := Json.int.inj same
      exact ⟨fits, rfl⟩
  | _ => simp [signedWord?]

end Kinds

/-- The kind of the items of which a list is made. -/
def Property.itemsKind? : Property → Option ItemKind
  | .textArray _ => some .text
  | .booleanArray _ => some .boolean
  | .intArray _ | .numberArray _ => some .number
  | .objectArray _ => some .object
  | _ => none

theorem ReadItems.kind {items : List Json} {p : Property} (read : ReadItems items p) :
    ∀ item ∈ items, item.itemKind? = p.itemsKind? := by
  intro item member
  cases read with
  | texts each => exact itemKind?_text.mpr (exists_forall₂.mp ⟨_, each⟩ item member)
  | booleans _ each => exact itemKind?_boolean.mpr (exists_forall₂.mp ⟨_, each⟩ item member)
  | numbers _ each => exact itemKind?_number.mpr (exists_forall₂.mp ⟨_, each⟩ item member)
  | ints _ each =>
    obtain ⟨n, taken⟩ := exists_forall₂.mp ⟨_, each⟩ item member
    obtain ⟨i, rfl, _⟩ := signedWord?_eq_some.mp taken
    rfl
  | objects _ each =>
    obtain ⟨_, entries, rfl, _⟩ := exists_forall₂.mp ⟨_, each⟩ item member
    rfl

theorem Property.ofJson_array_cons {name : String} {first : Json} {rest : List Json} :
    Property.ofJson name (.array (first :: rest)) =
      match first.itemKind? with
      | some .text => (readList name textOf? (first :: rest)).map (some <| .textArray ·)
      | some .boolean => (readList name booleanOf? (first :: rest)).map (some <| .booleanArray ·)
      | some .object => (objectsOfItems name (first :: rest)).map (some <| .objectArray ·)
      | some .number =>
        match (first :: rest).mapM signedWord? with
        | some values => .ok (some (.intArray values))
        | none => (readList name anyNumber? (first :: rest)).map (some <| .numberArray ·)
      | none => invalidInput (.nestedElements name) := by
  cases first <;> rfl

theorem Property.ofJson_array_ok {name : String} {items : List Json} {q : Option Property} :
    Property.ofJson name (.array items) = .ok q ↔ ∃ p, q = some p ∧ ReadItems items p := by
  cases items with
  | nil =>
    rw [Property.ofJson]
    constructor
    · intro read
      exact ⟨_, (Except.ok.inj read).symm, .texts .nil⟩
    · rintro ⟨p, rfl, each⟩
      cases each with
      | texts each =>
        obtain rfl := List.forall₂_nil_left_iff.mp each
        rfl
      | booleans listed | ints listed | objects listed => exact absurd rfl listed
      | numbers other =>
        obtain ⟨_, member, _⟩ := other
        cases member
  | cons first rest =>
    have listed : first :: rest ≠ [] := List.cons_ne_nil first rest
    rw [Property.ofJson_array_cons]
    constructor
    · intro read
      split at read
      · obtain ⟨values, each, rfl⟩ := map_ok.mp read
        exact ⟨_, rfl, .texts (readList_ok.mp each)⟩
      · obtain ⟨values, each, rfl⟩ := map_ok.mp read
        exact ⟨_, rfl, .booleans listed (readList_ok.mp each)⟩
      · obtain ⟨values, each, rfl⟩ := map_ok.mp read
        exact ⟨_, rfl, .objects listed (objectsOfItems_ok.mp each)⟩
      · split at read
        · rename_i values words
          exact ⟨_, (Except.ok.inj read).symm, .ints listed (mapM_some_iff.mp words)⟩
        · rename_i other
          obtain ⟨values, each, rfl⟩ := map_ok.mp read
          exact ⟨_, rfl, .numbers (mapM_none_iff.mp other) (readList_ok.mp each)⟩
      · cases read
    · rintro ⟨p, rfl, read⟩
      rw [read.kind first List.mem_cons_self]
      cases read with
      | texts each => exact map_ok.mpr ⟨_, readList_ok.mpr each, rfl⟩
      | booleans _ each => exact map_ok.mpr ⟨_, readList_ok.mpr each, rfl⟩
      | objects _ each => exact map_ok.mpr ⟨_, objectsOfItems_ok.mpr each, rfl⟩
      | ints _ each =>
        have words := mapM_some_iff.mpr each
        simp only [Property.itemsKind?, words]
      | numbers other each =>
        have others := mapM_none_iff.mpr other
        simp only [Property.itemsKind?, others]
        exact map_ok.mpr ⟨_, readList_ok.mpr each, rfl⟩

/-! ### What is accepted -/

theorem Property.ofJson_none {name : String} {v : Json} :
    Property.ofJson name v = .ok none ↔ v.isNull = true := by
  cases v with
  | null => simp [Property.ofJson, isNull]
  | array items => simp [Property.ofJson_array_ok, isNull]
  | int n =>
    rw [Property.ofJson]
    split <;> simp [isNull]
  | _ => simp [Property.ofJson, isNull, map_ok]

theorem propertiesOfEntries_ok {entries : List (String × Json)}
    {fields : List (String × Property)} :
    propertiesOfEntries entries = .ok fields ↔ ReadEntries entries fields := by
  induction entries generalizing fields with
  | nil =>
    rw [propertiesOfEntries, ReadEntries, List.filter_nil, List.forall₂_nil_left_iff]
    exact ⟨fun done => (Except.ok.inj done).symm, fun none => none ▸ rfl⟩
  | cons e rest ih =>
    obtain ⟨name, v⟩ := e
    rw [propertiesOfEntries, bind_ok]
    cases null : v.isNull with
    | true =>
      rw [ReadEntries, List.filter_cons_of_neg (by simp [null]), ← ReadEntries, ← ih]
      constructor
      · rintro ⟨p, read, others⟩
        obtain rfl := Except.ok.inj (read.symm.trans (Property.ofJson_none.mpr null))
        obtain ⟨ps, mapped, same⟩ := bind_ok.mp others
        obtain rfl := pure_ok same
        exact mapped
      · intro others
        exact ⟨none, Property.ofJson_none.mpr null, bind_ok.mpr ⟨fields, others, rfl⟩⟩
    | false =>
      rw [ReadEntries, List.filter_cons_of_pos (by simp [null]), List.forall₂_cons_left_iff]
      constructor
      · rintro ⟨p, read, others⟩
        cases p with
        | none => simp [Property.ofJson_none.mp read] at null
        | some p =>
          obtain ⟨ps, mapped, same⟩ := bind_ok.mp others
          exact ⟨(name, p), ps, ⟨rfl, read⟩, ih.mp mapped, (pure_ok same).symm⟩
      · rintro ⟨⟨_, p⟩, ps, ⟨rfl, read⟩, others, rfl⟩
        exact ⟨some p, read, bind_ok.mpr ⟨ps, ih.mpr others, rfl⟩⟩

theorem ReadEntries.keys {entries : KeyMap Json} {fields : KeyMap Property}
    (read : ReadEntries entries fields) :
    fields.keys = KeyMap.keys (entries.filter fun e => !e.2.isNull) := by
  rw [KeyMap.keys, KeyMap.keys, ← List.forall₂_eq_eq_eq, List.forall₂_map_left_iff,
    List.forall₂_map_right_iff]
  exact read.flip.imp fun _ _ both => both.1

theorem ReadEntries.ordered {entries : KeyMap Json} {fields : KeyMap Property}
    (read : ReadEntries entries fields) (ordered : entries.Ordered) : fields.Ordered := by
  have filtered : KeyMap.Ordered (entries.filter fun e => !e.2.isNull) := ordered.filter _
  exact filtered.of_keys read.keys

theorem ReadEntries.find? {entries : KeyMap Json} {fields : KeyMap Property}
    (read : ReadEntries entries fields) (ordered : entries.Ordered) {name : String} {v : Json}
    (found : entries.find? name = some v) (present : v.isNull = false) :
    ∃ p, fields.find? name = some p ∧ Property.ofJson name v = .ok (some p) := by
  have kept : (name, v) ∈ entries.filter fun e => !e.2.isNull :=
    List.mem_filter.mpr ⟨KeyMap.mem_of_find? found, by simp [present]⟩
  obtain ⟨f, listed, same, read_f⟩ := exists_of_forall₂ read.flip _ kept
  have found_f := (read.ordered ordered).find?_of_mem listed
  rw [same] at found_f
  exact ⟨f.2, found_f, read_f⟩

end VectorClient
