import VectorClient.Proofs.Property.Reading
import VectorClient.Proofs.Property.RoundTrip

/-!
# Properties written again

What was read is written in one form: ids in lower case with hyphens, whole numbers as the doubles
nearest to them, dates in UTC. The form is read as the same properties, unless the year of a date
has four digits where it was read and no longer in UTC.
-/

namespace VectorClient

open Number Wire

/-! ### Values that can be written again -/

inductive Wire.Value.IsWhole : Value → Prop
  | intro {v : Value} (notPhone : ∀ number, v ≠ .phone number)
      (typed : ∀ elements, v ≠ .list elements .untyped) (each : ∀ w ∈ v.parts, IsWhole w) :
      IsWhole v

structure Property.IsRewritable (p : Property) : Prop where
  notPhone : ∀ number, p ≠ .phone number
  ints : ∀ n ∈ p.intElements, (Double.ofInt n.toInt).round? = some n.toInt

theorem Property.isRewritable_of_noInts {p : Property} (notPhone : ∀ number, p ≠ .phone number)
    (noInts : p.intElements = []) : p.IsRewritable :=
  ⟨notPhone, noInts ▸ List.forall_mem_nil _⟩

theorem nodesOfFields_eq_flatMap (fields : List (String × Property)) :
    nodesOfFields fields = fields.flatMap (·.2.nodes) := by
  induction fields with
  | nil => rfl
  | cons f rest ih => rw [nodesOfFields, ih, List.flatMap_cons]

theorem nodesOfObjects_eq_flatMap (values : List (List (String × Property))) :
    nodesOfObjects values = values.flatMap nodesOfFields := by
  induction values with
  | nil => rfl
  | cons fields rest ih => rw [nodesOfObjects, ih, List.flatMap_cons]

theorem ReadFields.isRewritable {fields : List (String × Value)}
    {properties : List (String × Property)} (read : ReadFields fields properties)
    (inside : ∀ f ∈ fields, ∀ {p : Property}, Property.ofWire f.2 = .ok (some p) →
      ∀ q ∈ p.nodes, q.IsRewritable) : ∀ q ∈ nodesOfFields properties, q.IsRewritable := by
  intro q member
  rw [nodesOfFields_eq_flatMap] at member
  obtain ⟨p, listed, node⟩ := List.mem_flatMap.mp member
  obtain ⟨f, kept, _, read_p⟩ := exists_of_forall₂ read p listed
  exact inside f (List.mem_of_mem_filter kept) read_p q node

theorem ReadList.isRewritable {elements : List Value} {kind : ListKind} {p : Property}
    (read : ReadList elements kind p) (typed : kind ≠ .untyped)
    (inside : ∀ v ∈ (Value.list elements kind).parts, ∀ {p : Property},
      Property.ofWire v = .ok (some p) → ∀ q ∈ p.nodes, q.IsRewritable) :
    ∀ q ∈ p.nodes, q.IsRewritable := by
  cases read with
  | untyped each listed => exact absurd rfl typed
  | ints each =>
    refine List.forall_mem_singleton.mpr ⟨by simp, fun n member => ?_⟩
    obtain ⟨_, _, nearest⟩ := exists_of_forall₂ each n member
    exact Double.round?_ofInt_of_round? nearest
  | objects each =>
    refine List.forall_mem_cons.mpr
      ⟨Property.isRewritable_of_noInts (by simp) rfl, fun q member => ?_⟩
    rw [nodesOfObjects_eq_flatMap] at member
    obtain ⟨properties, listed, node⟩ := List.mem_flatMap.mp member
    obtain ⟨fields, sent, read⟩ := exists_of_forall₂ each properties listed
    refine read.isRewritable (fun f member => inside f.2 ?_) q node
    exact List.mem_map_of_mem (List.mem_flatten.mpr ⟨fields, sent, member⟩)
  | _ => exact List.forall_mem_singleton.mpr (Property.isRewritable_of_noInts (by simp) rfl)

theorem Property.isRewritable_of_read {v : Value} (whole : v.IsWhole) :
    ∀ {p : Property}, Property.ofWire v = .ok (some p) → ∀ q ∈ p.nodes, q.IsRewritable := by
  induction whole with
  | @intro v notPhone typed each ih =>
    intro p read
    cases v with
    | unset | null => cases read
    | phone number => exact absurd rfl (notPhone number)
    | date | uuid =>
      obtain ⟨_, _, same⟩ := map_ok.mp read
      obtain rfl := Option.some.inj same
      exact List.forall_mem_singleton.mpr (Property.isRewritable_of_noInts (by simp) rfl)
    | object fields =>
      obtain ⟨properties, mapped, same⟩ := map_ok.mp read
      obtain rfl := Option.some.inj same
      have inside := (propertiesOfWire_ok.mp mapped).isRewritable fun f member =>
        ih f.2 (List.mem_map_of_mem member)
      exact List.forall_mem_cons.mpr ⟨Property.isRewritable_of_noInts (by simp) rfl, inside⟩
    | list elements kind =>
      refine (Property.ofWire_list_ok read).isRewritable (fun untyped => ?_) ih
      exact typed elements (untyped ▸ rfl)
    | _ =>
      obtain rfl := Option.some.inj (Except.ok.inj read)
      exact List.forall_mem_singleton.mpr (Property.isRewritable_of_noInts (by simp) rfl)

/-! ### Normal forms of what was read -/

mutual

theorem Property.normal_of_isRewritable : ∀ p : Property,
    (∀ q ∈ p.nodes, q.IsRewritable) → p.normal true = p
  | .phone number, rewritable =>
    absurd rfl ((rewritable _ (Property.mem_nodes _)).notPhone number)
  | .object fields, rewritable =>
    congrArg Property.object <| normalFields_of_isRewritable fields fun q member =>
      rewritable q (List.mem_cons_of_mem _ member)
  | .objectArray values, rewritable =>
    congrArg Property.objectArray <| normalObjects_of_isRewritable values fun q member =>
      rewritable q (List.mem_cons_of_mem _ member)
  | .text _, _ | .int _, _ | .number _, _ | .boolean _, _ | .date _, _ | .uuid _, _ | .blob _, _
  | .geo _, _ | .textArray _, _ | .intArray _, _ | .numberArray _, _ | .booleanArray _, _
  | .dateArray _, _ | .uuidArray _, _ => rfl

theorem normalFields_of_isRewritable : ∀ fields : List (String × Property),
    (∀ q ∈ nodesOfFields fields, q.IsRewritable) → normalFields true fields = fields
  | [], _ => rfl
  | (name, p) :: rest, rewritable => by
    obtain ⟨rewritable_p, rewritable_rest⟩ := List.forall_mem_append.mp rewritable
    rw [normalFields, p.normal_of_isRewritable rewritable_p,
      normalFields_of_isRewritable rest rewritable_rest]

theorem normalObjects_of_isRewritable : ∀ values : List (List (String × Property)),
    (∀ q ∈ nodesOfObjects values, q.IsRewritable) → normalObjects true values = values
  | [], _ => rfl
  | fields :: rest, rewritable => by
    obtain ⟨rewritable_fields, rewritable_rest⟩ := List.forall_mem_append.mp rewritable
    rw [normalObjects, normalFields_of_isRewritable fields rewritable_fields,
      normalObjects_of_isRewritable rest rewritable_rest]

end

/-! ### Dates of what is read again -/

mutual

theorem Property.readable_of_mem_nodes : ∀ p : Property, (p.toWire true).Readable →
    ∀ q ∈ p.nodes, (q.toWire true).Readable
  | .object fields, readable => by
    refine List.forall_mem_cons.mpr ⟨readable, readable_of_mem_nodesOfFields fields ?_⟩
    rw [Property.toWire] at readable
    cases readable with
    | plain isPlain => cases isPlain
    | object each => exact each
  | .objectArray values, readable => by
    refine List.forall_mem_cons.mpr ⟨readable, readable_of_mem_nodesOfObjects values ?_⟩
    rw [Property.toWire, listToWire, if_pos rfl] at readable
    cases readable with
    | plain isPlain => cases isPlain
    | objects each => exact each
  | .text _, readable | .int _, readable | .number _, readable | .boolean _, readable
  | .date _, readable | .uuid _, readable | .blob _, readable | .geo _, readable
  | .phone _, readable | .textArray _, readable | .intArray _, readable
  | .numberArray _, readable | .booleanArray _, readable | .dateArray _, readable
  | .uuidArray _, readable => List.forall_mem_singleton.mpr readable

theorem readable_of_mem_nodesOfFields : ∀ fields : List (String × Property),
    (∀ f ∈ propertiesToWire true fields, f.2.Readable) →
      ∀ q ∈ nodesOfFields fields, (q.toWire true).Readable
  | [], _ => nofun
  | (_, p) :: rest, readable => by
    obtain ⟨readable_p, readable_rest⟩ := List.forall_mem_cons.mp readable
    exact List.forall_mem_append.mpr
      ⟨p.readable_of_mem_nodes readable_p, readable_of_mem_nodesOfFields rest readable_rest⟩

theorem readable_of_mem_nodesOfObjects : ∀ values : List (List (String × Property)),
    (∀ fields ∈ objectsToWire true values, ∀ f ∈ fields, f.2.Readable) →
      ∀ q ∈ nodesOfObjects values, (q.toWire true).Readable
  | [], _ => nofun
  | fields :: rest, readable => by
    obtain ⟨readable_fields, readable_rest⟩ := List.forall_mem_cons.mp readable
    exact List.forall_mem_append.mpr
      ⟨readable_of_mem_nodesOfFields fields readable_fields,
        readable_of_mem_nodesOfObjects rest readable_rest⟩

end

theorem Wire.Value.date_of_readable {raw : String} (readable : (Value.date raw).Readable) :
    ∃ d, Date.read? raw = some d := by
  cases readable with
  | plain isPlain => cases isPlain
  | date read => exact ⟨_, read⟩

theorem Wire.Value.dates_of_readable {elements : List Value} {values : List String}
    (readable : (Value.list elements (.dates values)).Readable) :
    ∀ raw ∈ values, ∃ d, Date.read? raw = some d := by
  cases readable with
  | plain isPlain => cases isPlain
  | dates each => exact each

theorem Property.plain_of_readable {p : Property} (readable : (p.toWire true).Readable) :
    ∀ d ∈ p.dates, d.HasPlainYear := by
  cases p with
  | date d =>
    obtain ⟨e, read⟩ := Wire.Value.date_of_readable readable
    exact List.forall_mem_singleton.mpr (Date.read?_text_iff.mp read).2
  | dateArray values =>
    intro d member
    obtain ⟨e, read⟩ :=
      Wire.Value.dates_of_readable readable d.text (List.mem_map_of_mem member)
    exact (Date.read?_text_iff.mp read).2
  | _ => exact List.forall_mem_nil _

/-- What was read is read from what is written of it, and nothing else is, iff the years of all
dates have four digits in UTC. -/
theorem Properties.read_again {caps : Capabilities} {w : Wire.Properties} {p : Properties}
    (typed : caps.supports .typedListValues = true) (whole : ∀ f ∈ w, f.2.IsWhole)
    (read : Properties.ofWire w = .ok p) (again : Properties) :
    Properties.ofWire (p.toWire caps) = .ok again ↔
      again = p ∧ ∀ q ∈ p.nodes, ∀ d ∈ q.dates, d.HasPlainYear := by
  have rewritable : ∀ q ∈ nodesOfFields p, q.IsRewritable :=
    (propertiesOfWire_ok.mp read).isRewritable fun f member =>
      Property.isRewritable_of_read (whole f member)
  have same (plain : ∀ q ∈ p.nodes, ∀ d ∈ q.dates, d.HasPlainYear) :
      Properties.ofWire (p.toWire caps) = .ok p := by
    have written := propertiesOfWire_toWire_of_held true p fun q member =>
      ⟨plain q member, fun _ => (rewritable q member).ints⟩
    rwa [normalFields_of_isRewritable p rewritable, ← typed] at written
  constructor
  · intro read_again
    have plain : ∀ q ∈ p.nodes, ∀ d ∈ q.dates, d.HasPlainYear := by
      rw [Properties.ofWire, Properties.toWire, typed] at read_again
      have readable := readable_of_mem_nodesOfFields p fun f member =>
        (Property.ofWire_accepts f.2).mp (propertiesOfWire_accepts.mp ⟨again, read_again⟩ f member)
      exact fun q member => Property.plain_of_readable (readable q member)
    exact ⟨Except.ok.inj (read_again.symm.trans (same plain)), plain⟩
  · rintro ⟨rfl, plain⟩
    exact same plain

/-- The date comes two hours east of UTC, and the lanes are one and a half and minus three quarters.
-/
theorem Properties.read_again_in_utc :
    let lanes : Bytes := [0, 0, 0, 0, 0, 0, 0xf8, 0x3f, 0, 0, 0, 0, 0, 0, 0xe8, 0xbf]
    let w : Wire.Properties :=
      [("born", .date "2024-03-01T14:30:00.250+02:00"), ("gone", .null 0),
        ("parts", .list [] (.objects [[("counts", .list [] (.ints lanes))], []]))]
    let p : Properties :=
      [("born", .date ⟨1709296200, 250000000, by decide⟩),
        ("parts", .objectArray [[("counts", .intArray [2, -1])], []])]
    (∀ f ∈ w, f.2.IsWhole) ∧ Properties.ofWire w = .ok p ∧
      Properties.ofWire (p.toWire ⟨⟨1, 25, 0⟩⟩) = .ok p := by
  intro lanes w p
  have whole : ∀ f ∈ w, f.2.IsWhole := by
    have date (raw : String) : (Value.date raw).IsWhole := .intro nofun nofun nofun
    have null : (Value.null 0).IsWhole := .intro nofun nofun nofun
    have counts : (Value.list [] (.ints lanes)).IsWhole := .intro nofun nofun nofun
    have parts :
        (Value.list [] (.objects [[("counts", .list [] (.ints lanes))], []])).IsWhole :=
      .intro nofun nofun (List.forall_mem_singleton.mpr counts)
    simp only [w, List.forall_mem_cons]
    exact ⟨date _, null, parts, nofun⟩
  have read : Properties.ofWire w = .ok p := by
    have born : readDate "2024-03-01T14:30:00.250+02:00" =
        .ok ⟨1709296200, 250000000, by decide⟩ := by decide +kernel
    have counts : Vector.decodeInts lanes = .ok [2, -1] := by decide +kernel
    simp only [w, Properties.ofWire, propertiesOfWire, Property.ofWire, objectsOfWire, born, counts]
    rfl
  have plain : ∀ q ∈ p.nodes, ∀ d ∈ q.dates, d.HasPlainYear := by decide +kernel
  exact ⟨whole, read, (Properties.read_again rfl whole read p).mpr ⟨rfl, plain⟩⟩

/-- The last hour of the year 9999 west of UTC is read, and written as a year of five digits that is
not read. -/
theorem Properties.not_read_again_after_9999 :
    let w : Wire.Properties := [("until", .date "9999-12-31T23:59:59-01:00")]
    let p : Properties := [("until", .date ⟨253402304399, 0, by decide⟩)]
    let caps : Capabilities := ⟨⟨1, 27, 0⟩⟩
    caps.supports .typedListValues = true ∧ (∀ f ∈ w, f.2.IsWhole) ∧ Properties.ofWire w = .ok p ∧
      p.toWire caps = [("until", .date "+10000-01-01T00:59:59Z")] ∧
      Properties.ofWire (p.toWire caps) =
        .error (.wireDecode (.date "+10000-01-01T00:59:59Z")) := by
  intro w p caps
  have whole : ∀ f ∈ w, f.2.IsWhole :=
    List.forall_mem_singleton.mpr (.intro nofun nofun nofun)
  have read : Properties.ofWire w = .ok p := by
    have last : readDate "9999-12-31T23:59:59-01:00" = .ok ⟨253402304399, 0, by decide⟩ := by
      decide +kernel
    simp only [w, Properties.ofWire, propertiesOfWire, Property.ofWire, last]
    rfl
  have text : Date.text ⟨253402304399, 0, by decide⟩ = "+10000-01-01T00:59:59Z" := by
    decide +kernel
  have written : p.toWire caps = [("until", .date "+10000-01-01T00:59:59Z")] :=
    congrArg (fun raw => [("until", Value.date raw)]) text
  refine ⟨rfl, whole, read, written, ?_⟩
  have refused : readDate "+10000-01-01T00:59:59Z" =
      .error (.wireDecode (.date "+10000-01-01T00:59:59Z")) := by decide +kernel
  rw [written, Properties.ofWire, propertiesOfWire, Property.ofWire, refused]
  rfl

end VectorClient
