import VectorClient.Proofs.KeyMap
import VectorClient.Proofs.Wire.Contents

/-!
# Fields that are read

A reader takes the fields of a message one behind the other and puts each into what it has read
before. What is written of a field takes it from the contents before the field to those with what
arrives of the field behind them.
-/

namespace VectorClient.Wire

open Number

/-! ### Declarations -/

namespace MessageType

theorem fields_ascend (m : MessageType) : m.fields.Pairwise fun a b => a.tag < b.tag := by
  cases m <;> decide

theorem tag_bounds (m : MessageType) : ∀ field ∈ m.fields, 0 < field.tag ∧ field.tag < pow2 29 := by
  cases m <;> decide

theorem field?_of_mem {m : MessageType} {field : Field} (member : field ∈ m.fields) :
    m.field? field.tag = some field := by
  have declared : ∀ field ∈ m.fields, m.field? field.tag = some field := by
    cases m <;> decide
  exact declared field member

end MessageType

/-! ### Contents in order -/

namespace Fields

/-- All fields have smaller tags. -/
def Below (tag : Nat) (s : Fields) : Prop := ∀ e ∈ s, e.1 < tag

variable {tag : Nat} {s : Fields} {d : Datum}

theorem put_last (below : s.Below tag) : s.put tag d = s ++ [(tag, d)] := by
  induction s with
  | nil => rfl
  | cons e rest ih =>
    obtain ⟨first, others⟩ := List.forall_mem_cons.mp below
    have first : e.1 < tag := first
    rw [put, if_neg (by omega), if_neg (by omega), ih others]
    rfl

theorem put_again (below : s.Below tag) (old : Datum) :
    put tag d (s ++ [(tag, old)]) = s ++ [(tag, d)] := by
  induction s with
  | nil => rw [List.nil_append, put, if_neg (Nat.lt_irrefl tag), if_pos rfl]; rfl
  | cons e rest ih =>
    obtain ⟨first, others⟩ := List.forall_mem_cons.mp below
    have first : e.1 < tag := first
    rw [List.cons_append, put, if_neg (by omega), if_neg (by omega), ih others]
    rfl

theorem get?_below (below : s.Below tag) : s.get? tag = none := by
  induction s with
  | nil => rfl
  | cons e rest ih =>
    obtain ⟨first, others⟩ := List.forall_mem_cons.mp below
    have first : e.1 < tag := first
    rw [get?, if_neg (by omega), ih others]

theorem get?_last (below : s.Below tag) : get? tag (s ++ [(tag, d)]) = some d := by
  induction s with
  | nil => rw [List.nil_append, get?, if_pos rfl]
  | cons e rest ih =>
    obtain ⟨first, others⟩ := List.forall_mem_cons.mp below
    have first : e.1 < tag := first
    rw [List.cons_append, get?, if_neg (by omega), ih others]

theorem remove_of_absent {tags : List Nat} (absent : ∀ e ∈ s, e.1 ∉ tags) : s.remove tags = s :=
  List.filter_eq_self.mpr fun e member => decide_eq_true (absent e member)

theorem Below.append {other : Nat} (below : s.Below tag) (smaller : other < tag) :
    Below tag (s ++ [(other, d)]) :=
  List.forall_mem_append.mpr ⟨below, List.forall_mem_singleton.mpr smaller⟩

end Fields

/-! ### Steps of a reader -/

namespace Level

/-- The bytes take a reader from some contents to others, whatever follows. The fuel lasts for the
bytes that follow. -/
def Reads (l : Level) (m : MessageType) (b : Bytes) (s s' : Fields) : Prop :=
  ∀ (rest : Bytes) (fuel : Nat), (b ++ rest).length ≤ fuel →
    ∃ fuel', rest.length ≤ fuel' ∧
      l.readFields m fuel (b ++ rest) s = l.readFields m fuel' rest s'

variable {l : Level} {m : MessageType} {b c : Bytes} {s s' s'' : Fields}

theorem Reads.nothing : l.Reads m [] s s := fun _ fuel enough => ⟨fuel, enough, rfl⟩

theorem Reads.append (first : l.Reads m b s s') (second : l.Reads m c s' s'') :
    l.Reads m (b ++ c) s s'' := by
  intro rest fuel enough
  rw [List.append_assoc] at enough ⊢
  obtain ⟨fuel', enough', same⟩ := first (c ++ rest) fuel enough
  obtain ⟨fuel'', enough'', same'⟩ := second rest fuel' enough'
  exact ⟨fuel'', enough'', same.trans same'⟩

theorem Reads.reader (reads : l.Reads m b s s') : l.reader m s b = some s' := by
  obtain ⟨fuel, _, same⟩ := reads [] b.length (by rw [List.append_nil])
  rw [List.append_nil] at same
  rw [Level.reader, same]
  cases fuel <;> rfl

theorem Reads.field {field : Field} {type : WireType} (declared : field ∈ m.fields)
    (read : ∀ rest, l.readField m field type (b ++ rest) s = some (s', rest)) :
    l.Reads m (key field.tag type ++ b) s s' := by
  intro rest fuel enough
  obtain ⟨positive, small⟩ := m.tag_bounds field declared
  have progress := List.length_pos_of_ne_nil (key_ne_nil field.tag type)
  obtain ⟨first, more, front⟩ := List.exists_cons_of_ne_nil (key_ne_nil field.tag type)
  rw [List.append_assoc] at enough ⊢
  have read_key := readKey_key type positive small (b ++ rest)
  rw [List.length_append] at enough
  cases fuel with
  | zero => omega
  | succ fuel =>
    refine ⟨fuel, ?_, ?_⟩
    · rw [List.length_append] at enough
      omega
    · rw [front, List.cons_append] at read_key ⊢
      simp only [readFields, read_key, Option.bind_eq_bind, Option.bind_some,
        MessageType.field?_of_mem declared, read rest]

/-! ### Values -/

/-- The reader gets what arrives of all contents that nest no deeper than it goes. -/
def Delivers (inner : Transport) (read : Reader) (levels : Nat) : Prop :=
  ∀ t f g, inner t f g → fieldLevels f + 1 ≤ levels → (encodeFields t f).length < pow2 64 →
    read t [] (encodeFields t f) = some g

section Values

variable {inner : Transport} {read : Reader} {levels : Nat} {kind : Kind} {d d' : Datum}

theorem readValue_payload (delivers : Delivers inner read levels) (value : Arrives inner kind d d')
    (shallow : d.levels ≤ levels) (small : (d.payload kind).length < pow2 64) {old : Option Datum}
    (fresh : ∀ fields, old = some (.message fields) → fields = []) (rest : Bytes) :
    readValue read kind old kind.wireType (d.payload kind ++ rest) = some (d', rest) := by
  cases value with
  | scalar scalar =>
    have read_scalar := readScalar_payload scalar small rest
    cases kind with
    | message => cases d <;> cases scalar
    | _ => simpa [readValue] using read_scalar
  | @message type f g within =>
    rw [Datum.levels] at shallow
    rw [Datum.payload] at small ⊢
    have short := Nat.lt_of_le_of_lt (length_le_delimited _) small
    have read_inner := delivers type f g within shallow short
    simp only [readValue, ne_eq, not_true_eq_false, if_false, readDelimited_delimited short,
      Option.bind_eq_bind, Option.bind_some]
    split
    · rename_i fields
      rw [fresh fields rfl, read_inner]
      rfl
    · rw [read_inner]
      rfl

theorem scalar_of_packed (packed : kind.isPacked = true) (value : Arrives inner kind d d') :
    d.scalarKind? = some kind ∧ d' = d := by
  cases value with
  | scalar scalar => exact ⟨scalar, rfl⟩
  | message => cases packed

end Values

/-! ### Fields -/

structure DeliversBelow (l : Level) (inner : Transport) : Prop where
  fields : Delivers inner l.inner l.remaining
  entries : Delivers inner l.innerEntry (l.remaining - 1)

section Fields

variable {inner : Transport} {field : Field} {d d' : Datum} {s : Fields}

theorem Reads.single (below : l.DeliversBelow inner) (declared : field ∈ m.fields)
    (value : Arrives inner field.kind d d') (shallow : d.levels ≤ l.remaining)
    (small : (d.payload field.kind).length < pow2 64) (last : s.Below field.tag)
    (rule : field.rule = .plain ∧ d'.isDefault = false ∨ field.rule = .optional ∨
      ∃ group, field.rule = .member group ∧ ∀ e ∈ s, e.1 ∉ rivals m group field.tag) :
    l.Reads m (key field.tag field.kind.wireType ++ d.payload field.kind) s
      (s ++ [(field.tag, d')]) := by
  refine .field declared fun rest => ?_
  have absent := Fields.get?_below last
  have fresh : ∀ fields, (none : Option Datum) = some (.message fields) → fields = [] := nofun
  have read := readValue_payload below.fields value shallow small fresh rest
  obtain ⟨plain, kept⟩ | optional | ⟨group, member, excluded⟩ := rule
  · simp only [readField, plain, read, Option.bind_eq_bind, Option.bind_some, Fields.putPlain, kept,
      Bool.false_eq_true, if_false, Fields.put_last last]
    rfl
  · simp only [readField, optional, absent, read, Option.bind_eq_bind, Option.bind_some,
      Fields.put_last last]
    rfl
  · simp only [readField, member, absent, read, Option.bind_eq_bind, Option.bind_some,
      Fields.remove_of_absent excluded, Fields.put_last last]
    rfl

/-- The contents with the values of a list that were read so far. -/
def withList (s : Fields) (tag : Nat) (read : List Datum) : Fields :=
  if read.isEmpty then s else s ++ [(tag, .list read)]

theorem list_withList {tag : Nat} (last : s.Below tag) (read : List Datum) :
    Fields.list tag (withList s tag read) = read := by
  cases read with
  | nil => simp only [withList, List.isEmpty_nil, if_true, Fields.list, Fields.get?_below last]
  | cons first rest =>
    simp only [withList, List.isEmpty_cons, Bool.false_eq_true, if_false, Fields.list,
      Fields.get?_last last]

theorem put_withList {tag : Nat} (last : s.Below tag) (read : List Datum) :
    Fields.put tag d (withList s tag read) = s ++ [(tag, d)] := by
  cases read with
  | nil => exact Fields.put_last last
  | cons first rest => exact Fields.put_again last _

theorem Reads.keyed (below : l.DeliversBelow inner) (declared : field ∈ m.fields)
    (repeated : field.rule = .repeated) (single : field.kind.isPacked = false)
    (last : s.Below field.tag) {ds ds' : List Datum}
    (values : List.Forall₂ (Arrives inner field.kind) ds ds') :
    itemLevels ds ≤ l.remaining → (keyedPayloads field.tag field.kind ds).length < pow2 64 →
      ∀ before, l.Reads m (keyedPayloads field.tag field.kind ds) (withList s field.tag before)
        (withList s field.tag (before ++ ds')) := by
  induction values with
  | nil =>
    intro _ _ before
    rw [List.append_nil]
    exact .nothing
  | @cons d d' ds ds' value _ ih =>
    intro shallow small before
    rw [itemLevels] at shallow
    rw [keyedPayloads, List.length_append, List.length_append] at small
    rw [keyedPayloads, List.append_cons]
    have later := ih (by omega) (by omega) (before ++ [d'])
    refine .append (.field declared fun rest => ?_) later
    have fresh : ∀ fields, (none : Option Datum) = some (.message fields) → fields = [] := nofun
    have read := readValue_payload below.fields value (by omega) (by omega) fresh rest
    have some_read : (before ++ [d']).isEmpty = false := by simp
    have appended : withList s field.tag (before ++ [d']) =
        s ++ [(field.tag, .list (before ++ [d']))] := by
      rw [withList, some_read]
      rfl
    simp only [readField, repeated, single, Bool.false_and, Bool.false_eq_true, if_false, read,
      Option.pure_def, Option.bind_eq_bind, Option.bind_some, list_withList last, some_read,
      put_withList last, appended]

theorem Reads.packed (declared : field ∈ m.fields) (repeated : field.rule = .repeated)
    (packed : field.kind.isPacked = true) (last : s.Below field.tag) {ds : List Datum}
    (nonempty : ds ≠ []) (scalars : ∀ d ∈ ds, d.scalarKind? = some field.kind)
    (small : (delimited (payloads field.kind ds)).length < pow2 64) :
    l.Reads m (key field.tag .delimited ++ delimited (payloads field.kind ds)) s
      (s ++ [(field.tag, .list ds)]) := by
  refine .field declared fun rest => ?_
  have short := Nat.lt_of_le_of_lt (length_le_delimited _) small
  have absent : Fields.list field.tag s = [] := by
    rw [Fields.list, Fields.get?_below last]
  have read := readPacked_payloads scalars short (Nat.le_refl _)
  have some_read : ds.isEmpty = false := List.isEmpty_eq_false_iff.mpr nonempty
  simp only [readField, repeated, packed, decide_true, Bool.and_true, if_true,
    readDelimited_delimited short, read, Option.pure_def, Option.bind_eq_bind, Option.bind_some,
    absent, List.nil_append, some_read, Bool.false_eq_true, if_false, Fields.put_last last]

/-! ### Entries -/

theorem readEntry_first {kind : Kind} {b rest : Bytes} {k : String} (fuel : Nat) (name : String)
    (read : readValue l.innerEntry .string none .delimited b = some (.string k, rest)) :
    l.readEntry kind (fuel + 1) (key 1 .delimited ++ b) (name, d) =
      l.readEntry kind fuel rest (k, d) := by
  have read_key := @readKey_key 1 .delimited (by decide) (by decide) b
  obtain ⟨first, more, front⟩ := List.exists_cons_of_ne_nil (key_ne_nil 1 .delimited)
  rw [front, List.cons_append] at read_key ⊢
  simp only [readEntry, read_key, Option.bind_eq_bind, Option.bind_some, if_true, read]

theorem readEntry_second {kind : Kind} {type : WireType} {b rest : Bytes} (fuel : Nat)
    (name : String) (read : readValue l.innerEntry kind (some d) type b = some (d', rest)) :
    l.readEntry kind (fuel + 1) (key 2 type ++ b) (name, d) =
      l.readEntry kind fuel rest (name, d') := by
  have read_key := @readKey_key 2 type (by decide) (by decide) b
  obtain ⟨first, more, front⟩ := List.exists_cons_of_ne_nil (key_ne_nil 2 type)
  rw [front, List.cons_append] at read_key ⊢
  simp only [readEntry, read_key, Option.bind_eq_bind, Option.bind_some, if_true, read,
    if_neg (show ¬2 = 1 by decide)]

theorem readEntry_value (below : l.DeliversBelow inner) {kind : Kind}
    (value : ArrivesInEntry inner kind d d') (shallow : d.levels ≤ l.remaining - 1) {b : Bytes}
    (written : b = if d.isOmitted then [] else key 2 kind.wireType ++ d.payload kind)
    (small : b.length < pow2 64) {fuel : Nat} (enough : b.length ≤ fuel) (name : String) :
    l.readEntry kind fuel b (name, .default kind) = some (name, d') := by
  cases value with
  | omitted gone =>
    rw [if_pos gone] at written
    subst written
    cases fuel <;> rfl
  | kept kept value =>
    rw [if_neg (by simp [kept])] at written
    subst written
    rw [List.length_append] at small enough
    have progress := List.length_pos_of_ne_nil (key_ne_nil 2 kind.wireType)
    have fresh : ∀ fields, some (Datum.default kind) = some (.message fields) → fields = [] := by
      intro fields same
      cases kind <;> cases same
      rfl
    have read := readValue_payload below.entries value shallow (by omega) fresh []
    rw [List.append_nil] at read
    cases fuel with
    | zero => omega
    | succ fuel =>
      rw [readEntry_second fuel name read]
      cases fuel <;> rfl

/-- A key is left out if it is empty and a value if it is a default, which is what an entry starts
with. -/
theorem readEntry_ok (below : l.DeliversBelow inner) {kind : Kind}
    (value : ArrivesInEntry inner kind d d') (shallow : d.levels ≤ l.remaining - 1) {name : String}
    {b content : Bytes}
    (written : b = if d.isOmitted then [] else key 2 kind.wireType ++ d.payload kind)
    (whole : content = (if name = "" then [] else key 1 .delimited ++ delimited (utf8 name)) ++ b)
    (small : content.length < pow2 64) :
    l.readEntry kind content.length content ("", .default kind) = some (name, d') := by
  by_cases unnamed : name = ""
  · rw [if_pos unnamed, List.nil_append] at whole
    subst whole unnamed
    exact readEntry_value below value shallow written small (Nat.le_refl _) ""
  · rw [if_neg unnamed] at whole
    subst whole
    rw [List.length_append, List.length_append] at small
    have progress := List.length_pos_of_ne_nil (key_ne_nil 1 .delimited)
    have fresh : ∀ fields, (none : Option Datum) = some (.message fields) → fields = [] := nofun
    have isText : Arrives inner .string (.string name) (.string name) := .scalar rfl
    have read := readValue_payload below.entries isText (Nat.zero_le _)
      (show (delimited (utf8 name)).length < _ by omega) fresh b
    rw [Datum.payload] at read
    obtain ⟨fuel, size, enough⟩ : ∃ fuel, (key 1 .delimited ++ delimited (utf8 name) ++ b).length =
        fuel + 1 ∧ b.length ≤ fuel := by
      refine ⟨(key 1 .delimited ++ delimited (utf8 name) ++ b).length - 1, ?_⟩
      rw [List.length_append, List.length_append]
      omega
    rw [size, List.append_assoc, readEntry_first fuel "" read]
    exact readEntry_value below value shallow written (by omega) enough name

/-- The contents with the entries of a map that were read so far. -/
def withMap (s : Fields) (tag : Nat) (read : KeyMap Datum) : Fields :=
  if read.isEmpty then s else s ++ [(tag, .map read)]

theorem Reads.entries (below : l.DeliversBelow inner) (declared : field ∈ m.fields)
    (map : field.rule = .map) (last : s.Below field.tag) {es es' : KeyMap Datum}
    (entries : List.Forall₂
      (fun e e' => e'.1 = e.1 ∧ ArrivesInEntry inner field.kind e.2 e'.2) es es') :
    entryLevels es + 1 ≤ l.remaining → (entryPayloads field.tag field.kind es).length < pow2 64 →
      ∀ before : KeyMap Datum, KeyMap.Ordered (before ++ es') →
        l.Reads m (entryPayloads field.tag field.kind es) (withMap s field.tag before)
          (withMap s field.tag (before ++ es')) := by
  induction entries with
  | nil =>
    intro _ _ before _
    rw [List.append_nil]
    exact .nothing
  | @cons e e' es es' both _ ih =>
    intro shallow small before ordered
    obtain ⟨same, value⟩ := both
    obtain ⟨name, d⟩ := e
    obtain ⟨name', d'⟩ := e'
    obtain rfl : name' = name := same
    have value : ArrivesInEntry inner field.kind d d' := value
    have shallow : max d.levels (entryLevels es) + 1 ≤ l.remaining := shallow
    rw [entryPayloads, List.length_append, List.length_append] at small
    rw [List.append_cons] at ordered ⊢
    have short := Nat.lt_of_le_of_lt (length_le_delimited _)
      (Nat.lt_of_le_of_lt (Nat.le_add_left _ _) (Nat.lt_of_le_of_lt (Nat.le_add_right _ _) small))
    have read := readEntry_ok below value (by omega) rfl rfl short
    have later := ih (by omega) (by omega) (before ++ [(name', d')]) ordered
    rw [entryPayloads]
    refine .append (.field declared fun rest => ?_) later
    have nested : l.remaining ≠ 0 := by omega
    have entered : KeyMap.insert name' d' before = before ++ [(name', d')] :=
      KeyMap.insert_of_last (KeyMap.before_of_ordered ordered)
    have appended : withMap s field.tag (before ++ [(name', d')]) =
        s ++ [(field.tag, .map (before ++ [(name', d')]))] := by
      cases before <;> rfl
    simp only [readField, map, if_neg nested, readDelimited_delimited short, read, Option.pure_def,
      Option.bind_eq_bind, Option.bind_some, appended]
    cases before with
    | nil =>
      simp only [withMap, List.isEmpty_nil, if_true, Fields.get?_below last, entered,
        Fields.put_last last]
    | cons first more =>
      simp only [withMap, List.isEmpty_cons, Bool.false_eq_true, if_false, Fields.get?_last last,
        entered, Fields.put_again last]

end Fields

end Level

end VectorClient.Wire
