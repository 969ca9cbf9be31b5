import VectorClient.Proofs.Property.Elements
import VectorClient.Proofs.Property.Kept

/-!
# Numbers of documents

A number keeps its value as a property when it is a double, when it and all that share its list fit
a word with a sign, or when some double has its value. Any other is rounded to the nearest double,
and never refused.
-/

namespace VectorClient

open Number Json

/-! ### Places in properties -/

/-- A field of an object, or an element of a list as a property of its own. -/
def Property.part? : Place → Property → Option Property
  | .key name, .object fields => KeyMap.find? name fields
  | .index i, p => p.elements?.bind fun elements => elements[i]?
  | _, _ => none

def Property.at? : List Place → Property → Option Property
  | [], p => some p
  | place :: rest, p => (p.part? place).bind (at? rest)

/-- The exact value of a number, in units of a double. -/
def Property.value? : Property → Option Int
  | .int n => some (n.toInt * Format.double.one)
  | .number x => x.value?
  | _ => none

/-! ### How a number is held -/

/-- The values that get a type together with the value at a path: the items of its list, or it
alone. -/
def Json.groupAt : List Place → Json → List Json
  | [], v => [v]
  | [.index _], .array items => items
  | place :: rest, v => ((v.part? place).map (groupAt rest)).getD []

def Json.isWord (v : Json) : Bool := (signedWord? v).isSome

/-- What a number is as a property, in its group. -/
def Json.heldAs? (group : List Json) : Json → Option Property
  | .int n => some (if group.all isWord then .int (.ofInt n) else .number (.ofInt n))
  | .double x => some (.number x)
  | _ => none

inductive Json.Holdable (group : List Json) : Json → Prop
  | double {x : Double} : Holdable group (.double x)
  | word {n : Int} (words : group.all isWord = true) : Holdable group (.int n)
  | representable {n : Int} (exact : Representable n) : Holdable group (.int n)

theorem Json.not_null_of_heldAs? {v w : Json} {path : List Place} {group : List Json}
    {q : Property} (found : w.at? path = some v) (held : v.heldAs? group = some q) :
    w.isNull = false := by
  cases w with
  | null =>
    cases path with
    | nil =>
      obtain rfl := Option.some.inj found
      cases held
    | cons place rest => cases place <;> cases found
  | _ => rfl

theorem Json.kind_of_heldAs? {v : Json} {group : List Json} {q : Property}
    (held : v.heldAs? group = some q) : v.itemKind? = some .number := by
  cases v with
  | int | double => rfl
  | _ => cases held

theorem Json.kind_of_part? {v w : Json} {place : Place} {kind : ItemKind}
    (typed : v.itemKind? = some kind) (part : v.part? place = some w) : kind = .object := by
  cases v with
  | object => exact (Option.some.inj typed).symm
  | array => cases typed
  | _ => cases place <;> cases part

theorem Json.isWord_int {n : Int} : (Json.int n).isWord = fitsSigned 64 n := by
  rw [isWord, signedWord?]
  cases fitsSigned 64 n <;> rfl

theorem Property.ofJson_number {name : String} {v : Json} {p q : Property}
    (read : Property.ofJson name v = .ok (some p)) (held : v.heldAs? [v] = some q) : p = q := by
  cases v with
  | double x => exact Option.some.inj ((Except.ok.inj read).symm.trans held)
  | int n =>
    rw [heldAs?, List.all_cons, List.all_nil, Bool.and_true, isWord_int] at held
    rw [Property.ofJson, signedWord?] at read
    split at held
    · rename_i fits
      rw [if_pos fits] at read
      exact Option.some.inj ((Except.ok.inj read).symm.trans held)
    · rename_i wide
      rw [if_neg wide] at read
      exact Option.some.inj ((Except.ok.inj read).symm.trans held)
  | _ => cases held

theorem ReadItems.number_at {items : List Json} {p q : Property} (read : ReadItems items p)
    {i : Nat} {v : Json} (found : items[i]? = some v) (held : v.heldAs? items = some q) :
    p.part? (.index i) = some q := by
  have kind := (kind_of_heldAs? held).symm.trans (read.kind v (List.mem_of_getElem? found))
  cases read with
  | texts | booleans | objects => cases kind
  | @ints values _ each =>
    have words : items.all isWord = true := by
      refine List.all_eq_true.mpr fun item member => ?_
      obtain ⟨n, taken⟩ := exists_forall₂.mp ⟨_, each⟩ item member
      rw [isWord, taken, Option.isSome_some]
    obtain ⟨n, at_i, taken⟩ := getElem?_of_forall₂ each found
    obtain ⟨k, rfl, _, rfl⟩ := signedWord?_eq_some.mp taken
    rw [heldAs?, if_pos words] at held
    rw [Property.part?, Property.elements?, Option.bind_some, List.getElem?_map, at_i, ← held]
    rfl
  | @numbers values other each =>
    have notWords : ¬items.all isWord = true := by
      obtain ⟨item, member, notWord⟩ := other
      intro words
      have word := List.all_eq_true.mp words item member
      rw [isWord, notWord] at word
      cases word
    obtain ⟨x, at_i, taken⟩ := getElem?_of_forall₂ each found
    have same : q = .number x := by
      cases v with
      | int n =>
        rw [heldAs?, if_neg notWords] at held
        exact Option.some.inj taken ▸ (Option.some.inj held).symm
      | double y => exact Option.some.inj taken ▸ (Option.some.inj held).symm
      | _ => cases held
    rw [Property.part?, Property.elements?, Option.bind_some, List.getElem?_map, at_i, same]
    rfl

theorem ReadItems.object_at {items : List Json} {p : Property} (read : ReadItems items p)
    {i : Nat} {v w : Json} {place : Place} (found : items[i]? = some v)
    (part : v.part? place = some w) :
    ∃ fields, p.part? (.index i) = some (.object fields) ∧
      ∀ name, Property.ofJson name v = .ok (some (.object fields)) := by
  have kind := read.kind v (List.mem_of_getElem? found)
  cases read with
  | objects _ each =>
    obtain ⟨fields, at_i, entries, rfl, read⟩ := getElem?_of_forall₂ each found
    refine ⟨fields, ?_, fun name => ?_⟩
    · rw [Property.part?, Property.elements?, Option.bind_some, List.getElem?_map, at_i]
      rfl
    · rw [Property.ofJson, read]
      rfl
  | _ => cases kind_of_part? kind part

theorem Json.groupAt_key {v : Json} {name : String} {rest : List Place} :
    v.groupAt (.key name :: rest) = ((v.part? (.key name)).map (groupAt rest)).getD [] := by
  cases v <;> rfl

theorem Json.groupAt_of_part {v w : Json} {place next : Place} {rest : List Place}
    (part : v.part? place = some w) :
    v.groupAt (place :: next :: rest) = w.groupAt (next :: rest) := by
  rw [groupAt, part]
  · rfl
  · exact nofun

theorem Property.ofJson_at (path : List Place) : ∀ {v₀ v : Json} {name : String}
    {p q : Property}, v₀.IsValue → Property.ofJson name v₀ = .ok (some p) →
    v₀.at? path = some v → v.heldAs? (v₀.groupAt path) = some q → p.at? path = some q := by
  induction path with
  | nil =>
    intro v₀ v name p q _ read found held
    obtain rfl := Option.some.inj found
    exact congrArg some (Property.ofJson_number read held)
  | cons place rest ih =>
    intro v₀ v name p q value read found held
    obtain ⟨w, part, inside⟩ := Option.bind_eq_some_iff.mp found
    have w_value := value.part (mem_parts_of_part? part)
    cases value with
    | @object entries ordered each =>
      cases place with
      | index => cases part
      | key k =>
        rw [Property.ofJson] at read
        obtain ⟨fields, mapped, same⟩ := map_ok.mp read
        obtain rfl := Option.some.inj same
        obtain ⟨p', found_p, read_w⟩ := (propertiesOfEntries_ok.mp mapped).find? ordered part
          (not_null_of_heldAs? inside held)
        rw [groupAt_key, part] at held
        rw [Property.at?, Property.part?, found_p]
        exact ih w_value read_w inside held
    | @array items each =>
      cases place with
      | key => cases part
      | index i =>
        obtain ⟨_, same, read⟩ := Property.ofJson_array_ok.mp read
        obtain rfl := Option.some.inj same
        cases rest with
        | nil =>
          obtain rfl := Option.some.inj inside
          rw [Property.at?, read.number_at part held]
          rfl
        | cons next rest =>
          obtain ⟨u, inner, _⟩ := Option.bind_eq_some_iff.mp inside
          obtain ⟨fields, found_p, read_w⟩ := read.object_at part inner
          rw [groupAt_of_part part] at held
          rw [Property.at?, found_p]
          exact ih w_value (read_w name) inside held
    | _ => cases place <;> cases part

theorem Json.value?_of_heldAs? {v : Json} {group : List Json} {q : Property} (member : v ∈ group)
    (held : v.heldAs? group = some q) : q.value? = v.value? ↔ v.Holdable group := by
  cases v with
  | double x =>
    obtain rfl := Option.some.inj held
    exact iff_of_true rfl .double
  | int n =>
    rw [heldAs?] at held
    split at held
    · rename_i words
      obtain rfl := Option.some.inj held
      have fits := isWord_int.symm.trans (List.all_eq_true.mp words _ member)
      rw [Property.value?, Vector.toInt_ofInt_of_fits fits]
      exact iff_of_true rfl (.word words)
    · rename_i notWords
      obtain rfl := Option.some.inj held
      refine Double.value?_ofInt_iff.trans ⟨.representable, fun holdable => ?_⟩
      cases holdable with
      | word words => exact absurd words notWords
      | representable exact => exact exact
  | _ => cases held

theorem Json.mem_groupAt (path : List Place) : ∀ {v₀ v : Json}, v₀.at? path = some v →
    v ∈ v₀.groupAt path := by
  induction path with
  | nil =>
    intro v₀ v found
    exact Option.some.inj found ▸ List.mem_singleton_self v₀
  | cons place rest ih =>
    intro v₀ v found
    obtain ⟨w, part, inside⟩ := Option.bind_eq_some_iff.mp found
    cases rest with
    | cons next rest => exact groupAt_of_part part ▸ ih inside
    | nil =>
      obtain rfl := Option.some.inj inside
      cases place with
      | key name =>
        rw [groupAt_key, part]
        exact List.mem_singleton_self w
      | index i =>
        cases v₀ with
        | array items => exact List.mem_of_getElem? part
        | _ => cases part

/-- Each number of an accepted document is held at its place, and with its exact value iff it is a
double, or all numbers of its list fit a word with a sign, or some double has its value. -/
theorem Properties.number_kept_iff {document v : Json} {entries : KeyMap Json} {p : Properties}
    {path : List Place} {u : Int} (isObject : document.normal? = some (.object entries))
    (accepted : Properties.ofJson document = .ok p)
    (found : (Json.object entries).at? path = some v) (number : v.value? = some u) :
    ∃ q, (Property.object p).at? path = some q ∧
      v.heldAs? ((Json.object entries).groupAt path) = some q ∧
      (q.value? = some u ↔ v.Holdable ((Json.object entries).groupAt path)) := by
  have value := isValue_of_normal? document isObject
  have read : Property.ofJson "" (.object entries) = .ok (some (.object p)) := by
    have taken : propertiesOfEntries entries = .ok p := by
      rwa [Properties.ofJson, isObject] at accepted
    rw [Property.ofJson, taken]
    rfl
  obtain ⟨q, held⟩ : ∃ q, v.heldAs? ((Json.object entries).groupAt path) = some q := by
    cases value.inside path found with
    | int | double => exact ⟨_, rfl⟩
    | _ => cases number
  rw [← number]
  exact ⟨q, Property.ofJson_at path value read found held, held,
    value?_of_heldAs? (mem_groupAt path found) held⟩

/-- In a list with a fraction the number one is held as a double, with its value. -/
theorem Properties.number_kept_iff_mixed :
    let half : Double := ⟨0x3fe0000000000000⟩
    ∃ p, Properties.ofJson (.object [("a", .array [.int 1, .double half])]) = .ok p ∧
      (Property.object p).at? [.key "a", .index 0] = some (.number (.ofInt 1)) ∧
      (Property.number (.ofInt 1)).value? = (Json.int 1).value? := by
  intro half
  have isObject : (Json.object [("a", .array [.int 1, .double half])]).normal? =
      some (.object [("a", .array [.int 1, .double half])]) := rfl
  have accepted : Properties.ofJson (.object [("a", .array [.int 1, .double half])]) =
      .ok [("a", .numberArray [.ofInt 1, half])] := rfl
  have found : (Json.object [("a", .array [.int 1, .double half])]).at? [.key "a", .index 0] =
      some (.int 1) := rfl
  obtain ⟨u, number⟩ : ∃ u, (Json.int 1).value? = some u := ⟨_, rfl⟩
  obtain ⟨q, there, held, exact⟩ :=
    Properties.number_kept_iff isObject accepted found number
  obtain rfl : .number (.ofInt 1) = q := Option.some.inj held
  have small : Representable 1 := Double.representable_of_small (by decide)
  exact ⟨_, accepted, there, (exact.mpr (.representable small)).trans number.symm⟩

theorem not_representable_maximum : ¬Representable 18446744073709551615 :=
  fun exact => absurd (Double.value?_ofInt_iff.mpr exact) (by decide +kernel)

/-- A number beyond the words with a sign is accepted, and rounded if no double has its value. -/
theorem Properties.number_rounded {n : Int} (word : fitsWord n = true)
    (unsigned : fitsSigned 64 n = false) (rounded : ¬Representable n) :
    ∃ p u, Properties.ofJson (.object [("n", .int n)]) = .ok p ∧
      ((Json.object [("n", .int n)]).at? [.key "n"]).bind Json.value? = some u ∧
      ((Property.object p).at? [.key "n"]).bind Property.value? ≠ some u := by
  have value : (Json.object [("n", .int n)]).IsValue :=
    .object (List.pairwise_singleton _ _) (List.forall_mem_singleton.mpr (.int word))
  have accepted : Properties.ofJson (.object [("n", .int n)]) =
      .ok [("n", .number (.ofInt n))] := by
    rw [Properties.ofJson, value.normal?_eq]
    simp only [propertiesOfEntries, Property.ofJson, signedWord?, unsigned]
    rfl
  exact ⟨_, n * Format.double.one, accepted, rfl, Double.value?_ofInt_iff.not.mpr rounded⟩

theorem Properties.maximum_rounded :
    ∃ p u, Properties.ofJson (.object [("n", .int 18446744073709551615)]) = .ok p ∧
      ((Json.object [("n", .int 18446744073709551615)]).at? [.key "n"]).bind Json.value? = some u ∧
      ((Property.object p).at? [.key "n"]).bind Property.value? ≠ some u :=
  Properties.number_rounded (by decide) (by decide) not_representable_maximum

end VectorClient
