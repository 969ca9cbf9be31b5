import VectorClient.Proofs.KeyMap
import VectorClient.Proofs.Reply.Metadata

/-!
# Vectors of an object

The vectors of an object come from its entries, from the bytes of a vector without a name and from
the numbers of one. The last entry of a name counts. The vector without a name counts where no entry
is called `default`, its bytes before its numbers.
-/

namespace VectorClient

open Wire

namespace Vector

variable {v : Vectors} {named : List Vectors} {found all : KeyMap VectorValue} {name : String}

/-! ### Entries -/

theorem collect_cons_ok :
    collect (v :: named) found = .ok all ↔
      ∃ value, VectorValue.ofWire v = .ok value ∧
        collect named (found.insert v.name value) = .ok all := by
  rw [collect, List.foldlM_cons, bind_ok]
  constructor
  · rintro ⟨_, put, rest⟩
    obtain ⟨value, read, same⟩ := bind_ok.mp put
    obtain rfl := pure_ok same
    exact ⟨value, read, rest⟩
  · rintro ⟨value, read, rest⟩
    exact ⟨_, bind_ok.mpr ⟨value, read, rfl⟩, rest⟩

theorem collect_append_ok {earlier later : List Vectors} :
    collect (earlier ++ later) found = .ok all ↔
      ∃ between, collect earlier found = .ok between ∧ collect later between = .ok all := by
  rw [collect, List.foldlM_append, bind_ok]
  rfl

theorem collect_ordered (collected : collect named found = .ok all) (ordered : found.Ordered) :
    all.Ordered := by
  induction named generalizing found with
  | nil =>
    obtain rfl := pure_ok collected
    exact ordered
  | cons v rest ih =>
    obtain ⟨value, _, others⟩ := collect_cons_ok.mp collected
    exact ih others ordered.insert

theorem mem_keys_collect (collected : collect named found = .ok all) :
    name ∈ all.keys ↔ name ∈ found.keys ∨ ∃ v ∈ named, v.name = name := by
  induction named generalizing found with
  | nil =>
    obtain rfl := pure_ok collected
    simp
  | cons v rest ih =>
    obtain ⟨value, _, others⟩ := collect_cons_ok.mp collected
    rw [ih others, KeyMap.mem_keys_insert, List.exists_mem_cons_iff, or_assoc, or_left_comm,
      eq_comm]

theorem find?_collect_of_absent (collected : collect named found = .ok all)
    (absent : ∀ v ∈ named, v.name ≠ name) : all.find? name = found.find? name := by
  induction named generalizing found with
  | nil =>
    obtain rfl := pure_ok collected
    rfl
  | cons v rest ih =>
    obtain ⟨differs, others_differ⟩ := List.forall_mem_cons.mp absent
    obtain ⟨value, _, others⟩ := collect_cons_ok.mp collected
    rw [ih others others_differ, KeyMap.find?_insert, if_neg (Ne.symm differs)]

theorem find?_collect_of_last {earlier later : List Vectors}
    (collected : collect (earlier ++ v :: later) found = .ok all)
    (last : ∀ w ∈ later, w.name ≠ v.name) :
    ∃ value, VectorValue.ofWire v = .ok value ∧ all.find? v.name = some value := by
  obtain ⟨between, _, rest⟩ := collect_append_ok.mp collected
  obtain ⟨value, read, others⟩ := collect_cons_ok.mp rest
  refine ⟨value, read, ?_⟩
  rw [find?_collect_of_absent others last, KeyMap.find?_insert, if_pos rfl]

/-! ### The vector without a name -/

theorem decodeAll_ok {anonymous : Bytes} :
    decodeAll anonymous named = .ok all ↔
      ∃ start, collect named start = .ok all ∧
        (anonymous = [] ∧ start = [] ∨ anonymous ≠ [] ∧
          ∃ lanes, decode anonymous = .ok lanes ∧
            start = [(VectorValue.defaultName, .single lanes)]) := by
  unfold decodeAll
  by_cases empty : anonymous = []
  · rw [if_pos empty]
    constructor
    · intro collected
      exact ⟨[], collected, .inl ⟨empty, rfl⟩⟩
    · rintro ⟨start, collected, ⟨_, rfl⟩ | ⟨present, _⟩⟩
      · exact collected
      · exact absurd empty present
  · rw [if_neg empty, bind_ok]
    constructor
    · rintro ⟨lanes, read, collected⟩
      exact ⟨_, collected, .inr ⟨empty, lanes, read, rfl⟩⟩
    · rintro ⟨start, collected, ⟨none, _⟩ | ⟨_, lanes, read, rfl⟩⟩
      · exact absurd none empty
      · exact ⟨lanes, read, collected⟩

end Vector

namespace Wire.MetadataResult

structure HasVectors (m : MetadataResult) (found : KeyMap VectorValue) : Prop where
  ordered : found.Ordered
  names : ∀ name, name ∈ found.keys ↔ (∃ v ∈ m.vectors, v.name = name) ∨
    name = VectorValue.defaultName ∧ (m.vectorBytes ≠ [] ∨ m.vector ≠ [])
  entries : ∀ earlier v later, m.vectors = earlier ++ v :: later →
    (∀ w ∈ later, w.name ≠ v.name) →
    ∃ value, VectorValue.ofWire v = .ok value ∧ found.find? v.name = some value
  bytes : (∀ v ∈ m.vectors, v.name ≠ VectorValue.defaultName) → m.vectorBytes ≠ [] →
    ∃ lanes, Vector.decode m.vectorBytes = .ok lanes ∧
      found.find? VectorValue.defaultName = some (.single lanes)
  numbers : (∀ v ∈ m.vectors, v.name ≠ VectorValue.defaultName) → m.vectorBytes = [] →
    m.vector ≠ [] → found.find? VectorValue.defaultName = some (.single m.vector)

variable {m : MetadataResult} {found : KeyMap VectorValue} {name : String}

/-- The vectors found so far, with the numbers of the vector without a name unless it is there. -/
def withNumbers (m : MetadataResult) (found : KeyMap VectorValue) : KeyMap VectorValue :=
  if m.vectorBytes = [] ∧ m.vector ≠ [] ∧ VectorValue.defaultName ∉ found.keys then
    found.insert VectorValue.defaultName (.single m.vector)
  else found

theorem withNumbers_ordered (ordered : found.Ordered) : (m.withNumbers found).Ordered := by
  unfold withNumbers
  split
  · exact ordered.insert
  · exact ordered

theorem mem_keys_withNumbers :
    name ∈ (m.withNumbers found).keys ↔ name ∈ found.keys ∨
      name = VectorValue.defaultName ∧ m.vectorBytes = [] ∧ m.vector ≠ [] := by
  unfold withNumbers
  split
  · rename_i missing
    obtain ⟨noBytes, given, _⟩ := missing
    rw [KeyMap.mem_keys_insert, or_comm, and_iff_left ⟨noBytes, given⟩]
  · rename_i unneeded
    refine ⟨.inl, ?_⟩
    rintro (there | ⟨rfl, noBytes, given⟩)
    · exact there
    · by_contra absent
      exact unneeded ⟨noBytes, given, absent⟩

theorem find?_withNumbers_of_mem (there : name ∈ found.keys) :
    (m.withNumbers found).find? name = found.find? name := by
  unfold withNumbers
  split
  · rename_i missing
    have differs : name ≠ VectorValue.defaultName := by
      rintro rfl
      exact missing.2.2 there
    rw [KeyMap.find?_insert, if_neg differs]
  · rfl

theorem find?_withNumbers_of_absent (noBytes : m.vectorBytes = []) (given : m.vector ≠ [])
    (absent : VectorValue.defaultName ∉ found.keys) :
    (m.withNumbers found).find? VectorValue.defaultName = some (.single m.vector) := by
  rw [withNumbers, if_pos ⟨noBytes, given, absent⟩, KeyMap.find?_insert, if_pos rfl]

theorem vectorMap_eq :
    m.vectorMap = (Vector.decodeAll m.vectorBytes m.vectors).map m.withNumbers := by
  unfold vectorMap
  cases Vector.decodeAll m.vectorBytes m.vectors with
  | error e => rfl
  | ok found =>
    have absent : (!found.contains VectorValue.defaultName) = true ↔
        VectorValue.defaultName ∉ found.keys := by
      rw [← KeyMap.contains_iff, Bool.not_eq_true', Bool.not_eq_true]
    change (if _ then _ else _) = Except.ok (withNumbers m found)
    simp only [absent, withNumbers]
    split <;> rfl

/-- The vectors are collected in a map that holds at most the vector without a name at first. -/
theorem vectorMap_ok (read : m.vectorMap = .ok found) :
    ∃ start collected, Vector.collect m.vectors start = .ok collected ∧
      found = m.withNumbers collected ∧
      (m.vectorBytes = [] ∧ start = [] ∨ m.vectorBytes ≠ [] ∧
        ∃ lanes, Vector.decode m.vectorBytes = .ok lanes ∧
          start = [(VectorValue.defaultName, .single lanes)]) := by
  rw [vectorMap_eq] at read
  obtain ⟨collected, decoded, rfl⟩ := map_ok.mp read
  obtain ⟨start, collects, origin⟩ := Vector.decodeAll_ok.mp decoded
  exact ⟨start, collected, collects, rfl, origin⟩

theorem hasVectors_of_vectorMap (read : m.vectorMap = .ok found) : m.HasVectors found := by
  obtain ⟨start, collected, collects, rfl, origin⟩ := vectorMap_ok read
  have start_ordered : start.Ordered := by
    obtain ⟨_, rfl⟩ | ⟨_, _, _, rfl⟩ := origin
    · exact .nil
    · exact List.pairwise_singleton _ _
  have start_keys (name : String) :
      name ∈ start.keys ↔ name = VectorValue.defaultName ∧ m.vectorBytes ≠ [] := by
    obtain ⟨noBytes, rfl⟩ | ⟨present, _, _, rfl⟩ := origin
    · simp [KeyMap.keys, noBytes]
    · simp [KeyMap.keys, present]
  refine ⟨withNumbers_ordered (Vector.collect_ordered collects start_ordered), ?_, ?_, ?_, ?_⟩
  · intro name
    rw [mem_keys_withNumbers, Vector.mem_keys_collect collects, start_keys]
    by_cases noBytes : m.vectorBytes = [] <;> simp [noBytes, or_comm]
  · intro earlier v later same last
    rw [same] at collects
    obtain ⟨value, decoded, kept⟩ := Vector.find?_collect_of_last collects last
    have there : v.name ∈ collected.keys := by
      rw [← KeyMap.contains_iff, KeyMap.contains, kept]
      rfl
    exact ⟨value, decoded, (find?_withNumbers_of_mem there).trans kept⟩
  · intro unnamed present
    obtain ⟨noBytes, _⟩ | ⟨_, lanes, decoded, rfl⟩ := origin
    · exact absurd noBytes present
    · have there : VectorValue.defaultName ∈ collected.keys :=
        (Vector.mem_keys_collect collects).mpr (.inl ((start_keys _).mpr ⟨rfl, present⟩))
      refine ⟨lanes, decoded, ?_⟩
      rw [find?_withNumbers_of_mem there, Vector.find?_collect_of_absent collects unnamed]
      rfl
  · intro unnamed noBytes given
    refine find?_withNumbers_of_absent noBytes given fun there => ?_
    obtain first | ⟨v, listed, same⟩ := (Vector.mem_keys_collect collects).mp there
    · exact ((start_keys _).mp first).2 noBytes
    · exact unnamed v listed same

/-- The vectors of an object are refused iff the bytes of the vector without a name are cut short or
some entry is not well formed. Otherwise each name has its vector from one place. -/
theorem vectorMap_exact (m : MetadataResult) :
    ((∃ e, m.vectorMap = .error e) ↔
      ¬ 4 ∣ m.vectorBytes.length ∨ ∃ v ∈ m.vectors, ¬ v.WellFormed) ∧
    ∀ found, m.vectorMap = .ok found → m.HasVectors found := by
  refine ⟨?_, fun found => hasVectors_of_vectorMap⟩
  have refused : (∃ e, m.vectorMap = .error e) ↔ ¬ ∃ found, m.vectorMap = .ok found := by
    cases m.vectorMap with
    | error e => simp
    | ok found => simp
  rw [refused, vectorMap_accepts, not_and_or, not_forall]
  simp only [not_forall, exists_prop]

/-- A name with two entries beside a vector that is there as numbers only, and an entry of that name
that is cut short although a later one replaces it. -/
theorem vectorMap_exact_replaced_entry :
    let body (bytes : Bytes) : Vectors :=
      { name := "body", vectorBytes := bytes, type := VectorValue.singleType }
    let m : MetadataResult := { vectors := [body [1, 0, 0, 0], body [2, 0, 0, 0]], vector := [⟨3⟩] }
    let short : MetadataResult := { vectors := [body [1], body [2, 0, 0, 0]] }
    (∃ found, m.vectorMap = .ok found ∧ found.find? "body" = some (.single [⟨2⟩]) ∧
      found.find? "default" = some (.single [⟨3⟩])) ∧
    ∃ e, short.vectorMap = .error e := by
  intro body m short
  have all : ∀ v ∈ m.vectors, v.WellFormed := by
    intro v listed
    obtain rfl | later := List.mem_cons.mp listed
    · exact .single (.inl rfl) (by decide)
    · obtain rfl := List.mem_singleton.mp later
      exact .single (.inl rfl) (by decide)
  have cut : ¬ (body [1]).WellFormed := by
    rw [← VectorValue.ofWire_accepts]
    rintro ⟨_, read⟩
    cases read
  obtain ⟨found, read⟩ := (@vectorMap_accepts m).mpr ⟨Nat.dvd_zero 4, all⟩
  have vectors := (vectorMap_exact m).2 found read
  have unnamed : ∀ v ∈ m.vectors, v.name ≠ VectorValue.defaultName := by decide
  have last : VectorValue.ofWire (body [2, 0, 0, 0]) = .ok (.single [⟨2⟩]) := by decide
  obtain ⟨value, decoded, kept⟩ := vectors.entries [body [1, 0, 0, 0]] _ [] rfl nofun
  obtain rfl := Except.ok.inj (last.symm.trans decoded)
  have numbers := vectors.numbers unnamed rfl (List.cons_ne_nil _ _)
  refine ⟨⟨found, read, kept, numbers⟩, ?_⟩
  exact (vectorMap_exact short).1.mpr (.inr ⟨body [1], List.mem_cons_self, cut⟩)

end Wire.MetadataResult

end VectorClient
