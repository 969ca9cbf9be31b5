import VectorClient.Proofs.Wire.Field

/-!
# What is sent is received

The bytes of a message are read as what arrives of its contents, as long as its messages nest no
deeper than the reader goes and its length is a word. Each field is read on top of those before it,
and the messages inside of it by the readers of the levels below.
-/

namespace VectorClient.Wire

open Number

namespace Level

variable {l : Level} {m : MessageType} {inner : Transport} {field : Field} {fields : List Field}
  {b c : Bytes} {s f g : Fields}

/-! ### States -/

theorem not_rival (declared : field ∈ m.fields) {group : String} {tag : Nat}
    (apart : field.rule ≠ .member group) : field.tag ∉ rivals m group tag := by
  intro rival
  obtain ⟨other, listed, same⟩ := List.mem_map.mp rival
  obtain ⟨other_declared, rule⟩ := List.mem_filter.mp listed
  have found := MessageType.field?_of_mem other_declared
  rw [same, MessageType.field?_of_mem declared] at found
  obtain rfl := Option.some.inj found
  rw [Bool.and_eq_true, decide_eq_true_eq] at rule
  exact apart rule.1

structure Allows (m : MessageType) (s : Fields) (fields : List Field) : Prop where
  listed : fields.Sublist m.fields
  last : ∀ field ∈ fields, s.Below field.tag
  free : ∀ field ∈ fields, ∀ group, field.rule = .member group →
    ∀ e ∈ s, e.1 ∉ rivals m group field.tag

theorem Allows.rest (allows : Allows m s (field :: fields)) : Allows m s fields where
  listed := List.sublist_of_cons_sublist allows.listed
  last other member := allows.last other (List.mem_cons_of_mem _ member)
  free other member := allows.free other (List.mem_cons_of_mem _ member)

theorem Allows.declared (allows : Allows m s (field :: fields)) : field ∈ m.fields :=
  allows.listed.subset List.mem_cons_self

theorem Allows.below (allows : Allows m s (field :: fields)) : s.Below field.tag :=
  allows.last field List.mem_cons_self

/-- After a field the state allows those fields behind it that are not in its group. -/
theorem Allows.after (allows : Allows m s (field :: fields)) {others : List Field}
    (sublist : others.Sublist fields)
    (apart : ∀ other ∈ others, ∀ group, other.rule = .member group → field.rule ≠ .member group)
    (d : Datum) : Allows m (s ++ [(field.tag, d)]) others := by
  obtain ⟨greater, _⟩ := List.pairwise_cons.mp (m.fields_ascend.sublist allows.listed)
  have remain := allows.rest
  refine ⟨sublist.trans remain.listed, fun other member => ?_, fun other member group rule => ?_⟩
  · have listed := sublist.subset member
    exact (remain.last other listed).append (greater other listed)
  · refine List.forall_mem_append.mpr ⟨remain.free other (sublist.subset member) group rule, ?_⟩
    exact List.forall_mem_singleton.mpr (not_rival allows.declared (apart other member group rule))

theorem Allows.next (allows : Allows m s (field :: fields))
    (alone : ∀ group, field.rule ≠ .member group) (d : Datum) :
    Allows m (s ++ [(field.tag, d)]) fields :=
  allows.after (List.Sublist.refl _) (fun _ _ group _ => alone group) d

/-! ### Contents -/

theorem encodeFields_cons (declared : field ∈ m.fields) (d : Datum) (f : Fields) :
    encodeFields m ((field.tag, d) :: f) =
      (match field.rule with
        | .plain =>
          if d.isOmitted then [] else key field.tag field.kind.wireType ++ d.payload field.kind
        | .optional | .member _ => key field.tag field.kind.wireType ++ d.payload field.kind
        | .repeated | .map => d.encode field) ++ encodeFields m f := by
  have found := MessageType.field?_of_mem declared
  cases rule : field.rule <;> simp only [encodeFields, found, rule]

theorem Reads.cons {d : Datum} (first : l.Reads m b s (s ++ [(field.tag, d)]))
    (later : l.Reads m c (s ++ [(field.tag, d)]) (s ++ [(field.tag, d)] ++ g)) :
    l.Reads m (b ++ c) s (s ++ (field.tag, d) :: g) := by
  rw [List.append_cons]
  exact first.append later

theorem Reads.repeated (below : l.DeliversBelow inner) (declared : field ∈ m.fields)
    (repeated : field.rule = .repeated) (last : s.Below field.tag) {ds ds' : List Datum}
    (nonempty : ds ≠ []) (values : List.Forall₂ (Arrives inner field.kind) ds ds')
    (shallow : itemLevels ds ≤ l.remaining)
    (small : (Datum.encode field (.list ds)).length < pow2 64) :
    l.Reads m (Datum.encode field (.list ds)) s (s ++ [(field.tag, .list ds')]) := by
  rw [Datum.encode] at small ⊢
  cases packed : field.kind.isPacked with
  | true =>
    rw [packed, if_pos rfl, List.length_append] at small
    have scalars : ∀ d ∈ ds, d.scalarKind? = some field.kind := by
      intro d member
      obtain ⟨d', value⟩ := exists_forall₂.mp ⟨ds', values⟩ d member
      exact (scalar_of_packed packed value).1
    have same : ds = ds' := List.forall₂_eq_eq_eq ▸ values.imp fun d d' value =>
      (scalar_of_packed packed value).2.symm
    subst same
    exact .packed declared repeated packed last nonempty scalars (by omega)
  | false =>
    rw [packed] at small
    have read := Reads.keyed below declared repeated packed last values shallow small []
    have some_read : ds'.isEmpty = false := by
      cases values with
      | nil => exact absurd rfl nonempty
      | cons => rfl
    rw [List.nil_append, withList, withList, some_read] at read
    exact read

theorem Reads.map (below : l.DeliversBelow inner) (declared : field ∈ m.fields)
    (map : field.rule = .map) (last : s.Below field.tag) {es es' : KeyMap Datum}
    (nonempty : es ≠ []) (ordered : es.Ordered)
    (entries : List.Forall₂
      (fun e e' => e'.1 = e.1 ∧ ArrivesInEntry inner field.kind e.2 e'.2) es es')
    (shallow : entryLevels es + 1 ≤ l.remaining)
    (small : (Datum.encode field (.map es)).length < pow2 64) :
    l.Reads m (Datum.encode field (.map es)) s (s ++ [(field.tag, .map es')]) := by
  have keys : KeyMap.keys es' = KeyMap.keys es := by
    rw [KeyMap.keys, KeyMap.keys, ← List.forall₂_eq_eq_eq, List.forall₂_map_left_iff,
      List.forall₂_map_right_iff]
    exact entries.flip.imp fun _ _ both => both.1
  rw [Datum.encode] at small ⊢
  have read := Reads.entries below declared map last entries shallow small []
    (ordered.of_keys keys)
  have some_read : es'.isEmpty = false := by
    cases entries with
    | nil => exact absurd rfl nonempty
    | cons => rfl
  rw [List.nil_append, withMap, withMap, some_read] at read
  exact read

theorem Reads.laid (below : l.DeliversBelow inner) (laid : Laid inner fields f g) :
    ∀ s, Allows m s fields → fieldLevels f ≤ l.remaining → (encodeFields m f).length < pow2 64 →
      l.Reads m (encodeFields m f) s (s ++ g) := by
  induction laid with
  | done =>
    intro s _ _ _
    rw [List.append_nil]
    exact .nothing
  | absent _ ih => exact fun s allows => ih s allows.rest
  | @omitted field fields d f g plain gone _ ih =>
    intro s allows shallow small
    rw [fieldLevels] at shallow
    rw [encodeFields_cons allows.declared, plain] at small ⊢
    simp only [gone, if_true, List.nil_append] at small ⊢
    exact ih s allows.rest (by omega) small
  | @plain field fields d f g plain scalar kept _ ih =>
    intro s allows shallow small
    rw [fieldLevels] at shallow
    rw [encodeFields_cons allows.declared, plain] at small ⊢
    simp only [kept, Bool.false_eq_true, if_false] at small ⊢
    rw [List.length_append, List.length_append] at small
    have after := allows.next (by simp [plain]) d
    have present := Datum.isDefault_of_not_isOmitted kept
    exact .cons (.single below allows.declared (.scalar scalar) (by omega) (by omega) allows.below
      (.inl ⟨plain, present⟩)) (ih _ after (by omega) (by omega))
  | @optional field fields d d' f g optional value _ ih =>
    intro s allows shallow small
    rw [fieldLevels] at shallow
    rw [encodeFields_cons allows.declared, optional] at small ⊢
    simp only [List.length_append] at small ⊢
    have after := allows.next (by simp [optional]) d'
    exact .cons (.single below allows.declared value (by omega) (by omega) allows.below
      (.inr (.inl optional))) (ih _ after (by omega) (by omega))
  | @member field fields d d' f g group member value _ ih =>
    intro s allows shallow small
    rw [fieldLevels] at shallow
    rw [encodeFields_cons allows.declared, member] at small ⊢
    simp only [List.length_append] at small ⊢
    have apart : ∀ other ∈ fields.filter fun other => other.rule ≠ .member group,
        ∀ group', other.rule = .member group' → field.rule ≠ .member group' := by
      intro other listed group' rule same
      have differs := of_decide_eq_true (List.mem_filter.mp listed).2
      exact differs (rule.trans (same.symm.trans member))
    have after := allows.after List.filter_sublist apart d'
    have free := allows.free field List.mem_cons_self group member
    exact .cons (.single below allows.declared value (by omega) (by omega) allows.below
      (.inr (.inr ⟨group, member, free⟩))) (ih _ after (by omega) (by omega))
  | @repeated field fields ds ds' f g repeated nonempty values _ ih =>
    intro s allows shallow small
    rw [fieldLevels, Datum.levels] at shallow
    rw [encodeFields_cons allows.declared, repeated] at small ⊢
    simp only [List.length_append] at small ⊢
    have after := allows.next (by simp [repeated]) (.list ds')
    exact .cons (.repeated below allows.declared repeated allows.below nonempty values
      (by omega) (by omega)) (ih _ after (by omega) (by omega))
  | @map field fields es es' f g map nonempty ordered entries _ ih =>
    intro s allows shallow small
    rw [fieldLevels, Datum.levels] at shallow
    rw [encodeFields_cons allows.declared, map] at small ⊢
    simp only [List.length_append] at small ⊢
    have after := allows.next (by simp [map]) (.map es')
    exact .cons (.map below allows.declared map allows.below nonempty ordered entries
      (by omega) (by omega)) (ih _ after (by omega) (by omega))

end Level

/-! ### Messages -/

/-- A message is received as what arrives of its contents, by a reader that goes as deep as its
messages nest. -/
theorem Sent.readerAt {type : MessageType} {f g : Fields} (sent : Sent type f g) :
    ∀ n, fieldLevels f ≤ n → (encodeFields type f).length < pow2 64 →
      readerAt n type [] (encodeFields type f) = some g := by
  induction sent with
  | @intro type f g inner _ laid ih =>
    have received (l : Level) (below : l.DeliversBelow inner)
        (shallow : fieldLevels f ≤ l.remaining)
        (small : (encodeFields type f).length < pow2 64) :
        l.reader type [] (encodeFields type f) = some g := by
      have allows : Level.Allows type [] type.fields :=
        ⟨List.Sublist.refl _, fun _ _ => nofun, fun _ _ _ _ => nofun⟩
      exact (Level.Reads.laid below laid [] allows shallow small).reader
    intro n shallow small
    match n with
    | 0 =>
      refine received _ ⟨fun t f g _ nested => ?_, fun t f g _ nested => ?_⟩ shallow small
      · exact absurd nested (Nat.not_succ_le_zero _)
      · exact absurd nested (Nat.not_succ_le_zero _)
    | 1 =>
      refine received _ ⟨fun t f g within nested => ?_, fun t f g _ nested => ?_⟩ shallow small
      · exact ih t f g within 0 (Nat.le_of_succ_le_succ nested)
      · exact absurd nested (Nat.not_succ_le_zero _)
    | n + 2 =>
      refine received _ ⟨fun t f g within nested => ?_, fun t f g within nested => ?_⟩ shallow small
      · exact ih t f g within (n + 1) (Nat.le_of_succ_le_succ nested)
      · exact ih t f g within n (Nat.le_of_succ_le_succ nested)

theorem Sent.decode {type : MessageType} {f g : Fields} (sent : Sent type f g)
    (shallow : fieldLevels f ≤ maxLevels) (small : (encode type f).length < pow2 64) :
    decode type (encode type f) = some g :=
  sent.readerAt maxLevels shallow small

end VectorClient.Wire
