import VectorClient.Reply.Wire
import VectorClient.Tenant.Wire

/-!
# Faults of replies

What goes wrong in reading is a fault of the reply, at any depth and for any reply. The checks that
are made before a request is sent have errors of other kinds.
-/

namespace VectorClient

/-- Errors that only a reply can be blamed for. -/
def Error.isReplyFault : Error → Bool
  | .wireDecode _ | .malformedVector _ _ | .missingUuid | .unsupportedStatus _ => true
  | _ => false

theorem Error.isLocalValidation_of_replyFault {e : Error} (fault : e.isReplyFault = true) :
    e.isLocalValidation = false := by
  cases e <;> first | rfl | cases fault

/-! ### Steps that fail with such errors only -/

/-- A step that ends in no other errors than faults of the reply. -/
def OnlyReplyFaults {α : Type} (x : Except Error α) : Prop :=
  ∀ e, x = .error e → e.isReplyFault = true

namespace OnlyReplyFaults

variable {α β : Type} {x : Except Error α}

theorem ok (a : α) : OnlyReplyFaults (.ok a) := by
  intro e failed
  cases failed

theorem error {e : Error} (fault : e.isReplyFault = true) :
    OnlyReplyFaults (.error e : Except Error α) := by
  intro e' same
  obtain rfl := Except.error.inj same
  exact fault

theorem bind {f : α → Except Error β} (first : OnlyReplyFaults x) (next : ∀ a, OnlyReplyFaults (f a)) :
    OnlyReplyFaults (x >>= f) := by
  cases x with
  | ok a => exact next a
  | error e => exact error (first e rfl)

theorem map (first : OnlyReplyFaults x) (f : α → β) : OnlyReplyFaults (x.map f) := by
  cases x with
  | ok a => exact ok (f a)
  | error e => exact error (first e rfl)

theorem mapM {f : α → Except Error β} {items : List α} (each : ∀ a ∈ items, OnlyReplyFaults (f a)) :
    OnlyReplyFaults (items.mapM f) := by
  induction items with
  | nil => exact ok []
  | cons a rest ih =>
    obtain ⟨own, others⟩ := List.forall_mem_cons.mp each
    rw [List.mapM_cons]
    exact own.bind fun _ => (ih others).bind fun _ => ok _

theorem foldlM {f : β → α → Except Error β} (each : ∀ b a, OnlyReplyFaults (f b a)) (items : List α)
    (start : β) : OnlyReplyFaults (items.foldlM f start) := by
  induction items generalizing start with
  | nil => exact ok start
  | cons a rest ih =>
    rw [List.foldlM_cons]
    exact (each start a).bind ih

end OnlyReplyFaults

/-! ### Vectors -/

namespace Vector

theorem lanes_faults (size : Nat) (b : Wire.Bytes) : OnlyReplyFaults (lanes size b) := by
  unfold lanes
  split
  · exact .ok _
  · exact .error rfl

theorem decode_faults (b : Wire.Bytes) : OnlyReplyFaults (decode b) := (lanes_faults 4 b).map _

theorem decodeDoubles_faults (b : Wire.Bytes) : OnlyReplyFaults (decodeDoubles b) :=
  (lanes_faults 8 b).map _

theorem decodeInt_faults (lane : Number.Double) : OnlyReplyFaults (decodeInt lane) := by
  unfold decodeInt
  split
  · split
    · exact .ok _
    · exact .error rfl
  · exact .error rfl

theorem decodeInts_faults (b : Wire.Bytes) : OnlyReplyFaults (decodeInts b) :=
  (decodeDoubles_faults b).bind fun _ => .mapM fun lane _ => decodeInt_faults lane

theorem decodeMulti_faults (b : Wire.Bytes) : OnlyReplyFaults (decodeMulti b) := by
  match b with
  | [] => exact .ok _
  | [_] => exact .error rfl
  | low :: high :: rest =>
    refine (decode_faults rest).bind fun v => ?_
    split
    · split
      · exact .ok _
      · exact .error rfl
    · split
      · exact .ok _
      · exact .error rfl

end Vector

theorem VectorValue.ofWire_faults (v : Wire.Vectors) : OnlyReplyFaults (VectorValue.ofWire v) := by
  unfold ofWire
  split
  · exact (Vector.decodeMulti_faults _).map _
  · split
    · exact (Vector.decode_faults _).map _
    · exact .error rfl

theorem Vector.collect_faults (named : List Wire.Vectors) (found : KeyMap VectorValue) :
    OnlyReplyFaults (collect named found) :=
  .foldlM (fun _ v => (VectorValue.ofWire_faults v).bind fun _ => .ok _) named found

theorem Vector.decodeAll_faults (anonymous : Wire.Bytes) (named : List Wire.Vectors) :
    OnlyReplyFaults (decodeAll anonymous named) := by
  unfold decodeAll
  split
  · exact collect_faults named _
  · exact (decode_faults anonymous).bind fun _ => collect_faults named _

/-! ### Properties -/

theorem readDate_faults (raw : String) : OnlyReplyFaults (readDate raw) := by
  unfold readDate
  split
  · exact .ok _
  · exact .error rfl

theorem readUuid_faults (raw : String) : OnlyReplyFaults (readUuid raw) := by
  unfold readUuid
  split
  · exact .ok _
  · exact .error rfl

theorem collectAs_faults {α : Type} (get? : Property → Option α) (first : Property)
    (items : List Property) : OnlyReplyFaults (collectAs get? first items) := by
  refine .mapM fun item _ => ?_
  split
  · exact .ok _
  · exact .error rfl

theorem gather_faults (items : List Property) : OnlyReplyFaults (gather items) := by
  cases items with
  | nil => exact .ok _
  | cons first rest =>
    cases first <;> first
      | exact (collectAs_faults _ _ _).map _
      | exact .error rfl

mutual

theorem Property.ofWire_faults : (v : Wire.Value) → OnlyReplyFaults (Property.ofWire v)
  | .unset => .error rfl
  | .null _ => .ok _
  | .number _ => .ok _
  | .int _ => .ok _
  | .string _ => .ok _
  | .text _ => .ok _
  | .bool _ => .ok _
  | .date raw => (readDate_faults raw).map _
  | .uuid raw => (readUuid_faults raw).map _
  | .blob _ => .ok _
  | .geo _ => .ok _
  | .phone _ => .ok _
  | .object fields => (propertiesOfWire_faults fields).map _
  | .list elements kind =>
    match kind with
    | .untyped => (elementsOfWire_faults 0 elements).bind fun items => (gather_faults items).map _
    | .numbers lanes => (Vector.decodeDoubles_faults lanes).map _
    | .ints lanes => (Vector.decodeInts_faults lanes).map _
    | .bools _ => .ok _
    | .texts _ => .ok _
    | .dates _ => (OnlyReplyFaults.mapM fun raw _ => readDate_faults raw).map _
    | .uuids _ => (OnlyReplyFaults.mapM fun raw _ => readUuid_faults raw).map _
    | .objects values => (objectsOfWire_faults values).map _

theorem propertiesOfWire_faults :
    (fields : List (String × Wire.Value)) → OnlyReplyFaults (propertiesOfWire fields)
  | [] => .ok _
  | (_, v) :: rest =>
    (Property.ofWire_faults v).bind fun _ => (propertiesOfWire_faults rest).bind fun _ => .ok _

theorem elementsOfWire_faults (index : Nat) :
    (elements : List Wire.Value) → OnlyReplyFaults (elementsOfWire index elements)
  | [] => .ok _
  | v :: rest => by
    refine (Property.ofWire_faults v).bind fun p => ?_
    cases p with
    | none => exact .error rfl
    | some p => exact (elementsOfWire_faults (index + 1) rest).bind fun _ => .ok _

theorem objectsOfWire_faults :
    (values : List (List (String × Wire.Value))) → OnlyReplyFaults (objectsOfWire values)
  | [] => .ok _
  | fields :: rest =>
    (propertiesOfWire_faults fields).bind fun _ => (objectsOfWire_faults rest).bind fun _ => .ok _

end

/-! ### Objects -/

namespace Wire.MetadataResult

theorem uuid_faults (m : MetadataResult) : OnlyReplyFaults m.uuid := by
  unfold uuid
  split
  · split
    · exact .ok _
    · exact .error rfl
  · split
    · exact .error rfl
    · exact readUuid_faults m.id

theorem vectorMap_faults (m : MetadataResult) : OnlyReplyFaults m.vectorMap := by
  refine (Vector.decodeAll_faults m.vectorBytes m.vectors).bind fun found => ?_
  split
  · exact .ok _
  · exact .ok _

end Wire.MetadataResult

theorem readMillisWhen_faults (present : Bool) (millis : Int64) :
    OnlyReplyFaults (readMillisWhen present millis) := by
  have read : OnlyReplyFaults (readMillis millis) := by
    unfold readMillis
    split
    · exact .ok _
    · exact .error rfl
  unfold readMillisWhen
  split
  · exact read.map _
  · exact .ok _

theorem Metadata.ofWire_faults (m : Wire.MetadataResult) : OnlyReplyFaults (Metadata.ofWire m) :=
  (readMillisWhen_faults _ _).bind fun _ => (readMillisWhen_faults _ _).bind fun _ => .ok _

theorem Identity.ofWire_faults (m : Option Wire.MetadataResult) :
    OnlyReplyFaults (Identity.ofWire m) := by
  cases m with
  | none => exact .error rfl
  | some m =>
    exact m.uuid_faults.bind fun _ => m.vectorMap_faults.bind fun _ =>
      (Metadata.ofWire_faults m).bind fun _ => .ok _

theorem readProperties_faults (p : Option Wire.Properties) : OnlyReplyFaults (readProperties p) := by
  cases p with
  | none => exact .ok _
  | some p => exact propertiesOfWire_faults p

mutual

theorem objectOfWire_faults (identity : Identity) (searched : Option String) :
    (p : Wire.PropertiesResult) → OnlyReplyFaults (objectOfWire identity searched p)
  | ⟨refProps, _, _, nonRefProps, _⟩ =>
    (referencesOfWire_faults [] refProps).bind fun _ =>
      (readProperties_faults nonRefProps).bind fun _ => .ok _

theorem referencesOfWire_faults (found : List (String × List Object)) :
    (links : List Wire.RefPropertiesResult) → OnlyReplyFaults (referencesOfWire found links)
  | [] => .ok _
  | ⟨properties, _⟩ :: rest =>
    (referencedObjects_faults properties).bind fun _ => referencesOfWire_faults _ rest

theorem referencedObjects_faults :
    (ps : List Wire.PropertiesResult) → OnlyReplyFaults (referencedObjects ps)
  | [] => .ok _
  | p :: rest =>
    (Identity.ofWire_faults p.metadata).bind fun identity =>
      (objectOfWire_faults identity none p).bind fun _ =>
        (referencedObjects_faults rest).bind fun _ => .ok _

end

theorem Object.ofWire_faults (collection : String) (r : Wire.SearchResult) :
    OnlyReplyFaults (Object.ofWire collection r) :=
  (Identity.ofWire_faults r.metadata).bind fun identity => objectOfWire_faults identity _ _

theorem Generated.ofWire_faults (collection : String) (r : Wire.SearchResult) :
    OnlyReplyFaults (Generated.ofWire collection r) :=
  (Object.ofWire_faults collection r).bind fun _ => .ok _

/-! ### Replies -/

namespace Wire.SearchReply

variable (collection : String) (reply : SearchReply)

theorem objects_faults : OnlyReplyFaults (reply.objects collection) :=
  .mapM fun r _ => Object.ofWire_faults collection r

theorem generated_faults : OnlyReplyFaults (reply.generated collection) :=
  (OnlyReplyFaults.mapM fun r _ => Generated.ofWire_faults collection r).bind fun _ => .ok _

theorem groupsWith_faults {α : Type} {read : SearchResult → Except Error α}
    (each : ∀ r, OnlyReplyFaults (read r)) : OnlyReplyFaults (reply.groupsWith read) := by
  have group (g : GroupByResult) : OnlyReplyFaults (Group.ofWire read g) :=
    (OnlyReplyFaults.mapM fun r _ => each r).bind fun _ => .ok _
  have add (found : GroupedResult α) (g : GroupByResult) : OnlyReplyFaults (found.add read g) :=
    (group g).bind fun _ => .ok _
  exact (OnlyReplyFaults.foldlM add reply.groupByResults {}).bind fun _ => .ok _

theorem grouped_faults : OnlyReplyFaults (reply.grouped collection) :=
  reply.groupsWith_faults (Object.ofWire_faults collection)

theorem generatedGroups_faults : OnlyReplyFaults (reply.generatedGroups collection) :=
  reply.groupsWith_faults (Generated.ofWire_faults collection)

end Wire.SearchReply

theorem TenantStatus.ofNumber_faults (n : Int32) : OnlyReplyFaults (TenantStatus.ofNumber n) := by
  unfold ofNumber
  split <;> first | exact .ok _ | exact .error rfl

theorem Wire.TenantsReply.read_faults (reply : Wire.TenantsReply) : OnlyReplyFaults reply.read :=
  .mapM fun t _ => (TenantStatus.ofNumber_faults t.activityStatus).bind fun _ => .ok _

end VectorClient
