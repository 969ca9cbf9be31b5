import VectorClient.Proofs.KeyMap
import VectorClient.Proofs.Wire.Contents
import VectorClient.Wire.Received

/-!
# Pieces of contents

The contents of a message are written piece by piece, one for each declared field. A field is found
in its piece and nowhere else, and each piece arrives as a piece.
-/

namespace VectorClient

open Number

/-- Of a zero the sign is lost where zeros are left out. -/
def Number.Single.received (x : Single) : Single := if x.isZero then .zero else x

namespace Wire

/-! ### What a value holds -/

namespace Datum

def double? : Datum → Option Double
  | .double x => some x
  | _ => none

def single? : Datum → Option Single
  | .float x => some x
  | _ => none

def int32? : Datum → Option Int32
  | .int32 n => some n
  | _ => none

def int64? : Datum → Option Int64
  | .int64 n => some n
  | _ => none

def uint32? : Datum → Option UInt32
  | .uint32 n => some n
  | _ => none

def uint64? : Datum → Option UInt64
  | .uint64 n => some n
  | _ => none

def bool? : Datum → Option Bool
  | .bool b => some b
  | _ => none

def text? : Datum → Option String
  | .string s => some s
  | _ => none

def bytes? : Datum → Option Bytes
  | .bytes b => some b
  | _ => none

def values? : Datum → Option (List Datum)
  | .list values => some values
  | _ => none

def entries? : Datum → Option (KeyMap Datum)
  | .map entries => some entries
  | _ => none

def fields? : Datum → Option Fields
  | .message f => some f
  | _ => none

@[simp] theorem double?_double (x : Double) : (double x).double? = some x := rfl

@[simp] theorem single?_float (x : Single) : (float x).single? = some x := rfl

@[simp] theorem int32?_int32 (n : Int32) : (int32 n).int32? = some n := rfl

@[simp] theorem int64?_int64 (n : Int64) : (int64 n).int64? = some n := rfl

@[simp] theorem text?_string (s : String) : (string s).text? = some s := rfl

@[simp] theorem fields?_message (f : Fields) : (message f).fields? = some f := rfl

end Datum

namespace Fields

variable {tag t : Nat} {f : Fields}

/-! ### Finding a field -/

/-- What is found of a value that is left out when it is a default. -/
def kept (d : Datum) : Option Datum := if d.isDefault then none else some d

@[simp] theorem get?_nil : get? tag [] = none := rfl

@[simp] theorem get?_cons {d : Datum} :
    get? tag ((t, d) :: f) = if t = tag then some d else get? tag f := rfl

@[simp] theorem get?_append (f g : Fields) : get? tag (f ++ g) = (get? tag f).or (get? tag g) := by
  induction f with
  | nil => exact (Option.none_or).symm
  | cons e rest ih =>
    rw [List.cons_append, get?, get?, ih]
    split
    · rfl
    · rfl

@[simp] theorem get?_plain {d : Datum} :
    get? tag (plain t d) = if t = tag then kept d else none := by
  unfold plain kept
  split <;> simp

@[simp] theorem get?_optional {o : Option Datum} :
    get? tag (optional t o) = if t = tag then o else none := by
  cases o <;> simp [optional]

@[simp] theorem get?_repeated {ds : List Datum} :
    get? tag (repeated t ds) = if t = tag then kept (.list ds) else none := by
  cases ds <;> simp [repeated, kept, Datum.isDefault]

@[simp] theorem get?_map {es : KeyMap Datum} :
    get? tag (map t es) = if t = tag then kept (.map es) else none := by
  cases es <;> simp [map, kept, Datum.isDefault]

@[simp] theorem get?_texts {values : List String} :
    get? tag (texts t values) = if t = tag then kept (.list (values.map .string)) else none :=
  get?_repeated

@[simp] theorem get?_message {α : Type} {toFields : α → Fields} {o : Option α} :
    get? tag (message t toFields o) =
      if t = tag then o.map fun a => .message (toFields a) else none :=
  get?_optional

/-- What goes through the fields up to the first one with the tag finds that field. -/
theorem found_eq {β : Type} {inside : Fields → β} {ofDatum : Datum → β}
    (step : ∀ t d rest, inside ((t, d) :: rest) = if t = tag then ofDatum d else inside rest)
    (f : Fields) : inside f = ((f.get? tag).map ofDatum).getD (inside []) := by
  induction f with
  | nil => rfl
  | cons e rest ih =>
    rw [step, get?, ih]
    split <;> rfl

/-! ### Reading what is found

Each reader reads what is found under its tag. -/

@[simp] theorem double?_eq : f.double? tag = (f.get? tag).bind Datum.double? := by
  rw [double?]
  rcases f.get? tag with _ | (_ | _) <;> rfl

@[simp] theorem float?_eq : f.float? tag = (f.get? tag).bind Datum.single? := by
  rw [float?]
  rcases f.get? tag with _ | (_ | _) <;> rfl

@[simp] theorem int32?_eq : f.int32? tag = (f.get? tag).bind Datum.int32? := by
  rw [int32?]
  rcases f.get? tag with _ | (_ | _) <;> rfl

@[simp] theorem string?_eq : f.string? tag = (f.get? tag).bind Datum.text? := by
  rw [string?]
  rcases f.get? tag with _ | (_ | _) <;> rfl

@[simp] theorem message?_eq : f.message? tag = (f.get? tag).bind Datum.fields? := by
  rw [message?]
  rcases f.get? tag with _ | (_ | _) <;> rfl

@[simp] theorem float_eq : f.float tag = ((f.get? tag).bind Datum.single?).getD .zero := by
  rw [float, float?_eq]

@[simp] theorem int32_eq : f.int32 tag = ((f.get? tag).bind Datum.int32?).getD 0 := by
  rw [int32, int32?_eq]

@[simp] theorem string_eq : f.string tag = ((f.get? tag).bind Datum.text?).getD "" := by
  rw [string, string?_eq]

@[simp] theorem uint32_eq : f.uint32 tag = ((f.get? tag).bind Datum.uint32?).getD 0 := by
  rw [uint32]
  rcases f.get? tag with _ | (_ | _) <;> rfl

@[simp] theorem uint64_eq : f.uint64 tag = ((f.get? tag).bind Datum.uint64?).getD 0 := by
  rw [uint64, uint64?]
  rcases f.get? tag with _ | (_ | _) <;> rfl

@[simp] theorem bool_eq : f.bool tag = ((f.get? tag).bind Datum.bool?).getD false := by
  rw [bool, bool?]
  rcases f.get? tag with _ | (_ | _) <;> rfl

@[simp] theorem bytes_eq : f.bytes tag = ((f.get? tag).bind Datum.bytes?).getD [] := by
  rw [bytes, bytes?]
  rcases f.get? tag with _ | (_ | _) <;> rfl

@[simp] theorem list_eq : f.list tag = ((f.get? tag).bind Datum.values?).getD [] := by
  rw [list]
  rcases f.get? tag with _ | (_ | _) <;> rfl

@[simp] theorem entries_eq : f.entries tag = ((f.get? tag).bind Datum.entries?).getD [] := by
  rw [entries]
  rcases f.get? tag with _ | (_ | _) <;> rfl

@[simp] theorem strings_eq : f.strings tag = (f.list tag).filterMap Datum.text? := rfl

@[simp] theorem floats_eq : f.floats tag = (f.list tag).filterMap Datum.single? := rfl

@[simp] theorem int64s_eq : f.int64s tag = (f.list tag).filterMap Datum.int64? := rfl

@[simp] theorem doubles_eq : f.doubles tag = (f.list tag).filterMap Datum.double? := rfl

@[simp] theorem messages_eq : f.messages tag = (f.list tag).filterMap Datum.fields? := rfl

/-! ### Values that were written -/

section Kept

variable {α : Type} (wrap : α → Datum) {unwrap? : Datum → Option α} {zero : α}

/-- A value that is left out is the default that is read in its place. -/
theorem getD_kept (unwraps : ∀ a, unwrap? (wrap a) = some a)
    (default : ∀ a, (wrap a).isDefault = true → a = zero) (a : α) :
    ((kept (wrap a)).bind unwrap?).getD zero = a := by
  rw [kept]
  split
  · rename_i gone
    exact (default a gone).symm
  · rw [Option.bind_some, unwraps a]
    rfl

end Kept

@[simp] theorem float_kept (x : Single) :
    ((kept (.float x)).bind Datum.single?).getD .zero = x :=
  getD_kept Datum.float (fun _ => rfl) (fun _ gone => congrArg Single.mk (of_decide_eq_true gone)) x

@[simp] theorem int32_kept (n : Int32) : ((kept (.int32 n)).bind Datum.int32?).getD 0 = n :=
  getD_kept Datum.int32 (fun _ => rfl) (fun _ gone => of_decide_eq_true gone) n

@[simp] theorem uint32_kept (n : UInt32) : ((kept (.uint32 n)).bind Datum.uint32?).getD 0 = n :=
  getD_kept Datum.uint32 (fun _ => rfl) (fun _ gone => of_decide_eq_true gone) n

@[simp] theorem uint64_kept (n : UInt64) : ((kept (.uint64 n)).bind Datum.uint64?).getD 0 = n :=
  getD_kept Datum.uint64 (fun _ => rfl) (fun _ gone => of_decide_eq_true gone) n

@[simp] theorem bool_kept (b : Bool) : ((kept (.bool b)).bind Datum.bool?).getD false = b :=
  getD_kept Datum.bool (fun _ => rfl) (fun b gone => by cases b <;> trivial) b

@[simp] theorem string_kept (s : String) : ((kept (.string s)).bind Datum.text?).getD "" = s :=
  getD_kept Datum.string (fun _ => rfl) (fun _ gone => of_decide_eq_true gone) s

@[simp] theorem bytes_kept (b : Bytes) : ((kept (.bytes b)).bind Datum.bytes?).getD [] = b :=
  getD_kept Datum.bytes (fun _ => rfl) (fun _ gone => of_decide_eq_true gone) b

@[simp] theorem list_kept (ds : List Datum) :
    ((kept (.list ds)).bind Datum.values?).getD [] = ds :=
  getD_kept Datum.list (fun _ => rfl) (fun _ gone => List.isEmpty_iff.mp gone) ds

theorem map_kept_list {β : Type} (ofDatum : Datum → β) (zero : β)
    (empty : ofDatum (.list []) = zero) (ds : List Datum) :
    ((kept (.list ds)).map ofDatum).getD zero = ofDatum (.list ds) := by
  cases ds with
  | nil => exact empty.symm
  | cons => rfl

@[simp] theorem entries_kept (es : KeyMap Datum) :
    ((kept (.map es)).bind Datum.entries?).getD [] = es :=
  getD_kept Datum.map (fun _ => rfl) (fun _ gone => List.isEmpty_iff.mp gone) es

end Fields

/-! ### What arrives of a piece -/

namespace Laid

variable {inner : Transport} {fields : List Field} {f g : Fields} {tag : Nat} {name : String}
  {kind : Kind} {type : MessageType} {α : Type}

theorem nothing : ∀ {fields : List Field}, Laid inner fields [] []
  | [] => .done
  | _ :: _ => .absent nothing

theorem behind : ∀ (count : Nat) {fields : List Field}, Laid inner (fields.drop count) f g →
    Laid inner fields f g
  | 0, _, laid => laid
  | _ + 1, [], laid => laid
  | count + 1, _ :: _, laid => .absent (behind count laid)

theorem value {d : Datum} (scalar : d.scalarKind? = some kind) (exact : d.isOmitted = d.isDefault)
    (rest : Laid inner fields f g) :
    Laid inner (.plain tag name kind :: fields) (.plain tag d ++ f) (.plain tag d ++ g) := by
  cases gone : d.isDefault with
  | true =>
    simp only [Fields.plain, gone, if_true, List.nil_append]
    exact .absent rest
  | false =>
    simp only [Fields.plain, gone, Bool.false_eq_true, if_false, List.singleton_append]
    exact .plain rfl scalar (exact.trans gone) rest

theorem single {x : Single} (rest : Laid inner fields f g) :
    Laid inner (.plain tag name .float :: fields) (.plain tag (.float x) ++ f)
      (.plain tag (.float x.received) ++ g) := by
  cases zero : x.isZero with
  | true =>
    have nothing : Fields.plain tag (.float x.received) = [] := by
      rw [Single.received, if_pos zero]
      rfl
    rw [nothing, List.nil_append]
    cases gone : (Datum.float x).isDefault with
    | true =>
      simp only [Fields.plain, gone, if_true, List.nil_append]
      exact .absent rest
    | false =>
      simp only [Fields.plain, gone, Bool.false_eq_true, if_false, List.singleton_append]
      exact .omitted rfl zero rest
  | false =>
    have same : x.received = x := if_neg (Bool.eq_false_iff.mp zero)
    have present : (Datum.float x).isDefault = false := Datum.isDefault_of_not_isOmitted zero
    simp only [same, Fields.plain, present, Bool.false_eq_true, if_false, List.singleton_append]
    exact .plain rfl rfl zero rest

theorem given {wrap : α → Datum} (scalar : ∀ a, (wrap a).scalarKind? = some kind) {o : Option α}
    (rest : Laid inner fields f g) :
    Laid inner (.optional tag name kind :: fields) (.optional tag (o.map wrap) ++ f)
      (.optional tag (o.map wrap) ++ g) := by
  cases o with
  | none => exact .absent rest
  | some a => exact .optional rfl (.scalar (scalar a)) rest

theorem message {toFields : α → Fields} {arrive : α → α} {o : Option α}
    (within : ∀ a ∈ o, inner type (toFields a) (toFields (arrive a)))
    (rest : Laid inner fields f g) :
    Laid inner (.optional tag name (.message type) :: fields) (message tag toFields o ++ f)
      (message tag toFields (o.map arrive) ++ g) := by
  cases o with
  | none => exact .absent rest
  | some a => exact .optional rfl (.message (within a rfl)) rest

theorem same {toFields : α → Fields} {o : Option α}
    (within : ∀ a ∈ o, inner type (toFields a) (toFields a)) (rest : Laid inner fields f g) :
    Laid inner (.optional tag name (.message type) :: fields) (Wire.message tag toFields o ++ f)
      (Wire.message tag toFields o ++ g) := by
  cases o with
  | none => exact .absent rest
  | some a => exact .optional rfl (.message (within a rfl)) rest

theorem list {ds ds' : List Datum} (values : List.Forall₂ (Arrives inner kind) ds ds')
    (rest : Laid inner fields f g) :
    Laid inner (.repeated tag name kind :: fields) (.repeated tag ds ++ f)
      (.repeated tag ds' ++ g) := by
  cases values with
  | nil => exact .absent rest
  | cons first others => exact .repeated rfl (List.cons_ne_nil _ _) (.cons first others) rest

theorem scalars {wrap : α → Datum} (scalar : ∀ a, (wrap a).scalarKind? = some kind)
    {values : List α} (rest : Laid inner fields f g) :
    Laid inner (.repeated tag name kind :: fields) (.repeated tag (values.map wrap) ++ f)
      (.repeated tag (values.map wrap) ++ g) := by
  refine .list ?_ rest
  rw [List.forall₂_same]
  intro d member
  obtain ⟨a, _, rfl⟩ := List.mem_map.mp member
  exact .scalar (scalar a)

theorem texts {values : List String} (rest : Laid inner fields f g) :
    Laid inner (.repeated tag name .string :: fields) (Wire.texts tag values ++ f)
      (Wire.texts tag values ++ g) :=
  .scalars (fun _ => rfl) rest

theorem sameMessages {toFields : α → Fields} {values : List α}
    (within : ∀ a ∈ values, inner type (toFields a) (toFields a)) (rest : Laid inner fields f g) :
    Laid inner (.repeated tag name (.message type) :: fields)
      (.repeated tag (values.map fun a => .message (toFields a)) ++ f)
      (.repeated tag (values.map fun a => .message (toFields a)) ++ g) := by
  refine .list ?_ rest
  rw [List.forall₂_map_left_iff, List.forall₂_map_right_iff, List.forall₂_same]
  exact fun a member => .message (within a member)

theorem messages {toFields : α → Fields} {arrive : α → α} {values : List α}
    (within : ∀ a ∈ values, inner type (toFields a) (toFields (arrive a)))
    (rest : Laid inner fields f g) :
    Laid inner (.repeated tag name (.message type) :: fields)
      (.repeated tag (values.map fun a => .message (toFields a)) ++ f)
      (.repeated tag ((values.map arrive).map fun a => .message (toFields a)) ++ g) := by
  refine .list ?_ rest
  rw [List.map_map, List.forall₂_map_left_iff, List.forall₂_map_right_iff, List.forall₂_same]
  exact fun a member => .message (within a member)

theorem entries {es es' : KeyMap Datum} (ordered : es.Ordered)
    (entries : List.Forall₂ (fun e e' => e'.1 = e.1 ∧ ArrivesInEntry inner kind e.2 e'.2) es es')
    (rest : Laid inner fields f g) :
    Laid inner (.map tag name kind :: fields) (.map tag es ++ f) (.map tag es' ++ g) := by
  cases entries with
  | nil => exact .absent rest
  | cons first others => exact .map rfl (List.cons_ne_nil _ _) ordered (.cons first others) rest

theorem scalarEntries (wrap : α → Datum) {es es' : KeyMap α} (ordered : es.Ordered)
    (values : List.Forall₂
      (fun e e' => e'.1 = e.1 ∧ ArrivesInEntry inner kind (wrap e.2) (wrap e'.2)) es es')
    (rest : Laid inner fields f g) :
    Laid inner (.map tag name kind :: fields) (.map tag (es.map fun e => (e.1, wrap e.2)) ++ f)
      (.map tag (es'.map fun e => (e.1, wrap e.2)) ++ g) := by
  refine .entries (ordered.of_keys ?_) ?_ rest
  · rw [KeyMap.keys, List.map_map]
    rfl
  · rwa [List.forall₂_map_left_iff, List.forall₂_map_right_iff]

end Laid

namespace ArrivesInEntry

variable {inner : Transport}

theorem single (x : Single) : ArrivesInEntry inner .float (.float x) (.float x.received) := by
  cases zero : x.isZero with
  | true =>
    have lost : x.received = .zero := if_pos zero
    rw [lost]
    exact .omitted zero
  | false =>
    have same : x.received = x := if_neg (Bool.eq_false_iff.mp zero)
    rw [same]
    exact .kept zero (.scalar rfl)

theorem bytes (b : Bytes) : ArrivesInEntry inner .bytes (.bytes b) (.bytes b) := by
  cases b with
  | nil => exact .omitted rfl
  | cons => exact .kept rfl (.scalar rfl)

/-- A message without contents is left out, and another without contents takes its place. -/
theorem message {type : MessageType} {f g : Fields} (within : inner type f g)
    (empty : f = [] → g = []) :
    ArrivesInEntry inner (.message type) (.message f) (.message g) := by
  cases f with
  | nil =>
    rw [empty rfl]
    exact .omitted rfl
  | cons => exact .kept rfl (.message within)

end ArrivesInEntry

theorem Sent.of_pieces {type : MessageType} {f g : Fields}
    (laid : Laid Sent type.fields (f ++ []) (g ++ [])) : Sent type f g := by
  rw [List.append_nil, List.append_nil] at laid
  exact .of_laid laid

end Wire

end VectorClient
