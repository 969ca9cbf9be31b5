import VectorClient.Proofs.Wire.Bytes

/-!
# Contents that arrive

What is sent of a message, field by field in the order of its declaration, and what arrives of it.
Only a zero with a sign in a plain field is lost, which arrives as absence.
-/

namespace VectorClient.Wire

open Number

/-! ### Nesting -/

mutual

/-- How many levels of messages are inside of a value; an entry of a map is a message. -/
def Datum.levels : Datum → Nat
  | .list values => itemLevels values
  | .map entries => entryLevels entries + 1
  | .message fields => fieldLevels fields + 1
  | _ => 0

def itemLevels : List Datum → Nat
  | [] => 0
  | d :: rest => max d.levels (itemLevels rest)

def entryLevels : List (String × Datum) → Nat
  | [] => 0
  | (_, d) :: rest => max d.levels (entryLevels rest)

def fieldLevels : List (Nat × Datum) → Nat
  | [] => 0
  | (_, d) :: rest => max d.levels (fieldLevels rest)

end

/-! ### Defaults -/

theorem Datum.isDefault_of_not_isOmitted {d : Datum} (kept : d.isOmitted = false) :
    d.isDefault = false := by
  have zero_double (x : Double) (zero : x.bits = 0) : x.isZero = true := by
    rw [Double.isZero, Double.magnitude, zero]
    decide
  have zero_single (x : Single) (zero : x.bits = 0) : x.isZero = true := by
    rw [Single.isZero, Single.magnitude, zero]
    decide
  cases d with
  | double x =>
    refine decide_eq_false fun zero => ?_
    have gone : x.isZero = false := kept
    rw [zero_double x zero] at gone
    cases gone
  | float x =>
    refine decide_eq_false fun zero => ?_
    have gone : x.isZero = false := kept
    rw [zero_single x zero] at gone
    cases gone
  | _ => exact kept

/-! ### What arrives -/

/-- Which contents of messages arrive as which. -/
abbrev Transport := MessageType → Fields → Fields → Prop

inductive Arrives (inner : Transport) : Kind → Datum → Datum → Prop
  | scalar {kind : Kind} {d : Datum} (scalar : d.scalarKind? = some kind) : Arrives inner kind d d
  | message {type : MessageType} {f g : Fields} (within : inner type f g) :
      Arrives inner (.message type) (.message f) (.message g)

inductive ArrivesInEntry (inner : Transport) : Kind → Datum → Datum → Prop
  | omitted {kind : Kind} {d : Datum} (gone : d.isOmitted = true) :
      ArrivesInEntry inner kind d (.default kind)
  | kept {kind : Kind} {d d' : Datum} (kept : d.isOmitted = false)
      (value : Arrives inner kind d d') : ArrivesInEntry inner kind d d'

/-- Contents with at most the given fields, in their order, and what arrives of them. -/
inductive Laid (inner : Transport) : List Field → Fields → Fields → Prop
  | done : Laid inner [] [] []
  | absent {field : Field} {fields : List Field} {f g : Fields} (rest : Laid inner fields f g) :
      Laid inner (field :: fields) f g
  | omitted {field : Field} {fields : List Field} {d : Datum} {f g : Fields}
      (plain : field.rule = .plain) (gone : d.isOmitted = true) (rest : Laid inner fields f g) :
      Laid inner (field :: fields) ((field.tag, d) :: f) g
  | plain {field : Field} {fields : List Field} {d : Datum} {f g : Fields}
      (plain : field.rule = .plain) (scalar : d.scalarKind? = some field.kind)
      (kept : d.isOmitted = false) (rest : Laid inner fields f g) :
      Laid inner (field :: fields) ((field.tag, d) :: f) ((field.tag, d) :: g)
  | optional {field : Field} {fields : List Field} {d d' : Datum} {f g : Fields}
      (optional : field.rule = .optional) (value : Arrives inner field.kind d d')
      (rest : Laid inner fields f g) :
      Laid inner (field :: fields) ((field.tag, d) :: f) ((field.tag, d') :: g)
  /-- A member excludes the other fields of its group. -/
  | member {field : Field} {fields : List Field} {d d' : Datum} {f g : Fields} {group : String}
      (member : field.rule = .member group) (value : Arrives inner field.kind d d')
      (rest : Laid inner (fields.filter fun other => other.rule ≠ .member group) f g) :
      Laid inner (field :: fields) ((field.tag, d) :: f) ((field.tag, d') :: g)
  | repeated {field : Field} {fields : List Field} {ds ds' : List Datum} {f g : Fields}
      (repeated : field.rule = .repeated) (nonempty : ds ≠ [])
      (values : List.Forall₂ (Arrives inner field.kind) ds ds') (rest : Laid inner fields f g) :
      Laid inner (field :: fields) ((field.tag, .list ds) :: f) ((field.tag, .list ds') :: g)
  | map {field : Field} {fields : List Field} {es es' : KeyMap Datum} {f g : Fields}
      (map : field.rule = .map) (nonempty : es ≠ []) (ordered : es.Ordered)
      (entries : List.Forall₂ (fun e e' => e'.1 = e.1 ∧ ArrivesInEntry inner field.kind e.2 e'.2)
        es es')
      (rest : Laid inner fields f g) :
      Laid inner (field :: fields) ((field.tag, .map es) :: f) ((field.tag, .map es') :: g)

inductive Sent : MessageType → Fields → Fields → Prop
  | intro {type : MessageType} {f g : Fields} (inner : Transport)
      (sub : ∀ t f g, inner t f g → Sent t f g) (laid : Laid inner type.fields f g) :
      Sent type f g

theorem Sent.of_laid {type : MessageType} {f g : Fields} (laid : Laid Sent type.fields f g) :
    Sent type f g := .intro Sent (fun _ _ _ sent => sent) laid

end VectorClient.Wire
