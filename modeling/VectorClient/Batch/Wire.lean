import VectorClient.Batch.Basic
import VectorClient.Property.Wire
import VectorClient.Vector.Wire
import VectorClient.Wire.Batch

/-!
# Batches on the wire

Objects are mapped one to one and in order; the first that cannot be mapped fails the batch. The
reply lists positions that failed; all other objects have the id that was sent.
-/

namespace VectorClient

open Number

/-! ### Sending -/

namespace BatchObject

/-- Ids for a batch: those of the objects, and from position `n` of a supply for the others. -/
def assignIds (fresh : Nat → Uuid) : Nat → List BatchObject → List Uuid
  | _, [] => []
  | n, o :: rest =>
    match o.id with
    | some id => id :: assignIds fresh n rest
    | none => fresh n :: assignIds fresh (n + 1) rest

def countUnnamed (objects : List BatchObject) : Nat := objects.countP (·.id.isNone)

end BatchObject

def singleReferences : List (String × ReferenceTargets) → List Wire.SingleTargetReferences
  | [] => []
  | (name, .single ids) :: rest => ⟨ids.map Uuid.text, name⟩ :: singleReferences rest
  | (_, .multi _ _) :: rest => singleReferences rest

def multiReferences : List (String × ReferenceTargets) → List Wire.MultiTargetReferences
  | [] => []
  | (_, .single _) :: rest => multiReferences rest
  | (name, .multi collection ids) :: rest =>
    ⟨ids.map Uuid.text, name, collection⟩ :: multiReferences rest

namespace BatchObject

/-- Absent for an object with neither properties nor references. -/
def propertiesToWire (caps : Capabilities) (o : BatchObject) : Option Wire.BatchProperties :=
  if o.properties.isNone && o.references.isNone then none
  else some {
    nonRefProperties := o.properties.map (Properties.toWire caps)
    singleTarget := singleReferences (o.references.getD [])
    multiTarget := multiReferences (o.references.getD []) }

end BatchObject

structure PlacedVectors where
  anonymous : Wire.Bytes := []
  named : List Wire.Vectors := []
deriving DecidableEq, Repr

def namedVectorsToWire : List (String × VectorValue) → Except Error (List Wire.Vectors)
  | [] => .ok []
  | (name, v) :: rest => do
    let first ← v.toWire name
    let others ← namedVectorsToWire rest
    return first :: others

namespace BatchObject

def vectorsToWire (usesNamedVectors : Bool) (caps : Capabilities) (o : BatchObject) :
    Except Error PlacedVectors :=
  match o.vectors with
  | none => .ok {}
  | some (.single v) =>
    if usesNamedVectors then do
      let vectors ← (VectorValue.single v).toWire VectorValue.defaultName
      return { named := [vectors] }
    else .ok { anonymous := Vector.encode v }
  | some (.named vectors) =>
    if usesNamedVectors then do
      if vectors.any (·.2.isMulti) then caps.require .multiVectorPerTarget
      let named ← namedVectorsToWire vectors
      return { named }
    else .error (.invalidInput (.unnamedVectors o.collection))

def toWire (usesNamedVectors : Bool) (tenant : Option String) (caps : Capabilities)
    (o : BatchObject) (id : Uuid) : Except Error Wire.BatchObject := do
  if o.collection = "" then throw (.invalidInput .noCollection)
  let placed ← o.vectorsToWire usesNamedVectors caps
  return {
    uuid := id.text
    properties := o.propertiesToWire caps
    collection := o.collection
    tenant := (o.tenant.orElse fun _ => tenant).getD ""
    vectorBytes := placed.anonymous
    vectors := placed.named }

end BatchObject

namespace Batch

/-- The wire objects of a batch, with ids from position `next` of the supply on. -/
def toWire (fresh : Nat → Uuid) (next : Nat) (usesNamedVectors : Bool) (tenant : Option String)
    (caps : Capabilities) (objects : List BatchObject) : Except Error (List Wire.BatchObject) :=
  (objects.zip (BatchObject.assignIds fresh next objects)).mapM fun (o, id) =>
    o.toWire usesNamedVectors tenant caps id

/-! ### Receiving -/

/-- The position that an error of the reply is about. -/
def position (size : Nat) (index : Int32) : Except Error Nat :=
  if 0 ≤ index.toInt ∧ index.toInt.toNat < size then .ok index.toInt.toNat
  else .error (.wireDecode (.batchIndex index size))

/-- The failed positions of a batch and their messages, in the order of the reply. -/
def failures (size : Nat) (errors : List Wire.BatchError) : Except Error (List (Nat × String)) :=
  errors.mapM fun e => do
    let i ← position size e.index
    return (i, e.error)

def lastMessage? (failed : List (Nat × String)) (i : Nat) : Option String :=
  (failed.reverse.find? (·.1 = i)).map Prod.snd

def sentId (sent : Wire.BatchObject) : Except Error Uuid :=
  match Uuid.read? sent.uuid with
  | some id => .ok id
  | none => .error (.wireDecode (.batchUuid sent.uuid))

def response (failed : List (Nat × String)) (i : Nat) (o : BatchObject) (sent : Wire.BatchObject) :
    Except Error BatchResponse :=
  match lastMessage? failed i with
  | some message => .ok (.refused ⟨message, o, o.id⟩)
  | none => (sentId sent).map .inserted

/-- The responses to the objects from position `i` on. -/
def responses (failed : List (Nat × String)) :
    Nat → List (BatchObject × Wire.BatchObject) → Except Error (List BatchResponse)
  | _, [] => .ok []
  | i, (o, sent) :: rest => do
    let first ← response failed i o sent
    let others ← responses failed (i + 1) rest
    return first :: others

def ofReply (reply : Wire.BatchReply) (objects : List BatchObject) (sent : List Wire.BatchObject)
    (elapsedSeconds : Double) : Except Error BatchResult := do
  if objects.length ≠ sent.length then
    throw (.invalidInput (.sizeMismatch objects.length sent.length))
  let failed ← failures objects.length reply.errors
  let all ← responses failed 0 (objects.zip sent)
  return all.foldl BatchResult.push { elapsedSeconds }

end Batch

end VectorClient
