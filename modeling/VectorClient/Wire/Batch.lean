import VectorClient.Wire.Property
import VectorClient.Wire.Vectors

/-!
# Batch messages

The request that inserts objects and the reply that lists the positions that failed.
-/

namespace VectorClient.Wire

open Number

structure SingleTargetReferences where
  uuids : List String
  propName : String
deriving DecidableEq, Repr

structure MultiTargetReferences where
  uuids : List String
  propName : String
  targetCollection : String
deriving DecidableEq, Repr

structure BatchProperties where
  nonRefProperties : Option Properties := none
  singleTarget : List SingleTargetReferences := []
  multiTarget : List MultiTargetReferences := []
deriving Repr, BEq

structure BatchObject where
  uuid : String := ""
  vector : List Single := []
  properties : Option BatchProperties := none
  collection : String := ""
  tenant : String := ""
  vectorBytes : Bytes := []
  vectors : List Vectors := []
deriving Repr, BEq

structure BatchRequest where
  objects : List BatchObject
  consistencyLevel : Option Int32
deriving Repr, BEq

structure BatchError where
  index : Int32
  error : String
deriving DecidableEq, Repr

structure BatchReply where
  took : Single := .zero
  errors : List BatchError := []
deriving DecidableEq, Repr

namespace BatchProperties

def toFields (p : BatchProperties) : Fields :=
  .optional 1 (p.nonRefProperties.map fun p => .message p.toFields) ++
    .repeated 2 (p.singleTarget.map fun r =>
      .message (texts 1 r.uuids ++ Fields.plain 2 (.string r.propName))) ++
    .repeated 3 (p.multiTarget.map fun r =>
      .message (texts 1 r.uuids ++ Fields.plain 2 (.string r.propName) ++
        Fields.plain 3 (.string r.targetCollection)))

def ofFields (f : Fields) : BatchProperties :=
  { nonRefProperties := (f.message? 1).map Properties.ofFields
    singleTarget := (f.messages 2).map fun r => ⟨r.strings 1, r.string 2⟩
    multiTarget := (f.messages 3).map fun r => ⟨r.strings 1, r.string 2, r.string 3⟩ }

end BatchProperties

namespace BatchObject

def toFields (o : BatchObject) : Fields :=
  .plain 1 (.string o.uuid) ++ .repeated 2 (o.vector.map .float) ++
    .optional 3 (o.properties.map fun p => .message p.toFields) ++
    .plain 4 (.string o.collection) ++ .plain 5 (.string o.tenant) ++
    .plain 6 (.bytes o.vectorBytes) ++ .repeated 23 (o.vectors.map fun v => .message v.toFields)

def ofFields (f : Fields) : BatchObject :=
  { uuid := f.string 1
    vector := f.floats 2
    properties := (f.message? 3).map .ofFields
    collection := f.string 4
    tenant := f.string 5
    vectorBytes := f.bytes 6
    vectors := (f.messages 23).map .ofFields }

end BatchObject

def BatchRequest.toFields (r : BatchRequest) : Fields :=
  .repeated 1 (r.objects.map fun o => .message o.toFields) ++
    .optional 2 (r.consistencyLevel.map .int32)

def BatchReply.ofFields (f : Fields) : BatchReply :=
  { took := f.float 1, errors := (f.messages 2).map fun e => ⟨e.int32 1, e.string 2⟩ }

end VectorClient.Wire
