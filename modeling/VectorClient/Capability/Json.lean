import VectorClient.Capability
import VectorClient.Json.Source

/-!
# Versions and capabilities as documents
-/

namespace VectorClient

open Json (Source)

namespace Version

def partJson (n : UInt32) : Json := .int n.toNat

def toJson (v : Version) : Json :=
  .object [("major", partJson v.major), ("minor", partJson v.minor), ("patch", partJson v.patch)]

def ofSource? : Json.Decoder Version := fun s => do
  match ← s.fields? ["major", "minor", "patch"] with
  | [major, minor, patch] =>
    let major ← Source.required Source.uint32? major
    let minor ← Source.required Source.uint32? minor
    let patch ← Source.required Source.uint32? patch
    return ⟨major, minor, patch⟩
  | _ => none

end Version

namespace Capabilities

def toJson (caps : Capabilities) : Json := .object [("version", caps.version.toJson)]

def ofSource? : Json.Decoder Capabilities := fun s => do
  match ← s.fields? ["version"] with
  | [version] => return ⟨← Source.required Version.ofSource? version⟩
  | _ => none

end Capabilities

end VectorClient
