import VectorClient.Session.Connection

/-!
# Scripted backends

A backend that answers the calls of each kind from a list, and with a fixed answer when the list is
used up.
-/

namespace VectorClient

open Number

structure Script where
  versions : List (Except Error Version) := []
  searches : List (Except Error Wire.SearchReply) := []
  batches : List (Except Error Wire.BatchReply) := []
  tenants : List (Except Error Wire.TenantsReply) := []
  files : String → Option (List UInt8) := fun _ => none

namespace Call

def isVersion : Call → Bool
  | .version => true
  | _ => false

def isSearch : Call → Bool
  | .search _ => true
  | _ => false

def isBatch : Call → Bool
  | .batch _ => true
  | _ => false

def isTenants : Call → Bool
  | .tenants _ => true
  | _ => false

end Call

namespace Script

/-- The answer to the last of the calls of a kind. -/
def answer {α : Type} (ofKind : Call → Bool) (answers : List (Except Error α)) (fallback : α)
    (calls : List Call) : Except Error α :=
  answers[calls.countP ofKind - 1]?.getD (.ok fallback)

def defaultVersion : Version := ⟨1, 27, 0⟩

/-- Calls take no time. -/
def backend (s : Script) (freshId : Nat → Uuid) : Backend where
  version := answer Call.isVersion s.versions defaultVersion
  search := answer Call.isSearch s.searches {}
  batch := answer Call.isBatch s.batches {}
  tenants := answer Call.isTenants s.tenants {}
  elapsed := fun _ => .zero
  file := s.files
  freshId := freshId

end Script

end VectorClient
