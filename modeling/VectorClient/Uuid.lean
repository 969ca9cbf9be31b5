import VectorClient.Number.Power
import VectorClient.Text.Hex

/-!
# Object ids

A `Uuid` is sixteen octets. It is written as five groups of lower-case digits joined by hyphens;
`read?` also takes the digits alone, the groups in braces and the groups behind `urn:uuid:`.
-/

namespace VectorClient

structure Uuid where
  octets : List UInt8
  size_eq : octets.length = 16
deriving DecidableEq, Repr

namespace Uuid

open Text

def ofOctets? (octets : List UInt8) : Option Uuid :=
  if h : octets.length = 16 then some ⟨octets, h⟩ else none

/-- The id whose octets spell the number, most significant first. -/
def ofNat (n : Nat) : Uuid :=
  ⟨(List.range 16).map fun i => UInt8.ofNat (n / Number.pow2 (8 * (15 - i))), by simp⟩

instance : Inhabited Uuid := ⟨ofNat 0⟩

/-- Thirty-two digits in groups of eight, three times four, and twelve. -/
def group (digits : List Char) : List Char :=
  digits.take 8 ++ ['-'] ++ (digits.drop 8).take 4 ++ ['-'] ++ (digits.drop 12).take 4 ++ ['-'] ++
    (digits.drop 16).take 4 ++ ['-'] ++ digits.drop 20

def chars (id : Uuid) : List Char := group (hexBytes id.octets)

def text (id : Uuid) : String := String.ofList id.chars

def ungroup? (cs : List Char) : Option (List Char) :=
  if cs.length = 36 ∧ [8, 13, 18, 23].all (cs[·]? = some '-') then
    some (cs.take 8 ++ (cs.drop 9).take 4 ++ (cs.drop 14).take 4 ++ (cs.drop 19).take 4 ++
      cs.drop 24)
  else
    none

def ofDigits? (digits : List Char) : Option Uuid := (readHexBytes? digits).bind ofOctets?

def readGrouped? (cs : List Char) : Option Uuid := (ungroup? cs).bind ofDigits?

/-- The lower-case marker in front of an id written as a resource name. -/
def urnMarker : List Char := "urn:uuid:".toList

def readChars? (cs : List Char) : Option Uuid :=
  if cs.length = 32 then ofDigits? cs
  else if cs.length = 38 then
    if cs.head? = some '\x7b' ∧ cs.getLast? = some '\x7d' then readGrouped? (cs.tail.take 36) else none
  else if cs.length = 45 then
    if (cs.take 9).map Char.toLower = urnMarker then readGrouped? (cs.drop 9) else none
  else readGrouped? cs

def read? (s : String) : Option Uuid := readChars? s.toList

end Uuid

end VectorClient
