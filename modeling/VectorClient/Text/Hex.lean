/-!
# Hexadecimal digits

Lower-case digits are written and both cases are read.
-/

namespace VectorClient.Text

def hexDigit (value : Nat) : Char :=
  if value < 10 then Char.ofNat ('0'.toNat + value) else Char.ofNat ('a'.toNat + (value - 10))

def hexValue? (c : Char) : Option Nat :=
  if '0' ≤ c ∧ c ≤ '9' then some (c.toNat - '0'.toNat)
  else if 'a' ≤ c ∧ c ≤ 'f' then some (c.toNat - 'a'.toNat + 10)
  else if 'A' ≤ c ∧ c ≤ 'F' then some (c.toNat - 'A'.toNat + 10)
  else none

def hexByte (b : UInt8) : List Char := [hexDigit (b.toNat / 16), hexDigit (b.toNat % 16)]

/-- Two digits a byte, the high half first. -/
def hexBytes (bytes : List UInt8) : List Char := bytes.flatMap hexByte

def readHexBytes? : List Char → Option (List UInt8)
  | [] => some []
  | high :: low :: rest => do
    let h ← hexValue? high
    let l ← hexValue? low
    let bytes ← readHexBytes? rest
    return UInt8.ofNat (16 * h + l) :: bytes
  | [_] => none

def hexNumber (n : Nat) : List Char := (Nat.toDigits 16 n)

end VectorClient.Text
