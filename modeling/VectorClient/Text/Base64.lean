import VectorClient.Number.Power

/-!
# Base 64

The standard alphabet, with the last group padded to four characters.
-/

namespace VectorClient.Text

open Number

def base64Alphabet : List Char :=
  "ABCDEFGHIJKLMNOPQRSTUVWXYZabcdefghijklmnopqrstuvwxyz0123456789+/".toList

def base64Digit (value : Nat) : Char := base64Alphabet.getD value '='

/-- The four characters of up to three bytes, of which `count` digits carry data. -/
def base64Group (n count : Nat) : List Char :=
  let digits := [n / pow2 18 % 64, n / pow2 12 % 64, n / pow2 6 % 64, n % 64].map base64Digit
  digits.take count ++ List.replicate (4 - count) '='

def base64Chars : List UInt8 → List Char
  | a :: b :: c :: rest =>
    base64Group (a.toNat * pow2 16 + b.toNat * pow2 8 + c.toNat) 4 ++ base64Chars rest
  | [a, b] => base64Group (a.toNat * pow2 16 + b.toNat * pow2 8) 3
  | [a] => base64Group (a.toNat * pow2 16) 2
  | [] => []

def base64 (bytes : List UInt8) : String := String.ofList (base64Chars bytes)

end VectorClient.Text
