/-!
# Reading whole numbers

Decimal digits after an optional sign, read from the left up to the first fault. Unsigned numbers
take no minus sign.
-/

namespace VectorClient.Text

/-- Why a text is no whole number of the range asked for. -/
inductive IntegerFault
  | empty
  | invalidDigit
  | tooLarge
  | tooSmall
deriving DecidableEq, Repr

def IntegerFault.message : IntegerFault → String
  | .empty => "cannot parse integer from empty string"
  | .invalidDigit => "invalid digit found in string"
  | .tooLarge => "number too large to fit in target type"
  | .tooSmall => "number too small to fit in target type"

def digitValue? (c : Char) : Option Nat :=
  if '0' ≤ c ∧ c ≤ '9' then some (c.toNat - '0'.toNat) else none

/-- Continues the number `n` with digits; `fault` is what passing `limit` is called. -/
def readDigits (limit : Nat) (fault : IntegerFault) (n : Nat) : List Char → Except IntegerFault Nat
  | [] => .ok n
  | c :: rest =>
    match digitValue? c with
    | none => .error .invalidDigit
    | some d => if limit < 10 * n + d then .error fault else readDigits limit fault (10 * n + d) rest

/-- A number of at most `limit`, with an optional plus sign. -/
def readUnsigned (limit : Nat) : List Char → Except IntegerFault Nat
  | [] => .error .empty
  | ['+'] => .error .invalidDigit
  | '+' :: digits => readDigits limit .tooLarge 0 digits
  | digits => readDigits limit .tooLarge 0 digits

/-- A number from `-limit - 1` to `limit`, with an optional sign. -/
def readSigned (limit : Nat) : List Char → Except IntegerFault Int
  | [] => .error .empty
  | ['+'] => .error .invalidDigit
  | ['-'] => .error .invalidDigit
  | '+' :: digits => (readDigits limit .tooLarge 0 digits).map Int.ofNat
  | '-' :: digits => (readDigits (limit + 1) .tooSmall 0 digits).map fun n => -(n : Int)
  | digits => (readDigits limit .tooLarge 0 digits).map Int.ofNat

end VectorClient.Text
