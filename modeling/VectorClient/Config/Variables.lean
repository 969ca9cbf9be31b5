import VectorClient.Error
import VectorClient.KeyMap
import VectorClient.Number.Power
import VectorClient.Text.Blank
import VectorClient.Text.Integer
import VectorClient.Wire.Decode

/-!
# Environment variables

Variables hold bytes. One that is not UTF-8 counts as unset. A value that is set and cannot be read
is an error and never replaced by a default.
-/

namespace VectorClient

abbrev Variables := KeyMap (List UInt8)

namespace Variables

variable (env : Variables)

def text? (key : String) : Option String := (KeyMap.find? key env).bind Wire.ofUtf8?

/-- The text of a variable that is neither unset nor blank. -/
def optional (key : String) : Option String := (env.text? key).filter fun s => !Text.isBlank s

def orDefault (key fallback : String) : String := (env.text? key).getD fallback

def required (key : String) : Except ConfigFault String :=
  match env.text? key with
  | some s => .ok s
  | none => .error (.missingVariable key)

/-- The value of a variable without the blanks around it, or a default if it is unset; `read` says
what is wrong with a text. -/
def parse {α : Type} (read : String → Except String α) (key : String) (fallback : α) :
    Except ConfigFault α :=
  match env.text? key with
  | none => .ok fallback
  | some raw =>
    match read (Text.trim raw) with
    | .ok a => .ok a
    | .error details => .error (.badVariable key details)

end Variables

/-! ### Values of variables -/

namespace Variables

/-- A number of 64 bits. -/
def readNat (s : String) : Except String Nat :=
  (Text.readUnsigned (UInt64.size - 1) s.toList).mapError Text.IntegerFault.message

/-- A number of 64 bits with a sign. -/
def readInt (s : String) : Except String Int :=
  (Text.readSigned (Number.pow2 63 - 1) s.toList).mapError Text.IntegerFault.message

def readBool : String → Except String Bool
  | "true" => .ok true
  | "false" => .ok false
  | _ => .error "provided string was not `true` or `false`"

end Variables

inductive Deployment
  | development
  | production
deriving DecidableEq, Repr

/-- Production only if the variable says so, in letters of either case. -/
def Deployment.ofVariables (env : Variables) : Deployment :=
  if (env.orDefault "APP_ENV" "development").toList.map Char.toLower = "production".toList then
    .production
  else .development

end VectorClient
