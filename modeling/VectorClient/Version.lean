import VectorClient.Error
import VectorClient.Text.Blank

/-!
# Server versions

Versions are ordered by their parts from left to right. `read` takes the text that a server
reports: leading `v`s and whatever follows a hyphen or a plus sign do not count.
-/

namespace VectorClient

structure Version where
  major : UInt32
  minor : UInt32
  patch : UInt32
deriving DecidableEq, Repr, Inhabited

namespace Version

def compare (a b : Version) : Ordering :=
  (Ord.compare a.major b.major).then
    ((Ord.compare a.minor b.minor).then (Ord.compare a.patch b.patch))

instance : Ord Version := ⟨compare⟩

instance : LE Version := ⟨fun a b => (compare a b).isLE⟩

instance (a b : Version) : Decidable (a ≤ b) := inferInstanceAs (Decidable (_ = true))

def text (v : Version) : String :=
  toString v.major.toNat ++ "." ++ toString v.minor.toNat ++ "." ++ toString v.patch.toNat

/-! ### Reading -/

def splitDots : List Char → List (List Char)
  | [] => [[]]
  | c :: rest =>
    if c = '.' then [] :: splitDots rest
    else match splitDots rest with
      | [] => [[c]]
      | piece :: pieces => (c :: piece) :: pieces

/-- The numbers of a version text without what surrounds them. -/
def core (cs : List Char) : List Char :=
  ((Text.trimChars cs).dropWhile (· = 'v')).takeWhile fun c => c ≠ '-' && c ≠ '+'

def readPart? (cs : List Char) : Option UInt32 :=
  match Text.readUnsigned (UInt32.size - 1) cs with
  | .ok n => some (UInt32.ofNat n)
  | .error _ => none

/-- A required part, named for the error. -/
def readPart (raw part : String) : Option (List Char) → Except Error UInt32
  | none => .error (.config (.missingVersionPart raw part))
  | some cs => match readPart? cs with
    | some n => .ok n
    | none => .error (.config (.badVersionPart part raw))

/-- At least two numbers joined by dots; the patch is zero if absent and what follows it is free. -/
def read (raw : String) : Except Error Version := do
  let pieces := splitDots (core raw.toList)
  let major ← readPart raw "major" pieces[0]?
  let minor ← readPart raw "minor" pieces[1]?
  let patch ← readPart raw "patch" (pieces[2]?.orElse fun _ => some ['0'])
  return ⟨major, minor, patch⟩

end Version

end VectorClient
