import VectorClient.Json.Number
import VectorClient.Text.Hex

/-!
# Reading JSON text

Strict JSON: four kinds of blanks, no leading zeros, no control characters in texts and nothing
behind the value. `fuel` bounds the steps and is never used up, since every other step consumes a
character.
-/

namespace VectorClient.Json

def isBlankChar (c : Char) : Bool := c = ' ' || c = '\n' || c = '\t' || c = '\r'

def skipBlanks (cs : List Char) : List Char := cs.dropWhile isBlankChar

/-! ### Numbers -/

def spanDigits (cs : List Char) : List Nat × List Char :=
  ((cs.takeWhile Char.isDigit).map fun c => c.toNat - '0'.toNat, cs.dropWhile Char.isDigit)

/-- At least one digit. -/
def readDigits (cs : List Char) : Option (List Nat × List Char) :=
  match spanDigits cs with
  | ([], _) => none
  | result => some result

/-- Digits without a zero in front of others. -/
def readWhole (cs : List Char) : Option (List Nat × List Char) :=
  match readDigits cs with
  | some (0 :: _ :: _, _) => none
  | result => result

def readFraction : List Char → Option (Option (List Nat) × List Char)
  | '.' :: rest => (readDigits rest).map fun (ds, rest) => (some ds, rest)
  | cs => some (none, cs)

def readExponentPart : List Char → Option (Option (Bool × List Nat) × List Char)
  | c :: rest =>
    if c = 'e' ∨ c = 'E' then
      match rest with
      | '-' :: rest => (readDigits rest).map fun (ds, rest) => (some (true, ds), rest)
      | '+' :: rest => (readDigits rest).map fun (ds, rest) => (some (false, ds), rest)
      | rest => (readDigits rest).map fun (ds, rest) => (some (false, ds), rest)
    else some (none, c :: rest)
  | [] => some (none, [])

def readNumber (negative : Bool) (cs : List Char) : Option (Source × List Char) := do
  let (whole, cs) ← readWhole cs
  let (fraction, cs) ← readFraction cs
  let (exponent, cs) ← readExponentPart cs
  return (NumberParts.source ⟨negative, whole, fraction, exponent⟩, cs)

/-! ### Texts -/

/-- A character, or a code unit that was written as four digits. -/
inductive Piece
  | char (c : Char)
  | unit (n : Nat)

def isLead (n : Nat) : Bool := 0xd800 ≤ n && n < 0xdc00
def isTrail (n : Nat) : Bool := 0xdc00 ≤ n && n < 0xe000

/-- The characters of a text; a surrogate counts only as one of a pair. -/
def joinPieces : List Piece → Option (List Char)
  | [] => some []
  | .char c :: rest => (joinPieces rest).map (c :: ·)
  | .unit n :: rest =>
    if isLead n then
      match rest with
      | .unit m :: rest =>
        if isTrail m then
          (joinPieces rest).map
            (Char.ofNat (0x10000 + (n - 0xd800) * 0x400 + (m - 0xdc00)) :: ·)
        else none
      | _ => none
    else if isTrail n then none
    else (joinPieces rest).map (Char.ofNat n :: ·)

/-- A code unit of four digits in base 16. -/
def unit? (a b c d : Char) : Option Nat := do
  let a ← Text.hexValue? a
  let b ← Text.hexValue? b
  let c ← Text.hexValue? c
  let d ← Text.hexValue? d
  return ((a * 16 + b) * 16 + c) * 16 + d

def escaped? : Char → Option Char
  | '"' => some '"'
  | '\\' => some '\\'
  | '/' => some '/'
  | 'b' => some '\x08'
  | 'f' => some '\x0c'
  | 'n' => some '\n'
  | 'r' => some '\r'
  | 't' => some '\t'
  | _ => none

/-- The pieces up to the closing quote, in reverse on top of those `done`, and what follows. -/
def readPieces (done : List Piece) : List Char → Option (List Piece × List Char)
  | [] => none
  | '"' :: rest => some (done, rest)
  | '\\' :: 'u' :: a :: b :: c :: d :: rest =>
    match unit? a b c d with
    | some n => readPieces (.unit n :: done) rest
    | none => none
  | '\\' :: c :: rest =>
    match escaped? c with
    | some c => readPieces (.char c :: done) rest
    | none => none
  | c :: rest => if c = '\\' ∨ c.toNat < 0x20 then none else readPieces (.char c :: done) rest

/-- A text behind its opening quote; without a value if its surrogates are not paired. -/
def readText (cs : List Char) : Option (Option String × List Char) := do
  let (pieces, rest) ← readPieces [] cs
  return ((joinPieces pieces.reverse).map String.ofList, rest)

/-! ### Values -/

def readWord (word : String) (value : Source) (cs : List Char) : Option (Source × List Char) :=
  if word.toList.isPrefixOf cs then some (value, cs.drop word.length) else none

mutual

def readValue : Nat → List Char → Option (Source × List Char)
  | 0, _ => none
  | fuel + 1, cs =>
    match skipBlanks cs with
    | [] => none
    | '[' :: rest =>
      match skipBlanks rest with
      | ']' :: rest => some (.array [], rest)
      | rest => (readItems fuel rest).map fun (items, rest) => (.array items, rest)
    | '\x7b' :: rest =>
      match skipBlanks rest with
      | '\x7d' :: rest => some (.object [], rest)
      | rest => (readEntries fuel rest).map fun (entries, rest) => (.object entries, rest)
    | '"' :: rest => (readText rest).map fun
      | (some s, rest) => (.string s, rest)
      | (none, rest) => (.noString, rest)
    | '-' :: rest => readNumber true rest
    | 'n' :: rest => readWord "null" .null ('n' :: rest)
    | 't' :: rest => readWord "true" (.bool true) ('t' :: rest)
    | 'f' :: rest => readWord "false" (.bool false) ('f' :: rest)
    | rest => readNumber false rest

/-- At least one item and the closing bracket. -/
def readItems : Nat → List Char → Option (List Source × List Char)
  | 0, _ => none
  | fuel + 1, cs => do
    let (item, rest) ← readValue fuel cs
    match skipBlanks rest with
    | ',' :: rest =>
      let (items, rest) ← readItems fuel rest
      return (item :: items, rest)
    | ']' :: rest => return ([item], rest)
    | _ => none

/-- At least one entry and the closing brace. -/
def readEntries : Nat → List Char → Option (List (Option String × Source) × List Char)
  | 0, _ => none
  | fuel + 1, cs => do
    match skipBlanks cs with
    | '"' :: rest =>
      let (key, rest) ← readText rest
      match skipBlanks rest with
      | ':' :: rest =>
        let (value, rest) ← readValue fuel rest
        match skipBlanks rest with
        | ',' :: rest =>
          let (entries, rest) ← readEntries fuel rest
          return ((key, value) :: entries, rest)
        | '\x7d' :: rest => return ([(key, value)], rest)
        | _ => none
      | _ => none
    | _ => none

end

def parse? (text : String) : Option Source :=
  let cs := text.toList
  match readValue (2 * cs.length + 2) cs with
  | some (value, rest) => if skipBlanks rest = [] then some value else none
  | none => none

end VectorClient.Json
