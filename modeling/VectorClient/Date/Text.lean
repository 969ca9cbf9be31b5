import VectorClient.Date.Basic
import VectorClient.Number.Power
import VectorClient.Text.Integer

/-!
# Dates as text

RFC 3339. Dates are written in UTC with the fewest of 0, 3, 6 or 9 fraction digits that are exact;
they are read with any offset of whole minutes, and years of four digits only.
-/

namespace VectorClient.Date

/-- The decimal digits of `n`, with leading zeros up to `width`. -/
def padded (width n : Nat) : List Char :=
  let digits := (toString n).toList
  List.replicate (width - digits.length) '0' ++ digits

/-- Years that four digits cannot show have a sign. -/
def yearChars (year : Int) : List Char :=
  if 0 ≤ year ∧ year ≤ 9999 then padded 4 year.toNat
  else (if year < 0 then '-' else '+') :: padded 4 year.natAbs

def fractionChars (nanos : Nat) : List Char :=
  if nanos = 0 then []
  else if nanos % 1000000 = 0 then '.' :: padded 3 (nanos / 1000000)
  else if nanos % 1000 = 0 then '.' :: padded 6 (nanos / 1000)
  else '.' :: padded 9 nanos

def chars (d : Date) : List Char :=
  let c := d.civil
  let s := d.secondOfDay
  let leap := if nanosPerSecond ≤ d.nanos then 1 else 0
  yearChars c.year ++ ['-'] ++ padded 2 c.month ++ ['-'] ++ padded 2 c.day ++ ['T'] ++
    padded 2 (s / 3600) ++ [':'] ++ padded 2 (s / 60 % 60) ++ [':'] ++ padded 2 (s % 60 + leap) ++
    fractionChars (d.nanos - leap * nanosPerSecond) ++ ['Z']

def text (d : Date) : String := String.ofList d.chars

/-! ### Reading -/

/-- The value of exactly `count` digits, and the rest. -/
def takeDigits? (count : Nat) (cs : List Char) : Option (Nat × List Char) :=
  if count ≤ cs.length then
    ((cs.take count).foldl
      (fun n c => n.bind fun n => (Text.digitValue? c).map (10 * n + ·)) (some 0)).map
      (·, cs.drop count)
  else
    none

def takeChar? (c : Char) : List Char → Option (List Char)
  | d :: rest => if d = c then some rest else none
  | [] => none

/-- A point and at least one digit; digits after the ninth do not count. -/
def takeFraction? : List Char → Option (Nat × List Char)
  | '.' :: rest =>
    let digits := rest.takeWhile Char.isDigit
    let kept := digits.take 9
    if kept = [] then none
    else
      (takeDigits? kept.length kept).map fun (n, _) =>
        (n * Number.pow10 (9 - kept.length), rest.dropWhile Char.isDigit)
  | cs => some (0, cs)

/-- The minus signs of an offset, of which the second is U+2212. -/
def minusSigns : List Char := ['-', '\u2212']

/-- The offset east of UTC in seconds. -/
def takeOffset? : List Char → Option (Int × List Char)
  | [] => none
  | sign :: rest =>
    if sign = 'Z' ∨ sign = 'z' then some (0, rest)
    else if sign = '+' ∨ sign ∈ minusSigns then do
      let (hours, rest) ← takeDigits? 2 rest
      let rest ← takeChar? ':' rest
      let (minutes, rest) ← takeDigits? 2 rest
      if 23 < hours ∨ 59 < minutes then none
      else
        let offset : Int := hours * 3600 + minutes * 60
        return (if sign = '+' then offset else -offset, rest)
    else none

def takeSeparator? : List Char → Option (List Char)
  | c :: rest => if c = 'T' ∨ c = 't' ∨ c = ' ' then some rest else none
  | [] => none

def readChars? (cs : List Char) : Option Date := do
  let (year, cs) ← takeDigits? 4 cs
  let cs ← takeChar? '-' cs
  let (month, cs) ← takeDigits? 2 cs
  let cs ← takeChar? '-' cs
  let (day, cs) ← takeDigits? 2 cs
  let cs ← takeSeparator? cs
  let (hour, cs) ← takeDigits? 2 cs
  let cs ← takeChar? ':' cs
  let (minute, cs) ← takeDigits? 2 cs
  let cs ← takeChar? ':' cs
  let (second, cs) ← takeDigits? 2 cs
  let (nanos, cs) ← takeFraction? cs
  let (offset, cs) ← takeOffset? cs
  let civil : Civil := ⟨year, month, day⟩
  if cs = [] ∧ civil.isValid ∧ hour ≤ 23 ∧ minute ≤ 59 ∧ second ≤ 60 then
    let inDay : Int := hour * 3600 + minute * 60 + (min second 59 : Nat)
    ofParts? (civil.toDays * secondsPerDay + inDay - offset)
      (nanos + if second = 60 then nanosPerSecond else 0)
  else
    none

def read? (s : String) : Option Date := readChars? s.toList

end VectorClient.Date
