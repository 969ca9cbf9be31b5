import VectorClient.Date.Calendar

/-!
# Instants

A `Date` is a count of seconds since 1970 in UTC with nanoseconds. A leap second is the second
before it with a billion nanoseconds or more.
-/

namespace VectorClient

namespace Date

def nanosPerSecond : Nat := 1000000000

def secondsPerDay : Int := 86400

def minSeconds : Int := Civil.toDays ⟨-262143, 1, 1⟩ * secondsPerDay

def maxSeconds : Int := (Civil.toDays ⟨262142, 12, 31⟩ + 1) * secondsPerDay - 1

/-- In the kept range, and leap seconds only at the end of a minute. -/
def IsKept (seconds : Int) (nanos : Nat) : Prop :=
  minSeconds ≤ seconds ∧ seconds ≤ maxSeconds ∧
    (nanos < nanosPerSecond ∨ seconds % 60 = 59 ∧ nanos < 2 * nanosPerSecond)

instance (seconds : Int) (nanos : Nat) : Decidable (IsKept seconds nanos) :=
  inferInstanceAs (Decidable (_ ∧ _ ∧ _))

end Date

structure Date where
  seconds : Int
  nanos : Nat
  isKept : Date.IsKept seconds nanos
deriving DecidableEq, Repr

namespace Date

/-- The instant of a second and its nanoseconds, if it can be kept. -/
def ofParts? (seconds : Int) (nanos : Nat) : Option Date :=
  if h : IsKept seconds nanos then some ⟨seconds, nanos, h⟩ else none

def epoch : Date := ⟨0, 0, by decide⟩

instance : Inhabited Date := ⟨epoch⟩

def civil (d : Date) : Civil := Civil.ofDays (d.seconds.fdiv secondsPerDay)

def secondOfDay (d : Date) : Nat := (d.seconds.fmod secondsPerDay).toNat

/-- The instant of a count of milliseconds since 1970, if it can be kept. -/
def ofMillis? (millis : Int) : Option Date :=
  ofParts? (millis.fdiv 1000) ((millis.fmod 1000).toNat * 1000000)

end Date

end VectorClient
