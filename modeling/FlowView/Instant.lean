import FlowView.Calendar
/-!
# Instants

A point of UTC time to the nanosecond, leap seconds included. Dates arrive as milliseconds since 1970
or as text (`FlowView.Instant.Text`) and are kept in the range of years that milliseconds may name.
-/

namespace FlowView

/-- A point of UTC time: seconds since 1970, and nanoseconds within the second. A leap second belongs
to the second before it and has a billion nanoseconds more. -/
structure Instant where
  seconds : Int
  nanos : Nat
  nanos_lt : nanos < 2000000000
  low : -8334601228800 ≤ seconds
  high : seconds ≤ 8210266876799
  deriving DecidableEq, Repr

namespace Instant

def nanosPerSecond : Nat := 1000000000

def secondsPerDay : Nat := 86400

/-- The start of 1970. -/
def epoch : Instant := ⟨0, 0, by decide, by decide, by decide⟩

instance : Inhabited Instant := ⟨epoch⟩

/-- The instant of these seconds and nanoseconds, if it lies in range. -/
def ofSeconds? (seconds : Int) (nanos : Nat) : Option Instant :=
  if h : nanos < 2000000000 ∧ -8334601228800 ≤ seconds ∧ seconds ≤ 8210266876799 then
    some ⟨seconds, nanos, h.1, h.2.1, h.2.2⟩
  else none

/-- The instant of a count of milliseconds, if it lies in range. -/
def ofMillis? (millis : Int) : Option Instant :=
  ofSeconds? (millis / 1000) ((millis % 1000).toNat * 1000000)

/-- The whole milliseconds up to an instant. -/
def millis (t : Instant) : Int := t.seconds * 1000 + (t.nanos / 1000000 : Nat)

def isLeapSecond (t : Instant) : Bool := nanosPerSecond ≤ t.nanos

/-- The seconds since midnight. -/
def secondOfDay (t : Instant) : Nat := (t.seconds % secondsPerDay).toNat

/-- The leap second to count between two instants, by their times of day. -/
def leapBetween (later earlier : Instant) : Int :=
  if earlier.secondOfDay < later.secondOfDay ∧ earlier.isLeapSecond then 1
  else if later.secondOfDay < earlier.secondOfDay ∧ later.isLeapSecond then -1
  else 0

/-- The nanoseconds from one instant to another. -/
def nanosSince (later earlier : Instant) : Int :=
  (later.seconds - earlier.seconds + leapBetween later earlier) * nanosPerSecond
    + later.nanos - earlier.nanos

/-- The milliseconds from one instant to another; a part of one counts for nothing. -/
def millisSince (later earlier : Instant) : Int := (later.nanosSince earlier).tdiv 1000000

end Instant
end FlowView
