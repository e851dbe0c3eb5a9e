/-!
# Instants

A point in time is a count of whole seconds since the epoch and the nanoseconds that have passed
within the second. A leap second counts as a second that is two seconds long. The seconds are
bounded on both sides, some 262 thousand years from the epoch.

* `WideColumn.Instant`: the type, with its bounds;
* `WideColumn.Instant.millis`: the milliseconds since the epoch, which is what a column stores;
* `WideColumn.Instant.ofMillis?`: the instant a stored count stands for.
-/

namespace WideColumn

/-- A point in time. -/
structure Instant where
  /-- Whole seconds since the epoch. -/
  seconds : Int
  /-- Nanoseconds within the second, more than 10⁹ within a leap second. -/
  nanos : Nat
  le_seconds : -8334601228800 ≤ seconds := by decide
  seconds_le : seconds ≤ 8210266876799 := by decide
  nanos_lt : nanos < 2000000000 := by decide
  deriving DecidableEq, Repr

namespace Instant

/-- The first of January 1970. -/
def epoch : Instant := ⟨0, 0, by decide, by decide, by decide⟩

instance : Inhabited Instant := ⟨epoch⟩

/-- The instant of the given parts, if there is one. -/
def ofParts? (seconds : Int) (nanos : Nat) : Option Instant :=
  if h : -8334601228800 ≤ seconds ∧ seconds ≤ 8210266876799 ∧ nanos < 2000000000 then
    some ⟨seconds, nanos, h.1, h.2.1, h.2.2⟩
  else none

/-- The milliseconds since the epoch, with the rest of the millisecond dropped. -/
def millis (t : Instant) : Int :=
  t.seconds * 1000 + (t.nanos / 1000000 : Nat)

/-- The least count of milliseconds that stands for an instant. -/
def minMillis : Int := -8334601228800000

/-- The greatest count of milliseconds that stands for an instant. -/
def maxMillis : Int := 8210266876799999

/-- The instant of a count of milliseconds since the epoch, if it is not too far away. -/
def ofMillis? (millis : Int) : Option Instant :=
  if h : minMillis ≤ millis ∧ millis ≤ maxMillis then
    some ⟨millis / 1000, (millis % 1000).toNat * 1000000,
      by unfold minMillis maxMillis at h; omega, by unfold minMillis maxMillis at h; omega,
      by omega⟩
  else none

/-- Reading a stored count and storing the instant again keeps the count. -/
theorem millis_of_ofMillis? {n : Int} {t : Instant} (h : ofMillis? n = some t) : t.millis = n := by
  unfold ofMillis? at h
  split at h
  · injection h with h
    subst h
    simp only [millis]
    omega
  · exact absurd h nofun

end Instant

end WideColumn
