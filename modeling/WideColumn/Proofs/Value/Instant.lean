import Mathlib
import WideColumn.Value.Instant

/-!
# Instants of whole milliseconds

A column keeps the milliseconds of an instant and drops the rest, so what comes back is the instant
of that count (`WideColumn.Instant.stored`). Dropping happens once: an instant that came out of a
column is the one that a column gives back for it. Nothing is dropped from an instant of whole
milliseconds (`WideColumn.Instant.IsWhole.stored_eq`).
-/

namespace WideColumn

namespace Instant

/-- **The instant that a column gives back**: the one of the same count of milliseconds. Within a
leap second at the very end of the range there is none, and the instant stands for itself. -/
def stored (t : Instant) : Instant :=
  (ofMillis? t.millis).getD t

/-- An instant that a column can give back: its count of milliseconds is in the range of counts. -/
def IsStorable (t : Instant) : Prop := minMillis ≤ t.millis ∧ t.millis ≤ maxMillis

/-- Counts outside the range stand for no instant. -/
theorem mem_range_of_ofMillis? {n : Int} {t : Instant} (h : ofMillis? n = some t) :
    minMillis ≤ n ∧ n ≤ maxMillis := by
  by_contra hrange
  rw [ofMillis?, dif_neg hrange] at h
  cases h

/-- An instant that was made from a count can be given back. -/
theorem isStorable_of_ofMillis? {n : Int} {t : Instant} (h : ofMillis? n = some t) :
    t.IsStorable := by
  rw [IsStorable, millis_of_ofMillis? h]
  exact mem_range_of_ofMillis? h

/-- Counts within the range stand for the instant that is given back. -/
theorem IsStorable.ofMillis?_millis {t : Instant} (h : t.IsStorable) :
    ofMillis? t.millis = some t.stored := by
  have hsome : ofMillis? t.millis = some _ := dif_pos h
  rw [stored, hsome, Option.getD_some]

/-- An instant that was made from a count is the instant of its own count. -/
theorem ofMillis?_millis {n : Int} {t : Instant} (h : ofMillis? n = some t) :
    ofMillis? t.millis = some t := by
  rw [millis_of_ofMillis? h, h]

/-- Dropping what is below the millisecond changes nothing the second time. -/
theorem stored_of_ofMillis? {n : Int} {t : Instant} (h : ofMillis? n = some t) :
    t.stored = t := by
  rw [stored, ofMillis?_millis h, Option.getD_some]

/-- **The milliseconds are what is kept.** -/
theorem millis_stored (t : Instant) : t.stored.millis = t.millis := by
  unfold stored
  cases h : ofMillis? t.millis with
  | none => rw [Option.getD_none]
  | some u => rw [Option.getD_some, millis_of_ofMillis? h]

/-- The milliseconds of an instant fit into eight bytes with room to spare. -/
theorem toInt_ofInt_millis (t : Instant) : (Int64.ofInt t.millis).toInt = t.millis := by
  have hlow := t.le_seconds
  have hhigh := t.seconds_le
  have hnanos := t.nanos_lt
  refine Int64.toInt_ofInt_of_le ?_ ?_
  · unfold millis
    omega
  · unfold millis
    omega

/-- An instant of whole milliseconds, outside of leap seconds. -/
def IsWhole (t : Instant) : Prop :=
  t.nanos < 1000000000 ∧ t.nanos % 1000000 = 0

/-- It can be given back. -/
theorem IsWhole.isStorable {t : Instant} (h : t.IsWhole) : t.IsStorable := by
  have hlow := t.le_seconds
  have hhigh := t.seconds_le
  have hnanos := h.1
  rw [IsStorable, minMillis, maxMillis, millis]
  omega

/-- **It is given back as it is.** -/
theorem IsWhole.stored_eq {t : Instant} (h : t.IsWhole) : t.stored = t := by
  obtain ⟨hlt, hmod⟩ := h
  have hrange : minMillis ≤ t.millis ∧ t.millis ≤ maxMillis := IsWhole.isStorable ⟨hlt, hmod⟩
  have hseconds : t.millis / 1000 = t.seconds := by
    rw [millis]
    omega
  have hnanos : (t.millis % 1000).toNat * 1000000 = t.nanos := by
    rw [millis]
    omega
  obtain ⟨seconds, nanos, hlow, hhigh, hbound⟩ := t
  simp only [stored, ofMillis?, dif_pos hrange, Option.getD_some, mk.injEq]
  exact ⟨hseconds, hnanos⟩

end Instant

end WideColumn
