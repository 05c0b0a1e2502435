import CatalogSearch.Time.Calendar

/-!
# Instants

A point in time, to the nanosecond, in UTC.  Versions of documents and deletions are instants, and
the later one wins.
-/

set_option autoImplicit false

namespace CatalogSearch.Time

/-- A point in time: seconds since the beginning of 1970 and nanoseconds within the second.  A leap
second is counted as nanoseconds above one thousand million in the second before it. -/
structure Instant where
  seconds : Int
  nanos : Nat
  deriving DecidableEq, Repr, Inhabited

namespace Instant

/-- Instants in time order. -/
def compare (a b : Instant) : Ordering :=
  (Ord.compare a.seconds b.seconds).then (Ord.compare a.nanos b.nanos)

instance : Ord Instant := ⟨Instant.compare⟩

instance : LT Instant := ⟨fun a b => a.seconds < b.seconds ∨ (a.seconds = b.seconds ∧ a.nanos < b.nanos)⟩

instance : LE Instant := ⟨fun a b => ¬ b < a⟩

instance (a b : Instant) : Decidable (a < b) :=
  inferInstanceAs (Decidable (_ ∨ _))

instance (a b : Instant) : Decidable (a ≤ b) :=
  inferInstanceAs (Decidable (¬ _))

/-- The beginning of the first second that the calendar reaches. -/
def firstSecond : Int := Date.toDays ⟨-262143, 1, 1⟩ * 86400

/-- The beginning of the second after the last one that the calendar reaches. -/
def endSecond : Int := Date.toDays ⟨262143, 1, 1⟩ * 86400

/-- Whether the calendar reaches the instant. -/
def inRange (t : Instant) : Bool := decide (firstSecond ≤ t.seconds) && decide (t.seconds < endSecond)

/-- The instant a number of seconds earlier, if the calendar reaches it. -/
def secondsBefore? (t : Instant) (seconds : Nat) : Option Instant :=
  let earlier : Instant := ⟨t.seconds - seconds, t.nanos⟩
  if earlier.inRange then some earlier else none

end Instant

end CatalogSearch.Time
