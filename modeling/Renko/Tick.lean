/-! # Ticks

A feed tells when something was traded, at what price and how much of it.
-/

/-! ## Instants

A point in time is a whole number of nanoseconds since the start of 1970, UTC. Feeds give
milliseconds; nanoseconds below a millisecond take part in comparisons and in nothing else.
-/

namespace Renko

/-- A point in time, in nanoseconds since 1970-01-01 00:00:00 UTC; negative before it. -/
structure Instant where
  nanos : Int
  deriving DecidableEq

namespace Instant

instance : LT Instant := ⟨fun first second => first.nanos < second.nanos⟩

instance : LE Instant := ⟨fun first second => first.nanos ≤ second.nanos⟩

instance : DecidableLT Instant := fun first second =>
  inferInstanceAs (Decidable (first.nanos < second.nanos))

instance : DecidableLE Instant := fun first second =>
  inferInstanceAs (Decidable (first.nanos ≤ second.nanos))

/-- The millisecond an instant lies in, counted from the start of 1970: rounded down, also before
it. -/
def millis (time : Instant) : Int := time.nanos / 1000000

/-- The start of a millisecond. -/
def ofMillis (ms : Int) : Instant := ⟨ms * 1000000⟩

/-- The first millisecond of the calendar, -262143-01-01 00:00:00. -/
def firstMillis : Int := -8334601228800000

/-- The last millisecond of the calendar, +262142-12-31 23:59:59.999. -/
def lastMillis : Int := 8210266876799999

/-- The start of a millisecond that the calendar reaches. -/
def ofMillis? (ms : Int) : Option Instant :=
  if firstMillis ≤ ms ∧ ms ≤ lastMillis then some (ofMillis ms) else none

/-- An instant made of milliseconds has these milliseconds. -/
@[simp] theorem millis_ofMillis (ms : Int) : (ofMillis ms).millis = ms := by
  simp [millis, ofMillis]

/-- Milliseconds make an instant if they are in range. -/
theorem ofMillis?_eq_some_iff {ms : Int} {time : Instant} :
    ofMillis? ms = some time ↔ firstMillis ≤ ms ∧ ms ≤ lastMillis ∧ ofMillis ms = time := by
  unfold ofMillis?
  split <;> grind

end Instant

/-! ## Ticks -/

/-- A traded price and volume at one instant. -/
structure Tick (α : Type) where
  time : Instant
  price : α
  volume : α
  deriving DecidableEq

/-- The tick at a millisecond, if the calendar reaches it. -/
def Tick.ofMillis? {α : Type} (ms : Int) (price volume : α) : Option (Tick α) :=
  (Instant.ofMillis? ms).map fun time => ⟨time, price, volume⟩

end Renko
