import ChartQuery.Calendar.Date

/-!
# Times of day and instants

A time of day has nanoseconds.  In the last second of a minute there may be two thousand
milliseconds, of which the second thousand are a leap second.
-/

namespace ChartQuery

/-! ### Times of day -/

namespace Calendar

/-- The number of nanoseconds of a millisecond. -/
def nanosPerMilli : Nat := 1000000

/-- The number of nanoseconds of a second. -/
def nanosPerSecond : Nat := 1000000000

/-- Whether hour, minute, second and nanosecond make a time of day. -/
def isClock (hour minute second nano : Nat) : Bool :=
  hour < 24 && minute < 60 && second < 60 &&
    (nano < nanosPerSecond || (second == 59 && nano < 2 * nanosPerSecond))

end Calendar

open Calendar

/-- A time of day. -/
structure Clock where
  hour : Nat
  minute : Nat
  second : Nat
  nano : Nat
  isClock : Calendar.isClock hour minute second nano = true
  deriving DecidableEq, Repr

namespace Clock

/-- The time of day with the given parts, if there is one. -/
def ofNanos? (hour minute second nano : Nat) : Option Clock :=
  if h : Calendar.isClock hour minute second nano = true then
    some ⟨hour, minute, second, nano, h⟩
  else none

/-- The time of day with the given parts, the last of them in milliseconds, if there is one. -/
def ofMillis? (hour minute second milli : Nat) : Option Clock :=
  ofNanos? hour minute second (milli * nanosPerMilli)

/-- The beginning of a day. -/
def midnight : Clock := ⟨0, 0, 0, 0, by decide⟩

instance : Inhabited Clock := ⟨midnight⟩

/-- The number of whole seconds since midnight. -/
def seconds (c : Clock) : Nat := 3600 * c.hour + 60 * c.minute + c.second

/-- The number of whole milliseconds of the second, over 999 in a leap second. -/
def millis (c : Clock) : Nat := c.nano / nanosPerMilli

/-- The number of whole milliseconds of the second as it is shown, at most 999. -/
def shownMillis (c : Clock) : Nat := min c.millis 999

/-- The number of whole milliseconds since midnight. -/
def millisOfDay (c : Clock) : Nat := 1000 * c.seconds + c.millis

/-- The time of day after so many milliseconds of a day. -/
def ofMillisOfDay? (ms : Nat) : Option Clock :=
  ofMillis? (ms / 3600000) (ms / 60000 % 60) (ms / 1000 % 60) (ms % 1000)

end Clock

/-! ### Instants -/

/-- An instant: a date and a time of day, without a zone. -/
structure Instant where
  date : Date
  clock : Clock
  deriving DecidableEq, Inhabited, Repr

namespace Instant

/-- The number of milliseconds of a day. -/
def millisPerDay : Nat := 86400000

/-- The number of milliseconds since the beginning of 1970.  A leap second counts as the second
after it. -/
def epochMillis (i : Instant) : Int :=
  millisPerDay * (i.date.number - Date.epoch.number) + i.clock.millisOfDay

/-- The instant so many milliseconds after the beginning of 1970, if it belongs to the calendar. -/
def ofEpochMillis? (ms : Int) : Option Instant := do
  let date ← Date.ofNumber? (Date.epoch.number + ms / millisPerDay)
  let clock ← Clock.ofMillisOfDay? (ms % millisPerDay).toNat
  return ⟨date, clock⟩

/-- The beginning of a date. -/
def ofDate (d : Date) : Instant := ⟨d, .midnight⟩

/-- A time of day on the first day of 1970. -/
def ofClock (c : Clock) : Instant := ⟨.epoch, c⟩

/-- The instant in universal time of which a clock that is ahead by so many minutes, less than a
day, shows this instant. -/
def subOffset? (i : Instant) (offset : Int) : Option Instant := do
  let m := (60 * i.clock.hour + i.clock.minute : Int) - offset
  let date ← if m < 0 then i.date.pred? else if 1440 ≤ m then i.date.succ? else some i.date
  let m := (m % 1440).toNat
  let clock ← Clock.ofNanos? (m / 60) (m % 60) i.clock.second i.clock.nano
  return ⟨date, clock⟩

end Instant

end ChartQuery
