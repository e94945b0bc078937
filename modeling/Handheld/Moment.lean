/-! Moments and spans of time, both in whole nanoseconds, the grain of the clock. -/

namespace Handheld

/-- A moment, in nanoseconds after some fixed beginning. -/
abbrev Moment := Nat

/-- A span of time, in nanoseconds. -/
abbrev Span := Nat

namespace Span

/-- The time from one moment to another. A clock that went back has measured nothing. -/
def between (earlier later : Moment) : Span := later - earlier

def ofMicros (micros : Nat) : Span := 1000 * micros

def ofMillis (millis : Nat) : Span := 1000000 * millis

def ofSeconds (seconds : Nat) : Span := 1000000000 * seconds

/-- Whole milliseconds, rounded down. -/
def toMillis (span : Span) : Nat := span / 1000000

end Span

end Handheld
