import Switchboard.Number.Layout

/-!
# Spans of time

A span is a number of nanoseconds. Documents hold spans in whole milliseconds, capped at the
greatest 64-bit number. Instants count nanoseconds as well, from the first one that a clock shows to
the last.
-/

namespace Switchboard

/-- The last instant that a clock can show. It counts whole seconds as a signed 64-bit number. -/
def lastInstant : Nat := 9223372036854775808 * 1000000000 - 1

structure Timespan where
  nanos : Nat
  deriving DecidableEq, Repr, Inhabited

namespace Timespan

def ofMillis (ms : Nat) : Timespan := { nanos := ms * 1000000 }

def ofSeconds (seconds nanos : Nat) : Timespan := { nanos := seconds * 1000000000 + nanos }

def seconds (t : Timespan) : Nat := t.nanos / 1000000000

/-- The nanoseconds beyond the whole seconds. -/
def subsecond (t : Timespan) : Nat := t.nanos % 1000000000

def millis (t : Timespan) : Nat := t.nanos / 1000000

/-- The whole milliseconds, or the greatest 64-bit number if there are more. -/
def cappedMillis (t : Timespan) : Nat := min t.millis 18446744073709551615

/-- The end of a span that begins at an instant, if a clock can show it. -/
def after? (t : Timespan) (now : Nat) : Option Nat :=
  if now + t.nanos ≤ lastInstant then some (now + t.nanos) else none

/-- A count of units with a remainder as a decimal fraction, its trailing zeros dropped. `digits` is
the number of digits of the remainder. -/
def inUnits (whole rest digits : Nat) (unit : String) : String :=
  let ds := Nat.toDigits 10 rest
  let padded := List.replicate (digits - ds.length) '0' ++ ds
  let kept := (padded.reverse.dropWhile (· == '0')).reverse
  let fraction := if kept = [] then "" else "." ++ String.ofList kept
  s!"{whole}{fraction}{unit}"

/-- The span in the greatest unit of which it has at least one. -/
def describe (t : Timespan) : String :=
  if t.nanos ≥ 1000000000 then inUnits t.seconds t.subsecond 9 "s"
  else if t.nanos ≥ 1000000 then inUnits (t.nanos / 1000000) (t.nanos % 1000000) 6 "ms"
  else if t.nanos ≥ 1000 then inUnits (t.nanos / 1000) (t.nanos % 1000) 3 "µs"
  else inUnits t.nanos 0 0 "ns"

end Timespan

end Switchboard
