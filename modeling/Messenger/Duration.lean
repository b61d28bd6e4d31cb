/-!
# Durations

A duration is a whole number of nanoseconds.  There are fewer whole seconds in it
than there are 64-bit words.
-/

namespace Messenger

/-- The nanoseconds of a second. -/
def Duration.nanosPerSecond : Nat := 1000000000

/-- The nanoseconds of a millisecond. -/
def Duration.nanosPerMilli : Nat := 1000000

/-- The nanoseconds of a microsecond. -/
def Duration.nanosPerMicro : Nat := 1000

/-- A span of time in nanoseconds. -/
structure Duration where
  nanoseconds : Nat
  representable : nanoseconds < UInt64.size * Duration.nanosPerSecond
deriving DecidableEq, Repr

namespace Duration

/-- The longest duration. -/
def longest : Duration :=
  ⟨UInt64.size * nanosPerSecond - 1, by decide⟩

/-- A duration of whole milliseconds. -/
def ofMillis (millis : UInt64) : Duration :=
  ⟨millis.toNat * nanosPerMilli, by
    have := millis.toNat_lt_size
    simp only [nanosPerMilli, nanosPerSecond]
    omega⟩

/-- A duration of whole seconds. -/
def ofSeconds (seconds : UInt64) : Duration :=
  ⟨seconds.toNat * nanosPerSecond, by
    have := seconds.toNat_lt_size
    simp only [nanosPerSecond]
    omega⟩

/-- A duration of a number of nanoseconds, if there is one. -/
def ofNanos? (nanoseconds : Nat) : Option Duration :=
  if representable : nanoseconds < UInt64.size * nanosPerSecond then
    some ⟨nanoseconds, representable⟩
  else none

/-- Seconds and nanoseconds together; nanoseconds may exceed a second. -/
def ofParts? (seconds nanoseconds : Nat) : Option Duration :=
  ofNanos? (seconds * nanosPerSecond + nanoseconds)

/-- The whole seconds. -/
def seconds (d : Duration) : Nat :=
  d.nanoseconds / nanosPerSecond

/-- The nanoseconds beyond the whole seconds. -/
def subseconds (d : Duration) : Nat :=
  d.nanoseconds % nanosPerSecond

/-- The whole milliseconds. -/
def millis (d : Duration) : Nat :=
  d.nanoseconds / nanosPerMilli

/-- The whole milliseconds until the duration has passed. -/
def ticks (d : Duration) : Nat :=
  if d.nanoseconds % nanosPerMilli = 0 then d.millis else d.millis + 1

/-- The product with a factor, unless it is too long. -/
def scaled? (d : Duration) (factor : Nat) : Option Duration :=
  ofNanos? (d.nanoseconds * factor)

/-- The shorter of two durations. -/
def shorter (d e : Duration) : Duration :=
  if d.nanoseconds ≤ e.nanoseconds then d else e

/-- The digits of a fraction with `part` in its first `width` places, without trailing zeros. -/
def fraction (width part : Nat) : List Char :=
  let digits := Nat.toDigits 10 part
  let padded := List.replicate (width - digits.length) '0' ++ digits
  (padded.reverse.dropWhile (· = '0')).reverse

/-- A whole number, a fraction of `width` digits if it is not zero, and a unit. -/
def decimal (whole width part : Nat) (unit : String) : String :=
  match fraction width part with
  | [] => toString whole ++ unit
  | digits => toString whole ++ "." ++ String.ofList digits ++ unit

/-- The duration in the largest unit that leaves a whole part. -/
def render (d : Duration) : String :=
  if 0 < d.seconds then decimal d.seconds 9 d.subseconds "s"
  else if nanosPerMilli ≤ d.nanoseconds then
    decimal (d.nanoseconds / nanosPerMilli) 6 (d.nanoseconds % nanosPerMilli) "ms"
  else if nanosPerMicro ≤ d.nanoseconds then
    decimal (d.nanoseconds / nanosPerMicro) 3 (d.nanoseconds % nanosPerMicro) "µs"
  else decimal d.nanoseconds 0 0 "ns"

end Duration

end Messenger
