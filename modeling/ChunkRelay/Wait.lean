/-!
# Waiting times

A wait on a channel is either unbounded or bounded by a duration, and a duration has one text.
-/

set_option autoImplicit false

namespace ChunkRelay

structure Duration where
  nanoseconds : Nat
deriving DecidableEq, Repr, Inhabited

namespace Duration

def ofMilliseconds (count : Nat) : Duration :=
  ⟨count * 1000000⟩

/-- Whole seconds and nanoseconds together; the latter may exceed a second. -/
def ofParts (seconds nanoseconds : Nat) : Duration :=
  ⟨seconds * 1000000000 + nanoseconds⟩

def milliseconds (duration : Duration) : Nat :=
  duration.nanoseconds / 1000000

def longer (left right : Duration) : Duration :=
  ⟨max left.nanoseconds right.nanoseconds⟩

/-- The digits of `fraction`, read as a numerator over `10 ^ places`, without trailing zeros. -/
def fractionDigits (places fraction : Nat) : List Char :=
  let digits := Nat.toDigits 10 fraction
  let padded := List.replicate (places - digits.length) '0' ++ digits
  (padded.reverse.dropWhile (· == '0')).reverse

/-- `nanoseconds` in units of `10 ^ places` nanoseconds: a decimal without trailing zeros. -/
def inUnits (nanoseconds places : Nat) (unit : String) : String :=
  let whole := nanoseconds / Nat.pow 10 places
  let fraction := nanoseconds % Nat.pow 10 places
  let point := if fraction = 0 then "" else "." ++ String.ofList (fractionDigits places fraction)
  toString whole ++ point ++ unit

/-- A duration in the largest of the units s, ms, µs and ns in which it is at least one. -/
def text (duration : Duration) : String :=
  let n := duration.nanoseconds
  if 1000000000 ≤ n then inUnits n 9 "s"
  else if 1000000 ≤ n then inUnits n 6 "ms"
  else if 1000 ≤ n then inUnits n 3 "µs"
  else inUnits n 0 "ns"

end Duration

inductive Wait where
  | unbounded
  | atMost (limit : Duration)
deriving DecidableEq, Repr, Inhabited

namespace Wait

/-- A number of milliseconds bounds the wait; without one it has no end. -/
def ofMilliseconds? : Option Nat → Wait
  | none => .unbounded
  | some count => .atMost (.ofMilliseconds count)

def limit? : Wait → Option Duration
  | .unbounded => none
  | .atMost limit => some limit

def atLeast (least : Duration) : Wait → Wait
  | .unbounded => .unbounded
  | .atMost limit => .atMost (limit.longer least)

end Wait

end ChunkRelay
