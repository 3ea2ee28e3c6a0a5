/-! # Durations

A length of time in whole nanoseconds, at most what 64 bits of seconds can say. Sums stop
at the greatest duration. -/
set_option autoImplicit false
namespace RecordSql

/-- A length of time in nanoseconds. -/
structure Duration where
  nanos : Nat
  deriving DecidableEq

namespace Duration

def zero : Duration := ⟨0⟩

/-- The greatest duration: `2 ^ 64 - 1` seconds and 999999999 nanoseconds. -/
def greatest : Duration := ⟨UInt64.size * 1000000000 - 1⟩

def ofParts (seconds nanos : Nat) : Duration := ⟨seconds * 1000000000 + nanos⟩

def ofMillis (millis : Nat) : Duration := ⟨millis * 1000000⟩

def seconds (d : Duration) : Nat := d.nanos / 1000000000

def subsecNanos (d : Duration) : Nat := d.nanos % 1000000000

def millis (d : Duration) : Nat := d.nanos / 1000000

def millis64 (d : Duration) : UInt64 := .ofNat d.millis

/-- The sum, or the greatest duration if that is less. -/
def add (a b : Duration) : Duration := ⟨min greatest.nanos (a.nanos + b.nanos)⟩

def max (a b : Duration) : Duration := ⟨Nat.max a.nanos b.nanos⟩

def fractionDigits (width n : Nat) : List Char :=
  let digits := Nat.toDigits 10 n
  let padded := List.replicate (width - digits.length) '0' ++ digits
  (padded.reverse.dropWhile (· == '0')).reverse

/-- A whole part and a fraction of `width` places, in a unit. -/
def inUnit (whole fraction width : Nat) (unit : String) : String :=
  let digits := fractionDigits width fraction
  toString whole ++ (if digits.isEmpty then "" else "." ++ .ofList digits) ++ unit

/-- The duration in the largest of the units second, millisecond, microsecond and
nanosecond that gives a whole part. -/
def text (d : Duration) : String :=
  let n := d.nanos
  if 1000000000 ≤ n then inUnit d.seconds d.subsecNanos 9 "s"
  else if 1000000 ≤ n then inUnit (n / 1000000) (n % 1000000) 6 "ms"
  else if 1000 ≤ n then inUnit (n / 1000) (n % 1000) 3 "µs"
  else inUnit n 0 0 "ns"

end Duration

end RecordSql
