import RecordSql.Time.Calendar
/-! # Timestamps

A moment without a time zone: whole seconds since 1 January 1970 and nanoseconds within
that second. A leap second is the second before it with a thousand million nanoseconds or
more. -/
set_option autoImplicit false
namespace RecordSql

structure Timestamp where
  seconds : Int
  nanos : Nat
  deriving DecidableEq

namespace Timestamp

def epoch : Timestamp := ⟨0, 0⟩

/-- The earliest and the latest whole second of the calendar that timestamps may name: years
-262143 to 262142. -/
def earliestSecond : Int := (Date.mk (-262143) 1 1).toDays * 86400

def latestSecond : Int := (Date.mk 262142 12 31).toDays * 86400 + 86399

def inRange (t : Timestamp) : Bool :=
  decide (earliestSecond ≤ t.seconds) && decide (t.seconds ≤ latestSecond)

def ofMicrosSince2000 (micros : Int) : Timestamp :=
  ⟨946684800 + micros / 1000000, (micros % 1000000).toNat * 1000⟩

def microsSince2000 (t : Timestamp) : Int :=
  Int.tdiv ((t.seconds - 946684800) * 1000000000 + t.nanos) 1000

def padded (width : Nat) (n : Nat) : String :=
  let digits := Nat.toDigits 10 n
  .ofList (List.replicate (width - digits.length) '0' ++ digits)

/-- A year: four digits, and with a sign and at least five places outside 0 to 9999. -/
def yearText (year : Int) : String :=
  if 0 ≤ year && year ≤ 9999 then padded 4 year.toNat
  else (if year < 0 then "-" else "+") ++ padded 4 year.natAbs

/-- The fraction of a second: nothing, or three, six or nine digits behind a point. -/
def fractionText (nanos : Nat) : String :=
  if nanos = 0 then ""
  else if nanos % 1000000 = 0 then "." ++ padded 3 (nanos / 1000000)
  else if nanos % 1000 = 0 then "." ++ padded 6 (nanos / 1000)
  else "." ++ padded 9 nanos

/-- The moment as log lines show it: date, `T`, time of day. A leap second is shown as
second 60. -/
def text (t : Timestamp) : String :=
  let date := Date.ofDays (t.seconds / 86400)
  let ofDay := (t.seconds % 86400).toNat
  let (second, nanos) :=
    if t.nanos < 1000000000 then (ofDay % 60, t.nanos) else (ofDay % 60 + 1, t.nanos - 1000000000)
  yearText date.year ++ "-" ++ padded 2 date.month ++ "-" ++ padded 2 date.day ++ "T"
    ++ padded 2 (ofDay / 3600) ++ ":" ++ padded 2 (ofDay / 60 % 60) ++ ":" ++ padded 2 second
    ++ fractionText nanos

end Timestamp

end RecordSql
