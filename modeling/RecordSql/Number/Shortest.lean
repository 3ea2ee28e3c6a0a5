import RecordSql.Number.Binary
/-! # The shortest decimal of a binary number

Among the decimals that read back as a given number, one with the fewest digits, and of
those the nearest to the number. The search looks, for one digit, two digits and so on, at
the two decimals next to the number and takes the first that reads back. -/
set_option autoImplicit false
namespace RecordSql

structure Ratio where
  numerator : Nat
  denominator : Nat

namespace Ratio

/-- The value `m * 2 ^ q`. -/
def ofBinary (m : Nat) (q : Int) : Ratio := ⟨m <<< q.toNat, 1 <<< (-q).toNat⟩

def powerOfTen (n : Nat) : Nat := Nat.pow 10 n

/-- The value `d * 10 ^ e`. -/
def ofDecimal (d : Nat) (e : Int) : Ratio := ⟨d * powerOfTen e.toNat, powerOfTen (-e).toNat⟩

def lt (x y : Ratio) : Bool := decide (x.numerator * y.denominator < y.numerator * x.denominator)

def le (x y : Ratio) : Bool := !y.lt x

end Ratio

/-- The decimals `digits * 10 ^ exponent`. -/
structure Decimal where
  digits : Nat
  exponent : Int

namespace Decimal

def toRatio (d : Decimal) : Ratio := .ofDecimal d.digits d.exponent

/-- The largest multiple of `10 ^ exponent` that does not exceed the value. -/
def floorAt (value : Ratio) (exponent : Int) : Nat :=
  value.numerator * Ratio.powerOfTen (-exponent).toNat
    / (value.denominator * Ratio.powerOfTen exponent.toNat)

/-- The least `exponent`, counted up from `start`, with `value < 10 ^ exponent`, if it is
found in `fuel` steps. -/
def boundFrom (value : Ratio) (start : Int) : Nat → Int
  | 0 => start
  | fuel + 1 =>
    if value.lt (.ofDecimal 1 start) then start else boundFrom value (start + 1) fuel

end Decimal

/-- The decimals that read back as one number: those between its two midpoints with its
neighbours, which belong to it when its significand is even. -/
structure ReadingInterval where
  low : Ratio
  high : Ratio
  closed : Bool

namespace ReadingInterval

/-- The interval of `m * 2 ^ q`. Below a power of two the neighbour is at half the
distance. -/
def ofBinary (f : BinaryFormat) (m : Nat) (q : Int) : ReadingInterval :=
  let atPower := m = 1 <<< f.fractionBits && f.leastExponent < q
  { low := .ofBinary (if atPower then 4 * m - 1 else 4 * m - 2) (q - 2)
    high := .ofBinary (4 * m + 2) (q - 2)
    closed := m % 2 = 0 }

def contains (i : ReadingInterval) (x : Ratio) : Bool :=
  if i.closed then i.low.le x && x.le i.high else i.low.lt x && x.lt i.high

end ReadingInterval

namespace Decimal

/-- The neighbour of `value` on the grid of multiples of `10 ^ exponent` that reads back; of
two the nearer, and the larger on a tie. -/
def onGrid (value : Ratio) (i : ReadingInterval) (exponent : Int) : Option Decimal :=
  let below : Decimal := ⟨floorAt value exponent, exponent⟩
  let above : Decimal := ⟨below.digits + 1, exponent⟩
  let belowReads := below.digits ≠ 0 && i.contains below.toRatio
  let aboveReads := i.contains above.toRatio
  if belowReads && aboveReads then
    some <|
      if value.lt (.ofDecimal ((2 * below.digits + 1) * 5) (exponent - 1)) then below else above
  else if belowReads then some below
  else if aboveReads then some above
  else none

def search (value : Ratio) (i : ReadingInterval) (exponent : Int) : Nat → Decimal
  | 0 => ⟨floorAt value exponent, exponent⟩
  | fuel + 1 =>
    match onGrid value i exponent with
    | some d => d
    | none => search value i (exponent - 1) fuel

/-- The shortest decimal of the positive number `m * 2 ^ q` of the format. -/
def shortest (f : BinaryFormat) (m : Nat) (q : Int) : Decimal :=
  let value := Ratio.ofBinary m q
  let estimate := (q + m.log2) * 30103 / 100000 - 1
  search value (.ofBinary f m q) (boundFrom value estimate 4) 18

end Decimal

end RecordSql
