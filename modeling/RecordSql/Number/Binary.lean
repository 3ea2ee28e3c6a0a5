/-! # Binary floating point

The interchange formats of 32 and 64 bits, kept as bit patterns. A finite pattern stands
for `m * 2 ^ q` with a natural `m`; conversions go through that exact reading and round to
the nearest pattern, a tie to the even one. -/
set_option autoImplicit false
namespace RecordSql

/-- A binary interchange format, by the widths of its stored fields. -/
structure BinaryFormat where
  fractionBits : Nat
  exponentBits : Nat

namespace BinaryFormat

def single : BinaryFormat := ⟨23, 8⟩

def double : BinaryFormat := ⟨52, 11⟩

/-- The magnitude pattern of infinity; every larger one is not a number. -/
def infinity (f : BinaryFormat) : Nat := (1 <<< f.exponentBits - 1) <<< f.fractionBits

def signBit (f : BinaryFormat) : Nat := 1 <<< (f.exponentBits + f.fractionBits)

def leastExponent (f : BinaryFormat) : Int :=
  2 - (1 <<< (f.exponentBits - 1) : Nat) - f.fractionBits

/-- The number `m * 2 ^ q` that a finite magnitude pattern stands for, as `(m, q)`. -/
def decode (f : BinaryFormat) (magnitude : Nat) : Nat × Int :=
  let exponent := magnitude >>> f.fractionBits
  let fraction := magnitude % 1 <<< f.fractionBits
  if exponent = 0 then (fraction, f.leastExponent)
  else (fraction + 1 <<< f.fractionBits, f.leastExponent + (exponent - 1 : Nat))

/-- The quotient of `m` by `2 ^ k`, to the nearest, a tie to the even one. -/
def shiftRounded (m k : Nat) : Nat :=
  let unit := 1 <<< k
  let whole := m / unit
  let twice := 2 * (m % unit)
  if unit < twice || (twice = unit && whole % 2 = 1) then whole + 1 else whole

/-- The magnitude pattern nearest to `m * 2 ^ q`, a tie to the even one; what is too large
becomes infinity. -/
def encode (f : BinaryFormat) (m : Nat) (q : Int) : Nat :=
  if m = 0 then 0
  else
    let exponent := max (q + m.log2 - f.fractionBits) f.leastExponent
    let scaled :=
      if exponent ≤ q then m <<< (q - exponent).toNat
      else shiftRounded m (exponent - q).toNat
    min f.infinity ((exponent - f.leastExponent).toNat <<< f.fractionBits + scaled)

/-- The pattern of the integer nearest in the format. -/
def ofInt (f : BinaryFormat) (n : Int) : Nat :=
  (if n < 0 then f.signBit else 0) + f.encode n.natAbs 0

/-- The pattern of the other format for the same number. What is not a number stays so: the
upper bits of its fraction are kept and the quiet bit is set. -/
def convert (source target : BinaryFormat) (bits : Nat) : Nat :=
  let magnitude := bits % source.signBit
  let sign := if source.signBit ≤ bits then target.signBit else 0
  if source.infinity < magnitude then
    let fraction := magnitude - source.infinity
    let quiet := 1 <<< (target.fractionBits - 1)
    let moved := fraction <<< target.fractionBits >>> source.fractionBits
    sign + target.infinity + (if moved / quiet % 2 = 1 then moved else moved + quiet)
  else if magnitude = source.infinity then sign + target.infinity
  else
    let (m, q) := source.decode magnitude
    sign + target.encode m q

end BinaryFormat

structure Binary32 where
  bits : UInt32
  deriving DecidableEq

structure Binary64 where
  bits : UInt64
  deriving DecidableEq

namespace Binary64

def zero : Binary64 := ⟨0⟩

def isNegative (x : Binary64) : Bool := decide (BinaryFormat.double.signBit ≤ x.bits.toNat)

def magnitude (x : Binary64) : Nat := x.bits.toNat % BinaryFormat.double.signBit

def isNaN (x : Binary64) : Bool := decide (BinaryFormat.double.infinity < x.magnitude)

/-- Equality of numbers: what is not a number equals nothing, and the two zeros are equal. -/
def equal (x y : Binary64) : Bool :=
  !x.isNaN && !y.isNaN && (x.bits == y.bits || (x.magnitude == 0 && y.magnitude == 0))

def ofInt (n : Int) : Binary64 := ⟨.ofNat (BinaryFormat.double.ofInt n)⟩

def toBinary32 (x : Binary64) : Binary32 :=
  ⟨.ofNat (BinaryFormat.double.convert .single x.bits.toNat)⟩

theorem equal_comm (x y : Binary64) : x.equal y = y.equal x := by
  simp only [equal, Bool.and_comm, BEq.comm]

/-- A number equals itself exactly when it is one. -/
theorem equal_self (x : Binary64) : x.equal x = !x.isNaN := by
  simp [equal]

end Binary64

namespace Binary32

def zero : Binary32 := ⟨0⟩

def ofInt (n : Int) : Binary32 := ⟨.ofNat (BinaryFormat.single.ofInt n)⟩

def toBinary64 (x : Binary32) : Binary64 :=
  ⟨.ofNat (BinaryFormat.single.convert .double x.bits.toNat)⟩

end Binary32

end RecordSql
