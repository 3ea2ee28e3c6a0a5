import RecordSql.Number.Shortest
/-! # The text of a binary number

A number is written with the shortest digits that read back. From `0.0001` up to below
`10 ^ 16` the point stands in its place and at least one digit follows it; other numbers
have an exponent. -/
set_option autoImplicit false
namespace RecordSql

/-- How decimals are written: the least and the greatest power of ten of the first digit
that still gets no exponent. -/
structure DecimalStyle where
  leastPlain : Int
  greatestPlain : Int

/-- Numbers in log lines: plain from `0.0001` to below `10 ^ 16`. -/
def logStyle : DecimalStyle := ⟨-4, 15⟩

namespace Decimal

def digitChars (d : Decimal) : List Char := Nat.toDigits 10 d.digits

/-- Digits with the point in its place, where `power` is the power of ten of the first. -/
def plain (digits : List Char) (power : Int) : List Char :=
  if power < 0 then
    '0' :: '.' :: (List.replicate (-power - 1).toNat '0' ++ digits)
  else
    let count := power.toNat + 1
    let whole := digits.take count
    let fraction := digits.drop count
    whole ++ List.replicate (count - whole.length) '0'
      ++ '.' :: (if fraction.isEmpty then ['0'] else fraction)

/-- Digits with an exponent: one digit, the others behind the point, the power of ten. -/
def scientific (digits : List Char) (power : Int) : List Char :=
  let mantissa := match digits with
    | [] => []
    | [digit] => [digit]
    | digit :: rest => digit :: '.' :: rest
  mantissa ++ 'e' :: (toString power).toList

def text (style : DecimalStyle) (d : Decimal) : String :=
  let digits := d.digitChars
  let power := d.exponent + (digits.length - 1 : Nat)
  .ofList <|
    if style.leastPlain ≤ power && power ≤ style.greatestPlain then plain digits power
    else scientific digits power

end Decimal

def Binary64.text (x : Binary64) : String :=
  let sign := if x.isNegative then "-" else ""
  if x.isNaN then "NaN"
  else if x.magnitude = BinaryFormat.double.infinity then sign ++ "inf"
  else if x.magnitude = 0 then sign ++ "0.0"
  else
    let (m, q) := BinaryFormat.double.decode x.magnitude
    sign ++ (Decimal.shortest .double m q).text logStyle

end RecordSql
