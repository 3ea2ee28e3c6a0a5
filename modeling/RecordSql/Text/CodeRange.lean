/-! # Sets of code points given as ranges

A Unicode property is stored as a list of closed ranges of code points; the functions
here decide membership. Properties of ASCII characters are decided by the modules that
hold the tables, so that a table only starts at code point 128. -/
set_option autoImplicit false
namespace RecordSql.Text

/-- Whether a code point lies in one of the closed ranges. -/
def inRanges (ranges : List (Nat × Nat)) (code : Nat) : Bool :=
  ranges.any fun range => decide (range.1 ≤ code) && decide (code ≤ range.2)

/-- Whether a code point is `first`, `last` or one of the members between them that lie
`step` apart. -/
def inSteps (first last step code : Nat) : Bool :=
  decide (first ≤ code) && decide (code ≤ last) && (code - first) % step == 0

end RecordSql.Text
