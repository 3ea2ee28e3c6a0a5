/-! # Shortening by bytes

The longest beginning of a text that fits into a number of UTF-8 bytes. A character is
never divided: a scan that goes back from the limit ends where a character begins. -/
set_option autoImplicit false
namespace RecordSql.Text

def takeBytes (limit : Nat) : List Char → List Char
  | [] => []
  | c :: rest => if c.utf8Size ≤ limit then c :: takeBytes (limit - c.utf8Size) rest else []

/-- The longest beginning of at most `limit` bytes. -/
def truncateBytes (limit : Nat) (s : String) : String := .ofList (takeBytes limit s.toList)

/-- The text, or its beginning and three dots if it has more bytes than the limit. -/
def shorten (limit : Option Nat) (s : String) : String :=
  match limit with
  | none => s
  | some limit => if limit < s.utf8ByteSize then truncateBytes limit s ++ "..." else s

/-- Whether a character begins or the text ends in front of the byte at an offset. -/
def isBoundary (s : String) (offset : Nat) : Bool := String.Pos.Raw.isValid s ⟨offset⟩

def scanBack (s : String) : Nat → Nat
  | 0 => 0
  | offset + 1 => if isBoundary s (offset + 1) then offset + 1 else scanBack s offset

/-- The text in front of an offset; nothing if the offset is not a boundary. -/
def front? (s : String) (offset : Nat) : Option String :=
  if boundary : isBoundary s offset = true then
    some (s.sliceTo (s.pos ⟨offset⟩ (String.Pos.Raw.isValid_eq_true_iff.mp boundary))).copy
  else none

/-- The text, or what stands in front of the boundary that is found from the limit. -/
def truncateAtBoundary? (limit : Nat) (s : String) : Option String :=
  if s.utf8ByteSize ≤ limit then some s else front? s (scanBack s limit)

end RecordSql.Text
