import RecordSql.Error
import RecordSql.Text.Blank
/-! # Field tags

A tag is a text of `key=value` pieces separated by commas; blanks around keys and values do
not count and the last piece for a key decides. An empty text is an empty tag. -/
set_option autoImplicit false
namespace RecordSql

namespace Text

/-- The parts of the text between the separators; there is one more than separators. -/
def splitOn (separator : Char) : List Char → List (List Char)
  | [] => [[]]
  | c :: rest =>
    if c = separator then [] :: splitOn separator rest
    else match splitOn separator rest with
      | [] => [[c]]
      | part :: parts => (c :: part) :: parts

end Text

open Text

/-- The keys of a tag with their values, in the order of the text. -/
abbrev Tag := List (String × String)

namespace Tag

/-- The value that the last piece for the key gives. -/
def get? (tag : Tag) (key : String) : Option String :=
  (tag.findRev? fun entry => entry.1 == key).map Prod.snd

/-- One piece: exactly one equals sign between key and value. -/
def parsePiece (piece : List Char) : Except Error (String × String) :=
  let trimmed := trimChars piece
  match splitOn '=' trimmed with
  | [key, value] => .ok (.ofList (trimChars key), .ofList (trimChars value))
  | _ => .error (.invalidTagContent (.ofList trimmed))

def parsePieces : List (List Char) → Except Error Tag
  | [] => .ok []
  | piece :: rest =>
    match parsePiece piece with
    | .error e => .error e
    | .ok entry =>
      match parsePieces rest with
      | .error e => .error e
      | .ok entries => .ok (entry :: entries)

def parse (text : String) : Except Error Tag :=
  if text.isEmpty then .ok [] else parsePieces (splitOn ',' text.toList)

def render (tag : Tag) : String :=
  ",".intercalate (tag.map fun (key, value) => key ++ "=" ++ value)

end Tag

end RecordSql
