import RecordSql.Text.LetterCase
/-! # Column and table names from identifiers

The spelling of a declared name in the database: words in small letters, joined by
underscores. A name that is all capitals is one word; otherwise every ASCII capital
starts a word. -/
set_option autoImplicit false
namespace RecordSql

open Text

/-- The characters with every ASCII capital written small behind an underscore. -/
def splitWords : List Char → List Char
  | [] => []
  | c :: rest =>
    if isAsciiCapital c then '_' :: asciiSmall c :: splitWords rest else c :: splitWords rest

def dropUnderscore : List Char → List Char
  | [] => []
  | c :: rest => if c == '_' then rest else c :: rest

def underscoreChars (name : List Char) : List Char :=
  if allCapitals name then lowercase name else dropUnderscore (splitWords name)

/-- The database spelling of an identifier. -/
def underscoreName (name : String) : String := .ofList (underscoreChars name.toList)

end RecordSql
