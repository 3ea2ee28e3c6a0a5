/-! # Numbered placeholders

PostgreSQL numbers its placeholders from one. A question mark between two apostrophes or two
quotation marks is no placeholder. -/
set_option autoImplicit false
namespace RecordSql.Postgres

def quoteAfter (quote : Option Char) (c : Char) : Option Char :=
  match quote with
  | some q => if c = q then none else some q
  | none => if c = '\x27' || c = '"' then some c else none

/-- The characters with numbered placeholders, where `count` placeholders stood before. -/
def numberChars (quote : Option Char) (count : Nat) : List Char → List Char
  | [] => []
  | c :: rest =>
    if quote.isNone && c == '?' then
      '$' :: (Nat.toDigits 10 (count + 1) ++ numberChars none (count + 1) rest)
    else c :: numberChars (quoteAfter quote c) count rest

def numberPlaceholders (sql : String) : String := .ofList (numberChars none 0 sql.toList)

end RecordSql.Postgres
