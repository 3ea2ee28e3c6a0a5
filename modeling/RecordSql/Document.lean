/-! # Documents

Structured data as configuration files hold it. -/
set_option autoImplicit false
namespace RecordSql

/-- A piece of structured data. Numbers that are not natural are kept apart. -/
inductive Document
  | null
  | bool (b : Bool)
  | natural (n : Nat)
  | otherNumber (written : String)
  | text (s : String)
  | list (items : List Document)
  | record (entries : List (String × Document))

/-- The entry of a record with this key; of several the last. -/
def Document.entry? (entries : List (String × Document)) (key : String) : Option Document :=
  (entries.findRev? fun entry => entry.1 == key).map Prod.snd

end RecordSql
