import RecordSql.Value.Convert
/-! # Errors

Why a model cannot be derived, a statement cannot be built or a query does not give its
result. Each cause is a constructor; the wording is in `Error.message`. -/
set_option autoImplicit false
namespace RecordSql

inductive BindCause
  | wrongType
  | outOfRange
  deriving DecidableEq

/-- What a PostgreSQL connection reports. -/
inductive ClientFailure
  /-- The statement has another number of parameters than arguments were given. -/
  | parameterCount (expected given : Nat)
  /-- A parameter, counted from zero, cannot be sent. -/
  | parameter (position : Nat) (cause : BindCause)
  /-- The statement cannot be sent, since its text holds the character that ends a text. -/
  | terminatorInText
  /-- A row of the answer has another number of cells than the answer has columns. -/
  | unevenRow
  /-- The server refused, with its own words. -/
  | refused (words : String)
  deriving DecidableEq

def ClientFailure.message : ClientFailure → String
  | parameterCount expected given =>
    "expected " ++ toString expected ++ " parameters but got " ++ toString given
  | parameter position _ => "error serializing parameter " ++ toString position
  | terminatorInText => "error encoding message to server"
  | unevenRow => "error parsing response from server"
  | refused _ => "db error"

def ClientFailure.detail? : ClientFailure → Option String
  | parameterCount _ _ => none
  | parameter _ _ => none
  | terminatorInText => some "string contains embedded null"
  | unevenRow => some "DataRow field count does not match the number of columns"
  | refused words => some ("ERROR: " ++ words)

inductive DatabaseFailure
  | reported (words : String)
  | client (failure : ClientFailure)
  deriving DecidableEq

def DatabaseFailure.message : DatabaseFailure → String
  | reported words => words
  | client failure => failure.message

inductive Error
  /-- The record type has no fields. -/
  | invalidType (typeName : String)
  /-- A piece of a tag is not one key and one value. -/
  | invalidTagContent (piece : String)
  | unknownField (name : String)
  | unknownColumn (name : String)
  | unsupportedTable (name : String)
  | unsupportedAssignable (name : String)
  | invalidExpression (reason : String)
  /-- An insert without records. -/
  | insertZeroRow
  /-- A fetch without a result row. -/
  | noRows
  /-- An update with nothing to assign. -/
  | emptyAssignments
  /-- A cell does not fit its field, or a row its columns. -/
  | decode (column reason : String)
  /-- A middleware refused the statement. -/
  | aborted (reason : String)
  | database (failure : DatabaseFailure)
  | other (words : String)
  deriving DecidableEq

namespace Error

def message : Error → String
  | invalidType typeName => "invalid type: " ++ typeName ++ " is not a record with named fields"
  | invalidTagContent piece => "invalid tag content: " ++ piece
  | unknownField name => "unknown field: " ++ name
  | unknownColumn name => "unknown column: " ++ name
  | unsupportedTable name => "unsupported table: " ++ name
  | unsupportedAssignable name => "unsupported assignable: " ++ name
  | invalidExpression reason => "invalid expression: " ++ reason
  | insertZeroRow => "insert requires at least one row"
  | noRows => "no rows in result set"
  | emptyAssignments => "update requires at least one assignment"
  | decode column reason => "decode error on column '" ++ column ++ "': " ++ reason
  | aborted reason => "query aborted: " ++ reason
  | database failure => "database error: " ++ failure.message
  | other words => words

def isNoRows : Error → Bool
  | noRows => true
  | _ => false

def isUnknownField : Error → Bool
  | unknownField _ => true
  | _ => false

def isAborted : Error → Bool
  | aborted _ => true
  | _ => false

def hasCause : Error → Bool
  | database _ => true
  | _ => false

def ofConversion (column : String) (e : ConversionError) : Error := .decode column e.message

end Error

end RecordSql
