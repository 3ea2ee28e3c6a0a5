import RecordSql.Expr.Basic
/-! # Row sources

What rows are selected from: a table or a join, nested as deep as needed. -/
set_option autoImplicit false
namespace RecordSql

inductive JoinKind
  | inner | left | right
  deriving DecidableEq

def JoinKind.sql : JoinKind → String
  | inner => "JOIN" | left => "LEFT JOIN" | right => "RIGHT JOIN"

/-- A table, or a join of two sources on equal fields of the statement's own entity, on
conditions, or on both. -/
inductive Source
  | table (t : Table)
  | join (kind : JoinKind) (left right : Source) (fields : List String)
    (conditions : List Predicate)

end RecordSql
