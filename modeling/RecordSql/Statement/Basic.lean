import RecordSql.Dialect
import RecordSql.Materializer
/-! # Statements

The statements on the records of one entity, and raw statements whose results are read as
such records. -/
set_option autoImplicit false
namespace RecordSql

/-- A selection. An empty projection selects every column. -/
structure Select where
  source : Option Source
  projection : List Selectable
  conditions : List Predicate
  groupBy : List Column
  having : List Predicate
  orderBy : List SortKey
  limit : Option UInt64
  offset : Option UInt64

/-- An insertion of records. An empty list of fields means all of them. -/
structure Insert (e : Entity) where
  records : List e.Record
  fields : List String
  upsert : Option Upsert

/-- An update. The record gives bare columns their values; with a record and no assignments
every field is assigned. -/
structure Update (e : Entity) where
  record : Option e.Record
  assignments : List Assignable
  conditions : List Predicate

/-- A deletion, from the entity's table or from one that is named. -/
structure Delete where
  table : Option String
  conditions : List Predicate

inductive Statement (e : Entity)
  | select (s : Select)
  | insert (s : Insert e)
  | update (s : Update e)
  | delete (s : Delete)
  | raw (r : RawExpr)

inductive QueryType
  | select | insert | update | delete | raw
  deriving DecidableEq

def QueryType.name : QueryType → String
  | select => "select" | insert => "insert" | update => "update" | delete => "delete" | raw => "raw"

namespace Statement

variable {e : Entity}

def queryType : Statement e → QueryType
  | select _ => .select
  | insert _ => .insert
  | update _ => .update
  | delete _ => .delete
  | raw _ => .raw

/-- Whether the statement has conditions, where that is known without its text. -/
def hasWhere : Statement e → Option Bool
  | update s => some (!s.conditions.isEmpty)
  | delete s => some (!s.conditions.isEmpty)
  | _ => none

end Statement

end RecordSql
