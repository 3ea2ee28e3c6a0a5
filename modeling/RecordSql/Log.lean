import RecordSql.Outcome
import RecordSql.Render.Piece
import RecordSql.Statement.Basic
import RecordSql.Time.Duration
import RecordSql.Value.Text
/-! # The log

What can be observed while statements run: trace records for a log collector, spans, what
middlewares report, and what happens at the databases. -/
set_option autoImplicit false
namespace RecordSql

inductive Level
  | error | warn | info | debug | trace
  deriving DecidableEq

def Level.name : Level → String
  | error => "ERROR" | warn => "WARN" | info => "INFO" | debug => "DEBUG" | trace => "TRACE"

abbrev LogFields : Type := List (String × String)

/-- A trace record. Its depth is the number of spans that were open. What was measured by the
clock stands apart from the fields that another run has as well. -/
structure Trace where
  target : String
  level : Level
  fields : LogFields
  measured : LogFields
  depth : Nat
  deriving DecidableEq

inductive Notice
  /-- An executor was called. -/
  | call (executor : String) (fetches : Bool) (query : Query)
  /-- A server prepared a statement. -/
  | parsed (sql : String)
  /-- A server received the parameters of a statement. -/
  | parameters (bytes : List (Option (List UInt8)))
  /-- A server received a command. -/
  | command (sql : String)
  deriving DecidableEq

inductive Event
  | trace (t : Trace)
  /-- A span around the execution of a statement was opened. -/
  | spanOpened (fields : LogFields)
  /-- The open span was given the text of its statement. -/
  | spanSql (sql : String)
  | backend (notice : Notice)
  /-- A named step was entered. -/
  | entered (step : String)
  /-- A named step was left with an outcome. -/
  | left (step : String) (outcome : Outcome)
  /-- A step looked at the query. -/
  | peeked (query : Query) (queryType : QueryType) (table : String) (hasWhere : Option Bool)
  /-- A statement was handed to a log of its own. -/
  | logged (query : Query)
  /-- A slow statement was handed to a log of its own. -/
  | loggedSlow (query : Query) (threshold : Duration)

end RecordSql
