import RecordSql.Middleware.QueryLog
import RecordSql.Middleware.SlowQuery
/-! # Middlewares and executions in log lines -/
set_option autoImplicit false
namespace RecordSql

open Text

def flagText (b : Bool) : String := if b then "true" else "false"

def Level.shownName : Level → String
  | error => "Error" | warn => "Warn" | info => "Info" | debug => "Debug" | trace => "Trace"

def QueryLog.inspect (l : QueryLog) : String :=
  record "QueryLog"
    [("level", applied "Level" l.level.shownName),
     ("max_sql_length", Text.optional (l.textLimit.map toString)),
     ("custom_log_fn", flagText l.sink.isSome)]
    false

def SlowQuery.inspect (s : SlowQuery) : String :=
  record "SlowQuery"
    [("threshold", s.threshold.text), ("custom_log_fn", flagText s.sink.isSome)] false

def QueryType.shownName : QueryType → String
  | select => "Select" | insert => "Insert" | update => "Update" | delete => "Delete" | raw => "Raw"

def Query.inspect (q : Query) : String :=
  record "Query" [("sql", quoted q.sql), ("args", Value.inspectList q.args)] false

def Execution.inspect {σ ρ : Type} (x : Execution σ ρ) : String :=
  record "QueryContext"
    [("query_type", x.queryType.shownName), ("table", quoted x.table),
     ("query", Text.optional (x.query.map Query.inspect))]
    true

namespace Entity

def Accessor.inspect {e : Entity} (a : e.Accessor) : String :=
  record "FieldAccessor" [("name", quoted a.name)] true

def inspectAccessors (e : Entity) : String := bracketed (e.accessors.map Accessor.inspect)

end Entity

end RecordSql
